/-
The search engine. A request is turned into a statement in a fixed order: what
the scopes grant, the dialect of the domain, the condition, and for a search
the sort plan; the first of these that fails is the outcome. Only then the
store is asked. A count reports every failure. A search reports those that the
caller has to answer for, and answers a failure of store or directory with no
keys.

An engine is pure. What outlives a request is the session: the dialects that
are known, and a record of what the store was asked.
-/
import IdentitySearch.Config
import IdentitySearch.Dialect.Cache
import IdentitySearch.Selection.OfCondition
import IdentitySearch.Statement.Basic

namespace IdentitySearch

-- =============================================================== stores

/-- Where statements are answered. -/
structure Store where
  detect : Except Error Dialect
  count : CountStatement → Except Error Nat
  fetch : SearchStatement → Except Error (List String)

/-- What a store was asked. -/
inductive Call where
  | detect
  | count (s : CountStatement)
  | fetch (s : SearchStatement)

/-- What outlives a request. -/
structure Session where
  cache : DialectCache := .empty
  /-- What the store was asked, in this order. -/
  calls : List Call := []

namespace Session

/-- Nothing is known and nothing was asked. -/
def start : Session := {}

/-- The session after one question more to the store. -/
def record (s : Session) (call : Call) : Session :=
  { s with calls := s.calls ++ [call] }

end Session

-- ============================================================= requests

/-- Which identities are asked for, and on whose behalf. -/
structure Request where
  base : Realm
  recursive : Bool
  scopes : List String
  condition : Condition
  kind : Kind

/-- The keys of a page, with the number of all matches. -/
structure ResultPage where
  keys : List String
  total : Nat
deriving DecidableEq

/-- A search engine. -/
structure Engine where
  config : Config
  directory : Directory
  store : Store

namespace Engine

-- =============================================================== dialect

/-- The dialect of the engine's domain: configured, or known, or asked for. -/
def dialect (e : Engine) (s : Session) : Except Error Dialect × Session :=
  match e.config.dialect with
  | some d => (.ok d, s)
  | none =>
    let asked := if (s.cache.get? e.config.domain).isNone
        then s.record .detect else s
    let (answer, cache) := s.cache.getOrDetect e.config.domain e.store.detect
    (answer, { asked with cache := cache })

-- ============================================================ statements

/-- What the conditions of a request are compiled for. -/
def setting (e : Engine) (r : Request) (d : Dialect) : Setting :=
  { kind := r.kind, dialect := d, directory := e.directory,
    realmField := e.config.realmField }

/-- The identities of a request, and whether one of the attributes in its
condition is optional. -/
structure Prepared where
  target : Target
  optional : Bool

/-- Prepares a request under a restriction, for a dialect. -/
def prepareFor (e : Engine) (r : Request) (f : ScopeFilter) (d : Dialect) :
    Except Error Prepared :=
  ((e.setting r d).ofCondition (f.restrict r.kind r.condition)).map fun c =>
    ⟨⟨r.kind, c.selection, f.visibility⟩, c.optional⟩

/-- Prepares a request. The dialect is needed only once the scopes are
clear. -/
def prepare (e : Engine) (r : Request)
    (s : Session) : Except Error Prepared × Session :=
  match ScopeFilter.make e.directory r.base r.recursive r.scopes with
  | .error err => (.error err, s)
  | .ok f =>
    let (d, s) := e.dialect s
    (d.bind (e.prepareFor r f), s)

/-- The statement that counts what a request asks for. -/
def countStatement (e : Engine) (r : Request) (s : Session) :
    Except Error CountStatement × Session :=
  let (p, s) := e.prepare r s
  (p.map fun p => ⟨p.target⟩, s)

/-- The window of a page, its size clamped to what is configured. -/
def window (e : Engine) (p : Pagination) : Window :=
  let clamped := { p with size := e.config.clampPageSize p.size }
  ⟨clamped.offset, clamped.size⟩

/-- The search for prepared identities. -/
def searchOf (e : Engine) (r : Request) (page : PageRequest) (p : Prepared) :
    Except Error SearchStatement :=
  (SortPlan.make r.kind e.directory page.sort).map fun plan =>
    { target := p.target
      plan := plan
      augmented := plan.optional || p.optional
      window := page.pagination.map e.window }

/-- The statement that lists what a request asks for. -/
def searchStatement (e : Engine) (r : Request) (page : PageRequest)
    (s : Session) :
    Except Error SearchStatement × Session :=
  let (p, s) := e.prepare r s
  (p.bind (e.searchOf r page), s)

-- =============================================================== answers

/-- The number of identities that a request asks for. -/
def count (e : Engine) (r : Request)
    (s : Session) : Except Error Nat × Session :=
  match e.countStatement r s with
  | (.error err, s) => (.error err, s)
  | (.ok statement, s) =>
    (e.store.count statement, s.record (.count statement))

/-- Lists what a request asks for, every failure reported. -/
def fetch (e : Engine) (r : Request) (page : PageRequest) (s : Session) :
    Except Error (List String) × Session :=
  match e.searchStatement r page s with
  | (.error err, s) => (.error err, s)
  | (.ok statement, s) =>
    (e.store.fetch statement, s.record (.fetch statement))

/-- The keys that are answered: each once, and none where store or directory
failed. -/
def answer : Except Error (List String) → Except Error (List String)
  | .ok keys => .ok keys.eraseDups
  | .error err => if err.isClient then .error err else .ok []

/-- The keys of the identities that a request asks for, each once. -/
def search (e : Engine) (r : Request) (page : PageRequest) (s : Session) :
    Except Error (List String) × Session :=
  let (keys, s) := e.fetch r page s
  (answer keys, s)

/-- A page of keys with the number of all matches. -/
def searchPage (e : Engine) (r : Request) (page : PageRequest) (s : Session) :
    Except Error ResultPage × Session :=
  match e.count r s with
  | (.error err, s) => (.error err, s)
  | (.ok total, s) =>
    let (keys, s) := e.search r page s
    (keys.map fun keys => ⟨keys, total⟩, s)

end Engine

end IdentitySearch
