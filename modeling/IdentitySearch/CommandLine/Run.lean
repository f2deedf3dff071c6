/-
What a search on the command line does: reads the configuration, finds the base
realm in the database, and shows a page of keys, a number of matches, or the
SQL of both. What was printed before a failure stays printed.

A run is a function of the arguments and of what their files hold. It fails at
the first thing that is wrong, in a fixed order: the configuration, the
database, the base, the condition, the order. Only then the engine is asked,
and its errors are the last that can come.
-/
import IdentitySearch.CommandLine.Arguments
import IdentitySearch.Condition.Wire
import IdentitySearch.Store.Content

namespace IdentitySearch.CommandLine

-- ============================================================= failures

/-- Why a search on the command line fails. -/
inductive Failure where
  | invalidSort (clause : String)
  | unknownBase (path : String)
  | invalidCondition
  /-- A file cannot be read, for this reason. -/
  | unreadable (path reason : String)
  | search (e : Error)
deriving DecidableEq

/-- The wording of a failure. -/
def Failure.message : Failure → String
  | .invalidSort clause =>
    "invalid sort clause '" ++ clause ++ "', expected property[:asc|:desc]"
  | .unknownBase path => "base realm " ++ path ++ " not found"
  | .invalidCondition => "invalid condition"
  | .unreadable path reason => "cannot read " ++ path ++ ": " ++ reason
  | .search e => e.message

-- =============================================================== inputs

/-- The files that arguments name, as far as they can be read. -/
structure Files where
  /-- The text of the configuration, or the reason why there is none. -/
  config : Except String String
  /-- The content of the database. -/
  database : Except Error Content

/-- The configuration that arguments ask for, from what its file holds. -/
def configOf (a : Arguments)
    (file : Except String String) : Except Failure Config :=
  match a.config with
  | none => .ok {}
  | some path =>
    match file with
    | .error reason => .error (.unreadable path reason)
    | .ok text => (Config.parse text).mapError .search

def everyIdentity : Condition :=
  .leaf (.field "key" .isNotNull none)

/-- The condition that arguments ask for. -/
def conditionOf (text : Option String) : Except Failure Condition :=
  match text with
  | none => .ok everyIdentity
  | some s =>
    match Condition.read? s with
    | none => .error .invalidCondition
    | some c => .ok c

/-- The direction that a word in any case of letters names. -/
def direction? (word : String) : Option Direction :=
  if Text.lower word = "asc" then some .ascending
  else if Text.lower word = "desc" then some .descending
  else none

/-- A sort clause `property[:asc|:desc]`; the first colon ends the property. -/
def sortClause (clause : String) : Except Failure SortClause :=
  let (property, word) :=
    (Text.splitFirst? ':' clause.toList).getD (clause.toList, "asc".toList)
  if property.isEmpty then .error (.invalidSort clause)
  else match direction? (String.ofList word) with
    | none => .error (.invalidSort clause)
    | some d => .ok ⟨String.ofList property, d⟩

/-- The part and the order that arguments ask for. -/
def pageOf (a : Arguments) : Except Failure PageRequest :=
  (a.sorts.mapM sortClause).map fun sort =>
    { pagination := a.page.map fun page => ⟨page, a.size⟩, sort := sort }

/-- The number of matches before the first that is shown. -/
def offsetOf (a : Arguments) : Nat :=
  match a.page with
  | none => 0
  | some page => (Pagination.mk page a.size).offset

-- ============================================================== running

/-- What a run prints, and why it fails if it does. -/
structure Output where
  printed : String
  failure : Option Failure := none
deriving DecidableEq

namespace Output

def failed (f : Failure) : Output := ⟨"", some f⟩

/-- Prints some lines, then goes on. -/
def after (printed : String) (o : Output) : Output :=
  { o with printed := printed ++ "\n" ++ o.printed }

/-- Prints an answer, or fails with the error in its place. -/
def ofAnswer {α : Type} (answer : Except Error α)
    (text : α → String) : Output :=
  match answer with
  | .error e => failed (.search e)
  | .ok a => ⟨text a ++ "\n", none⟩

/-- The exit code of a run. -/
def exitCode (o : Output) : Nat :=
  if o.failure.isSome then 1 else 0

end Output

/-- Shows the SQL of the count and, unless only that is asked for, of the
search. -/
def explain (a : Arguments) (e : Engine) (r : Request)
    (page : PageRequest) : Output :=
  match e.countStatement r .start with
  | (.error err, _) => .failed (.search err)
  | (.ok count, session) =>
    .after (count.statement.explanation "count")
      (if a.count then ⟨"", none⟩
       else .ofAnswer (e.searchStatement r page session).1
        fun search => search.statement.explanation "search")

def answer (a : Arguments) (e : Engine) (r : Request)
    (page : PageRequest) : Output :=
  if a.explain then explain a e r page
  else if a.count then .ofAnswer (e.count r .start).1 a.format.count
  else .ofAnswer (e.searchPage r page .start).1 fun found =>
    a.format.page found (offsetOf a)

/-- The realm that a search starts from. -/
def baseOf (a : Arguments) (c : Content) : Except Failure Realm :=
  match c.metadata.realm? a.base with
  | .error e => .error (.search e)
  | .ok none => .error (.unknownBase a.base)
  | .ok (some realm) => .ok realm

/-- The output of a search, or the failure that comes before all output. -/
def prepared (a : Arguments) (files : Files) : Except Failure Output := do
  let config ← configOf a files.config
  let content ← files.database.mapError .search
  let base ← baseOf a content
  let condition ← conditionOf a.condition
  let page ← pageOf a
  return answer a (content.engine config)
    { base := base, recursive := a.recursive, scopes := a.scopes
      condition := condition, kind := a.kind } page

def run (a : Arguments) (files : Files) : Output :=
  match prepared a files with
  | .error f => .failed f
  | .ok output => output

end IdentitySearch.CommandLine
