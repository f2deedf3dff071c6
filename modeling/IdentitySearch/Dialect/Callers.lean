/-
Many callers of one cache at once. A call either looks a domain up and no more,
or finds the dialect out where it is not known. The second kind goes up to
three steps: it looks up, asks the database, puts the answer in. Between any
two steps of one caller the others may go theirs, and asking the database takes
place outside of the cache, so two callers may both find a domain unknown and
come back with different answers.
-/
import IdentitySearch.Dialect.Cache

namespace IdentitySearch

-- =============================================================== one call

/-- What a caller wants of the cache. -/
inductive Inquiry where
  /-- The dialect of a domain, if it is known. -/
  | known (domain : String)
  /-- The dialect of a domain, found out if it is not known. -/
  | detected (domain : String)
deriving DecidableEq

/-- How far a call has come. -/
inductive CacheCall where
  /-- Is to look the domain up and no more. -/
  | reading (domain : String)
  /-- Looked the domain up; over. -/
  | read (domain : String) (answer : Option Dialect)
  /-- Is to look the domain up first. -/
  | starting (domain : String)
  /-- The domain was known; over. -/
  | found (domain : String) (known : Dialect)
  /-- The domain was not known, and the database is to be asked. -/
  | detecting (domain : String)
  /-- The database failed; over. -/
  | failed (domain : String) (e : Error)
  /-- The database answered, and the answer is to be put in. -/
  | inserting (domain : String) (detected : Dialect)
  /-- The answer was put in, unless there was one already; over. -/
  | inserted (domain : String) (detected kept : Dialect)
deriving DecidableEq

namespace CacheCall

/-- A call before its first step. -/
def opening : Inquiry → CacheCall
  | .known domain => .reading domain
  | .detected domain => .starting domain

/-- The domain that a call is about. -/
def domain : CacheCall → String
  | .reading domain | .read domain _ | .starting domain | .found domain
    _ | .detecting domain
  | .failed domain _ | .inserting domain _ | .inserted domain _ _ => domain

/-- What a call gives back, once it is over. -/
def result? : CacheCall → Option (Except Error (Option Dialect))
  | .reading _ | .starting _ | .detecting _ | .inserting _ _ => none
  | .read _ answer => some (.ok answer)
  | .found _ known => some (.ok (some known))
  | .failed _ e => some (.error e)
  | .inserted _ _ kept => some (.ok (some kept))

/-- The next step of a call, and the cache after it; `answer` is what the
database says if this step asks it. A call that is over stays as it is. -/
def step (answer : Except Error Dialect)
    (c : DialectCache) : CacheCall → CacheCall × DialectCache
  | .reading domain => (.read domain (c.get? domain), c)
  | .starting domain =>
    match c.get? domain with
    | some known => (.found domain known, c)
    | none => (.detecting domain, c)
  | .detecting domain =>
    match answer with
    | .error e => (.failed domain e, c)
    | .ok detected => (.inserting domain detected, c)
  | .inserting domain detected =>
    let (kept, c) := c.insertIfAbsent domain detected
    (.inserted domain detected kept, c)
  | .read domain answer => (.read domain answer, c)
  | .found domain known => (.found domain known, c)
  | .failed domain e => (.failed domain e, c)
  | .inserted domain detected kept => (.inserted domain detected kept, c)

end CacheCall

-- ============================================================= many calls

/-- A cache and the calls of it. -/
structure Callers (ι : Type) where
  cache : DialectCache
  calls : ι → CacheCall

/-- Whose turn it is, and what the database says if he asks it. -/
structure Turn (ι : Type) where
  caller : ι
  answer : Except Error Dialect

namespace Callers

variable {ι : Type}

/-- Calls before anybody's first step, of a cache that knows nothing. -/
def opening (inquiries : ι → Inquiry) : Callers ι :=
  ⟨.empty, fun i => CacheCall.opening (inquiries i)⟩

variable [DecidableEq ι]

/-- A call in the place of another. -/
def set (s : Callers ι) (caller : ι) (call : CacheCall) : Callers ι :=
  { s with calls := fun i => if i = caller then call else s.calls i }

/-- One caller goes one step. -/
def turn (s : Callers ι) (t : Turn ι) : Callers ι :=
  let (call, cache) := (s.calls t.caller).step t.answer s.cache
  { s.set t.caller call with cache := cache }

/-- Callers go their steps in some order. -/
def run (s : Callers ι) (turns : List (Turn ι)) : Callers ι :=
  turns.foldl turn s

end Callers

end IdentitySearch
