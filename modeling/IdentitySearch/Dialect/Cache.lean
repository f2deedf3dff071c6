/-
The dialect of each tenant domain, found out once and kept. Finding it out
takes three steps, of which only the first and the last touch the cache: look
the domain up, ask the database, and put the answer in unless somebody else was
faster, in which case the earlier answer stands.
-/
import IdentitySearch.Dialect
import IdentitySearch.Error

namespace IdentitySearch

/-- The dialects that are known, by domain. -/
structure DialectCache where
  entries : List (String × Dialect) := []
deriving DecidableEq

namespace DialectCache

def empty : DialectCache := {}

/-- The dialect of a domain, if it is known. -/
def get? (c : DialectCache) (domain : String) : Option Dialect :=
  c.entries.lookup domain

/-- The number of domains that are known. -/
def size (c : DialectCache) : Nat :=
  c.entries.length

/-- Puts a dialect in unless the domain has one, and gives back the one it has
then. -/
def insertIfAbsent (c : DialectCache) (domain : String) (dialect : Dialect) :
    Dialect × DialectCache :=
  match c.get? domain with
  | some known => (known, c)
  | none => (dialect, ⟨c.entries ++ [(domain, dialect)]⟩)

/-- The dialect of a domain; `detected` is what asking the database answers and
is looked at only if the domain is not known. A failure is not kept. -/
def getOrDetect (c : DialectCache) (domain : String)
    (detected : Except Error Dialect) :
    Except Error Dialect × DialectCache :=
  match c.get? domain with
  | some known => (.ok known, c)
  | none =>
    match detected with
    | .error e => (.error e, c)
    | .ok dialect =>
      let (kept, c) := c.insertIfAbsent domain dialect
      (.ok kept, c)

end DialectCache

end IdentitySearch
