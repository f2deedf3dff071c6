/-
What the realms of a directory are loaded from: realms and dynamic realms in
the order in which they come, put into the tables of a database or kept in
memory. The tables refuse what is there already; memory replaces it.
-/
import IdentitySearch.Directory.Memory
import IdentitySearch.Directory.Metadata

namespace IdentitySearch

/-- A realm or a dynamic realm. -/
inductive DirectoryEntry where
  | realm (r : Realm)
  | dynRealm (id key : String)
deriving DecidableEq

namespace Metadata

def insertEntry (m : Metadata) : DirectoryEntry → Except Error Metadata
  | .realm r => m.insertRealm r
  | .dynRealm id key => m.insertDynRealm id key

/-- Fresh tables with these entries. -/
def ofEntries (entries : List DirectoryEntry) : Except Error Metadata :=
  entries.foldlM insertEntry fresh

end Metadata

namespace MemoryDirectory

def addEntry (d : MemoryDirectory) : DirectoryEntry → MemoryDirectory
  | .realm r => d.addRealm r
  | .dynRealm id key => d.addDynRealm id key

/-- A directory of these entries. -/
def ofEntries (entries : List DirectoryEntry) : MemoryDirectory :=
  entries.foldl addEntry empty

end MemoryDirectory

end IdentitySearch
