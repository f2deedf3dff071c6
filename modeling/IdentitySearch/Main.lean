/-
The program: reads the files that the arguments name, runs the search, prints.
-/
import IdentitySearch.CommandLine.Run
import IdentitySearch.Store.Dump

namespace IdentitySearch.CommandLine

/-- Why a file cannot be read, as it is told to the user. -/
def reason : IO.Error → String
  | .noFileOrDirectory _ _ _ => "No such file or directory (os error 2)"
  | .inappropriateType _ _ _ => "Is a directory (os error 21)"
  | e => toString e

/-- Reads a file as text. -/
def readText (path : String) : IO (Except IO.Error String) := do
  try return .ok (← IO.FS.readFile path)
  catch e => return .error e

/-- Opens a database; one that does not exist is created without tables. -/
def openDatabase (path : String) : IO (Except Error Content) := do
  match ← readText path with
  | .ok text =>
    match Content.read? text with
    | some content => return .ok content
    | none => return .error (.directory .notDatabase)
  | .error (.noFileOrDirectory _ _ _) =>
    try
      IO.FS.writeFile path ""
      return .ok .bare
    catch _ => return .error (.store (.cannotOpen path))
  | .error _ => return .error (.store (.cannotOpen path))

/-- Reads the configuration that arguments name. -/
def readConfig : Option String → IO (Except String String)
  | none => return .ok ""
  | some path => return (← readText path).mapError reason

/-- Reads the files that arguments name. Without a configuration the database
is left alone. -/
def readFiles (a : Arguments) : IO Files := do
  let config ← readConfig a.config
  match configOf a config with
  | .error _ => return ⟨config, .ok .bare⟩
  | .ok _ => return ⟨config, ← openDatabase a.database⟩

end IdentitySearch.CommandLine

open IdentitySearch CommandLine in
def main (args : List String) : IO UInt32 := do
  match read? args with
  | none =>
    IO.eprintln usageText
    return 2
  | some .version =>
    IO.println versionText
    return 0
  | some .usage =>
    IO.println usageText
    return 0
  | some (.search a) =>
    let output := run a (← readFiles a)
    IO.print output.printed
    match output.failure with
    | none => return 0
    | some f =>
      IO.eprintln ("Error: " ++ f.message)
      return 1
