/-
The arguments of the command line. Options have a value, in the same argument
after an equals sign or as the next argument, which then must not look like an
option; switches have none. Only scopes and sort clauses may repeat. Arguments
are read from left to right and the first that cannot be used settles that none
can, unless the version or the usage was asked for before it.

What has been read is kept in a draft, in which everything may still be
missing. An option that is given twice is told from one that is given its usual
value, which is why the usual values come in only when the draft is finished.
-/
import IdentitySearch.Kind
import IdentitySearch.Number.Literal
import IdentitySearch.Report.Format

namespace IdentitySearch

/-- What a search on the command line is told. -/
structure Arguments where
  database : String
  kind : Kind := .user
  /-- The JSON text of the condition; without it every identity matches. -/
  condition : Option String := none
  base : String := Realm.rootPath
  scopes : List String := []
  recursive : Bool := false
  page : Option Nat := none
  size : Nat := 25
  sorts : List String := []
  count : Bool := false
  explain : Bool := false
  config : Option String := none
  format : Format := .table
deriving DecidableEq

/-- What a command line asks for. -/
inductive Invocation where
  | search (a : Arguments)
  | version
  | usage
deriving DecidableEq

namespace CommandLine

-- =============================================================== values

/-- The kinds by what they are called on the command line. -/
def kind? (s : String) : Option Kind :=
  if s = "user" then some .user
  else if s = "group" then some .group
  else if s = "any-object" then some .anyObject
  else none

/-- A whole number of 32 bits, a sign allowed. -/
def number? (s : String) : Option Nat :=
  match Number.readLong? s.toList with
  | some n =>
    if 0 ≤ n.toInt ∧ n.toInt < UInt32.size then some n.toInt.toNat else none
  | none => none

/-- A path, which is not empty. -/
def path? (s : String) : Option String :=
  if s.isEmpty then none else some s

-- =============================================================== drafts

/-- What has been read so far; `none` is what nothing was said about. -/
structure Draft where
  database : Option String := none
  kind : Option Kind := none
  condition : Option String := none
  base : Option String := none
  scopes : List String := []
  recursive : Bool := false
  page : Option Nat := none
  size : Option Nat := none
  sorts : List String := []
  count : Bool := false
  explain : Bool := false
  config : Option String := none
  format : Option Format := none

namespace Draft

/-- The value of an option that may be given once. -/
def once {α : Type} (before value : Option α) : Option (Option α) :=
  if before.isSome then none else value.map some

/-- Sets a switch, which may be given once. -/
def setSwitch? (d : Draft) (name : String) : Option Draft :=
  if name = "recursive" then
    if d.recursive then none else some { d with recursive := true }
  else if name = "count" then
    if d.count then none else some { d with count := true }
  else if name = "explain" then
    if d.explain then none else some { d with explain := true }
  else none

/-- Gives an option its value. -/
def setOption? (d : Draft) (name value : String) : Option Draft :=
  if name = "db" then
    (once d.database (path? value)).map fun v => { d with database := v }
  else if name = "kind" then
    (once d.kind (kind? value)).map fun v => { d with kind := v }
  else if name = "cond" then
    (once d.condition (some value)).map fun v => { d with condition := v }
  else if name = "base" then
    (once d.base (some value)).map fun v => { d with base := v }
  else if name = "scope" then some { d with scopes := d.scopes ++ [value] }
  else if name = "page" then
    (once d.page (number? value)).map fun v => { d with page := v }
  else if name = "size" then
    (once d.size (number? value)).map fun v => { d with size := v }
  else if name = "sort" then some { d with sorts := d.sorts ++ [value] }
  else if name = "config" then
    (once d.config (path? value)).map fun v => { d with config := v }
  else if name = "format" then
    (once d.format (Format.ofName? value)).map fun v => { d with format := v }
  else none

/-- The arguments that a draft comes to; the database is required. -/
def finish? (d : Draft) : Option Arguments :=
  d.database.map fun database =>
    let usual : Arguments := { database := database }
    { database := database
      kind := d.kind.getD usual.kind
      condition := d.condition
      base := d.base.getD usual.base
      scopes := d.scopes
      recursive := d.recursive
      page := d.page
      size := d.size.getD usual.size
      sorts := d.sorts
      count := d.count
      explain := d.explain
      config := d.config
      format := d.format.getD usual.format }

end Draft

-- ============================================================== reading

/-- What one argument is. -/
inductive Token where
  /-- A name after two dashes, maybe with a value after an equals sign. -/
  | long (name : String) (value : Option String)
  /-- Letters after one dash, of which the first counts. -/
  | short (letter : Char)
  /-- Two dashes: no option comes after it. -/
  | dashes
  /-- Anything else, a lone dash included. -/
  | word
deriving DecidableEq

def Token.ofArgument (arg : String) : Token :=
  match arg.toList with
  | ['-', '-'] => .dashes
  | '-' :: '-' :: rest =>
    match Text.splitFirst? '=' rest with
    | none => .long (String.ofList rest) none
    | some (name, value) =>
      .long (String.ofList name) (some (String.ofList value))
  | '-' :: letter :: _ => .short letter
  | _ => .word

def switches : List String := ["recursive", "count", "explain"]

/-- Reads arguments after a draft of those before. -/
def readAfter? (d : Draft) : List String → Option Invocation
  | [] => d.finish?.map .search
  | arg :: rest =>
    match Token.ofArgument arg with
    | .word => none
    | .dashes => if rest.isEmpty then d.finish?.map .search else none
    | .short letter =>
      if letter = 'V' then some .version
      else if letter = 'h' then some .usage
      else none
    | .long name (some value) =>
      (d.setOption? name value).bind fun d => readAfter? d rest
    | .long name none =>
      if name = "version" then some .version
      else if name = "help" then some .usage
      else if switches.contains name then
        (d.setSwitch? name).bind fun d => readAfter? d rest
      else
        match rest with
        | [] => none
        | value :: rest =>
          if Token.ofArgument value = .word then
            (d.setOption? name value).bind fun d => readAfter? d rest
          else none

/-- What the program says when its version is asked for. -/
def versionText : String := "anysearch 0.1.0"

/-- What the program says about its usage. -/
def usageText : String :=
  "Usage: anysearch [OPTIONS] --db <DB>\n\n"
    ++ "Options: --kind <KIND> --cond <COND> --base <BASE> --scope <SCOPE> --recursive\n"
    ++ "  --page <PAGE> --size <SIZE> --sort <SORT> --count --explain\n"
    ++ "  --config <CONFIG> --format <FORMAT> --help --version"

/-- What a command line asks for, if it can be used. -/
def read? (args : List String) : Option Invocation :=
  readAfter? {} args

end CommandLine

end IdentitySearch
