/-
Shapes of JSON values: what a value has to look like to be read as text, as a
number, as a record with named fields, or as one name out of several. A record
may be written as an object, whose other members are passed over but whose own
may not repeat, or as an array of its fields in order, of which the last ones
may be left out.
-/
import IdentitySearch.Json.Basic

namespace IdentitySearch.Json

/-- A string that denotes a text. -/
def text? : Json → Option String
  | .string s => s
  | _ => none

def bool? : Json → Option Bool
  | .bool b => some b
  | _ => none

/-- A whole number of 32 bits without a sign. -/
def count? : Json → Option Nat
  | .number (.integer n) =>
    if 0 ≤ n ∧ n < UInt32.size then some n.toNat else none
  | _ => none

/-- Reads every element, or nothing at all. -/
def traverse? {α β : Type} (f : α → Option β) : List α → Option (List β)
  | [] => some []
  | a :: rest =>
    match f a with
    | none => none
    | some b => (traverse? f rest).map (b :: ·)

/-- An array whose items all have one shape. -/
def list? {α : Type} (shape : Json → Option α) : Json → Option (List α)
  | .array items => traverse? shape items
  | _ => none

/-- A value of some shape, or null. -/
def nullable? {α : Type} (shape : Json → Option α) : Json → Option (Option α)
  | .null => some none
  | value => (shape value).map some

/-- One name out of several: a string, or an object whose only member has that
name and is null. -/
def name? : Json → Option String
  | .string s => s
  | .object [(name, .null)] => name
  | _ => none

-- ============================================================ records

/-- The values of the members of one name. -/
def valuesOf (name : String)
    (members : List (Option String × Json)) : List Json :=
  (members.filter fun m => m.1 = some name).map Prod.snd

/-- The fields of a record, in the order of their names; a field that is left
out is `none`. -/
def fields? (names : List String) : Json → Option (List (Option Json))
  | .object members =>
    if members.all (fun m => m.1.isSome)
        && names.all (fun n => (valuesOf n members).length ≤ 1) then
      some (names.map fun n => (valuesOf n members).head?)
    else none
  | .array items =>
    if items.length ≤ names.length then
      some
        (items.map some ++ List.replicate (names.length - items.length) none)
    else none
  | _ => none

/-- A field that has to be there. -/
def required? {α : Type} (shape : Json → Option α) : Option Json → Option α
  | none => none
  | some value => shape value

/-- A field with a value to fall back on when it is left out. -/
def optional? {α : Type} (default : α) (shape : Json → Option α) :
    Option Json → Option α
  | none => some default
  | some value => shape value

end IdentitySearch.Json
