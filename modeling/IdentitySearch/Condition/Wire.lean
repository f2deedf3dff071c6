/-
Conditions as JSON, for shipping them as text. A predicate is an object with a
member `type` that names its form beside its own fields; a condition is an
object with one member, which says how it is built. A literal that is absent is
left out. Reading is more lenient than writing: fields may come in any order,
other members are passed over, a predicate may be an array that begins with the
name of its form, and an operator may be an object.
-/
import IdentitySearch.Condition
import IdentitySearch.Json.Reader
import IdentitySearch.Json.Writer
import IdentitySearch.Json.Shape

namespace IdentitySearch

-- ============================================================ writing

namespace Predicate

/-- The members of an object about a comparison. -/
def comparisonMembers (form subject name : String) (op : Operator)
    (literal : Option String) : List (String × Json) :=
  [("type", .text form), (subject, .text name), ("op", .text op.name)]
    ++ match literal with
      | none => []
      | some s => [("expression", .text s)]

def toJson : Predicate → Json
  | .attribute schema op literal =>
    .record (comparisonMembers "attr" "schema" schema op literal)
  | .field name op literal =>
    .record (comparisonMembers "field" "field" name op literal)
  | .anyType key =>
    .record [("type", .text "any_type"), ("any_type", .text key)]
  | .auxClass key =>
    .record [("type", .text "aux_class"), ("aux_class", .text key)]
  | .relationship targets =>
    .record [("type", .text "relationship"),
      ("targets", .array (targets.map .text))]
  | .relationshipType key =>
    .record [("type", .text "relationship_type"),
      ("relationship_type", .text key)]
  | .membership groups =>
    .record [("type", .text "membership"),
      ("groups", .array (groups.map .text))]
  | .member members =>
    .record [("type", .text "member"), ("members", .array (members.map .text))]
  | .role key => .record [("type", .text "role"), ("role", .text key)]
  | .privilege key =>
    .record [("type", .text "privilege"), ("privilege", .text key)]
  | .resource key =>
    .record [("type", .text "resource"), ("resource", .text key)]
  | .dynRealm key =>
    .record [("type", .text "dyn_realm"), ("dyn_realm", .text key)]

end Predicate

def Condition.toJson : Condition → Json
  | .leaf p => .record [("leaf", p.toJson)]
  | .notLeaf p => .record [("not_leaf", p.toJson)]
  | .and left right => .record [("and", .array [left.toJson, right.toJson])]
  | .or left right => .record [("or", .array [left.toJson, right.toJson])]

-- ============================================================ reading

namespace Predicate

/-- An operator by name. Inside a predicate the object form may hold an empty
object instead of null. -/
def operator? (j : Json) : Option Operator :=
  match j with
  | .object [(name, .object [])] => name.bind Operator.ofName?
  | other => other.name?.bind Operator.ofName?

/-- A predicate as its form and the value that holds its fields. -/
def tagged? : Json → Option (String × Json)
  | .object members =>
    match Json.valuesOf "type" members with
    | [.string (some form)] =>
      some (form, .object (members.filter fun m => m.1 ≠ some "type"))
    | _ => none
  | .array (.string (some form) :: rest) => some (form, .array rest)
  | _ => none

/-- The name, the operator and the literal of a comparison. -/
def comparison? (subject : String) (j : Json) :
    Option (String × Operator × Option String) :=
  match j.fields? [subject, "op", "expression"] with
  | some [name, op, literal] =>
    match Json.required? Json.text? name, Json.required? operator? op,
        Json.optional? none (Json.nullable? Json.text?) literal with
    | some name, some op, some literal => some (name, op, literal)
    | _, _, _ => none
  | _ => none

/-- The only field of a predicate. -/
def only? {α : Type} (field : String) (shape : Json → Option α)
    (j : Json) : Option α :=
  match j.fields? [field] with
  | some [value] => Json.required? shape value
  | _ => none

/-- The predicate of a form, from the value that holds its fields. -/
def ofForm? (form : String) (j : Json) : Option Predicate :=
  if form = "attr" then
    (comparison? "schema" j).map fun (name, op, literal) =>
      .attribute name op literal
  else if form = "field" then
    (comparison? "field" j).map fun (name, op, literal) =>
      .field name op literal
  else if form = "any_type" then (only? "any_type" Json.text? j).map .anyType
  else if form = "aux_class"
    then (only? "aux_class" Json.text? j).map .auxClass
  else if form = "relationship" then
    (only? "targets" (Json.list? Json.text?) j).map .relationship
  else if form = "relationship_type" then
    (only? "relationship_type" Json.text? j).map .relationshipType
  else if form = "membership" then
    (only? "groups" (Json.list? Json.text?) j).map .membership
  else if form = "member"
    then (only? "members" (Json.list? Json.text?) j).map .member
  else if form = "role" then (only? "role" Json.text? j).map .role
  else if form = "privilege"
    then (only? "privilege" Json.text? j).map .privilege
  else if form = "resource" then (only? "resource" Json.text? j).map .resource
  else if form = "dyn_realm"
    then (only? "dyn_realm" Json.text? j).map .dynRealm
  else none

def ofJson? (j : Json) : Option Predicate :=
  (tagged? j).bind fun (form, fields) => ofForm? form fields

end Predicate

def Condition.ofJson? : Json → Option Condition
  | .object [(some "leaf", j)] => (Predicate.ofJson? j).map .leaf
  | .object [(some "not_leaf", j)] => (Predicate.ofJson? j).map .notLeaf
  | .object [(some "and", .array [left, right])] =>
    match Condition.ofJson? left, Condition.ofJson? right with
    | some l, some r => some (.and l r)
    | _, _ => none
  | .object [(some "or", .array [left, right])] =>
    match Condition.ofJson? left, Condition.ofJson? right with
    | some l, some r => some (.or l r)
    | _, _ => none
  | _ => none

-- =============================================================== text

/-- How deep a text may nest arrays and objects. -/
def nestingLimit : Nat := 127

/-- Reads a text whole: by the grammar, sound within the nesting limit, and of
the shape asked for. -/
def Json.readSound? {α : Type} (shape : Json → Option α)
    (s : String) : Option α :=
  match Json.read? s with
  | none => none
  | some j => if j.isSound nestingLimit then shape j else none

def Predicate.read? (s : String) : Option Predicate :=
  Json.readSound? Predicate.ofJson? s

def Condition.read? (s : String) : Option Condition :=
  Json.readSound? Condition.ofJson? s

/-- The compact JSON text of a predicate. -/
def Predicate.text (p : Predicate) : String :=
  p.toJson.compactText

/-- The compact JSON text of a condition. -/
def Condition.text (c : Condition) : String :=
  c.toJson.compactText

end IdentitySearch
