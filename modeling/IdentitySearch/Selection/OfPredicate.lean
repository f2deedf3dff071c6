/-
The selection of a predicate: which keys of a kind satisfy it or, negated, do
not. Assignments are asked of the views that list them, through IN and NOT IN;
where an assignment may come from several sources, having it means having it
from one of them, and not having it means having it from none. Comparisons are
asked of the view that holds the value, and negation turns the comparator
round, except that an attribute with several values is negated as a whole.

Most predicates share their shape with others and differ in views and columns,
so there are few shapes: keys listed in a view beside some others
(`listedWith`), the same without dropping repetitions (`pairedWith`), an
assignment that is direct or dynamic (`assigned`), and the comparison of a
column with a value (`comparison`). A kind that lacks the view of an assignment
has no such predicate, and asking for it is the caller's error; so is an
assignment to no key at all. Errors are found in the order in which a predicate
is read.
-/
import IdentitySearch.Condition
import IdentitySearch.Directory
import IdentitySearch.Dialect
import IdentitySearch.Catalog.Field
import IdentitySearch.Sql.Query

namespace IdentitySearch

/-- What conditions are compiled for. -/
structure Setting where
  kind : Kind
  dialect : Dialect
  directory : Directory
  /-- The core field whose literals may be realm paths. -/
  realmField : String

/-- The selection of a predicate, with the schema of the attribute it compares
if it compares one. -/
structure PredicateSelection where
  selection : Selection
  schema : Option Schema := none

/-- The comparator of an operator that compares. -/
def Operator.comparator : Operator → Comparator
  | .eq | .ieq => .eq
  | .like | .ilike => .like
  | .ge => .ge
  | .gt => .gt
  | .le => .le
  | .lt => .lt
  | .isNull | .isNotNull => .eq

namespace Setting

-- ============================================================= pieces

/-- The view of core fields, which lists every identity of the kind. -/
def fieldView (s : Setting) : View := .field s.kind

/-- The identities for which an atom holds. -/
def identities (s : Setting) (a : Atom) : Selection :=
  .ofAtom s.fieldView a

def noIdentity (s : Setting) : Selection :=
  s.identities .never

/-- The view that a predicate asks; a kind without it has no such predicate. -/
def view (s : Setting) (p : Predicate) (r : ViewRole) : Except Error View :=
  match s.kind.view? r with
  | some v => .ok v
  | none => .error (.notApplicable p.title s.kind)

/-- A column compared with a value, or with the comparator turned round. -/
def comparison (s : Setting) (column : Column) (op : Operator)
    (value : BindValue) (negate textual : Bool) : Comparison :=
  { column := column
    comparator := if negate then op.comparator.inverse else op.comparator
    value := value
    folded := op.ignoresCase && textual
    escaped := op.isPattern && s.dialect.needsEscape }

/-- A column that equals a key. -/
def keyIs (column : Column) (key : String) : Atom :=
  .compare { column := column, comparator := .eq, value := .text key }

/-- A column that equals one of some keys, of which there is at least one. -/
def keyIsAny (column : Column) (key : String) (more : List String) : Formula :=
  .joinAll .or (keyIs column key) (more.map (keyIs column))

/-- At least one key, or an error of the predicate that lists none. -/
def nonEmpty (p : Predicate) : List String →
    Except Error (String × List String)
  | [] => .error (.noKeys p.title)
  | key :: more => .ok (key, more)

/-- The literal of a comparison. -/
def literal (subject : String) : Option String → Except Error String
  | some s => .ok s
  | none => .error (.missingLiteral subject)

-- ======================================================== assignments

/-- The identities that a query over another view selects, or the others. -/
def among (s : Setting) (negate : Bool) (q : Query) : Selection :=
  s.identities (.keyIn negate q)

/-- The identities that one of several queries selects, or that none does. -/
def amongAny (s : Setting) (negate : Bool) (q : Query)
    (more : List Query) : Selection :=
  s.identities (.paren (.joinAll (if negate then .and else .or)
    (.keyIn negate q) (more.map (.keyIn negate))))

/-- The keys that a view lists beside one of some others. -/
def listedWith (v : View) (column : Column) (key : String)
    (more : List String) : Query :=
  .select true .anyId v (keyIsAny column key more)

/-- The keys that a view lists beside another one, repetitions kept. -/
def pairedWith (selected : Column) (v : View) (column : Column)
    (key : String) : Query :=
  .select false selected v (.atom (keyIs column key))

/-- An assignment of one of some keys that is listed directly or
dynamically. -/
def assigned (s : Setting) (p : Predicate) (direct dynamic : ViewRole)
    (column : Column) (negate : Bool) (key : String) (more : List String) :
    Except Error Selection := do
  let direct ← s.view p direct
  let dynamic ← s.view p dynamic
  return s.amongAny negate (listedWith direct column key more)
    [listedWith dynamic column key more]

/-- The groups that one of the views of members and dynamic members lists for
one of some members. -/
def groupsOf (s : Setting) (negate : Bool) (key : String)
    (more : List String) :
    Selection :=
  let listed (v : View) : Query :=
    .select true .groupId v (keyIsAny .anyId key more)
  s.amongAny negate (listed (.membership .user))
    [listed (.dynGroupMembership .user), listed (.membership .anyObject),
     listed (.dynGroupMembership .anyObject)]

-- ========================================================= attributes

/-- The selection for an attribute whose schema is known. -/
def ofAttribute (s : Setting) (schema : Schema) (subject : String)
    (op : Operator) (expression : Option String)
    (negate : Bool) : Except Error Selection :=
  let v := View.attributes s.kind schema.unique
  let ofSchema := keyIs .schemaId schema.key
  let textual := schema.type.isTextual
  if op.isNullCheck then
    if (op == .isNull) != negate then
      .ok (s.among true (.select true .anyId v (.atom ofSchema)))
    else .ok (.ofAtom v ofSchema)
  else if op.isPattern && !textual then .ok s.noIdentity
  else do
    let text ← literal subject expression
    let value ← if op.isPattern then .ok (.text text)
        else BindValue.forSchema schema text
    let rows (negate : Bool) : Formula :=
      .join (.atom ofSchema) .and
        (.compare (s.comparison schema.type.column op value negate textual))
    if negate && schema.multivalue then
      return s.among true (.select true .anyId v (rows false))
    else return ⟨v, rows negate⟩

/-- The selection for an attribute, with its schema. -/
def attributeNamed (s : Setting) (key : String) (op : Operator)
    (expression : Option String)
    (negate : Bool) : Except Error PredicateSelection := do
  match ← s.directory.schema? key with
  | none => .error (.unknownSchema key)
  | some schema =>
    return ⟨← s.ofAttribute schema key op expression negate, some schema⟩

-- ============================================================= fields

/-- The value that the literal of a field stands for. In the realm field a path
stands for the key of its realm. -/
def fieldValue (s : Setting) (field : CoreField) (op : Operator)
    (text : String) :
    Except Error BindValue :=
  if field.name = s.realmField ∧ Realm.isPath text then
    (s.directory.realm text).map fun realm => .text realm.key
  else if op.isPattern then .ok (.text text)
  else BindValue.parse field.type text

/-- The selection for a core field. -/
def field (s : Setting) (name : String) (op : Operator)
    (expression : Option String) (negate : Bool) : Except Error Selection :=
  match s.kind.field? name with
  | none => .error (.unknownField name s.kind)
  | some field =>
    let textual := field.type.isTextual
    if op.isNullCheck then
      .ok (s.identities (.isNull field.column ((op == .isNull) == negate)))
    else if op.isPattern && !textual then .ok s.noIdentity
    else do
      let text ← literal name expression
      let value ← s.fieldValue field op text
      return s.identities
        (.compare (s.comparison field.column op value negate textual))

-- ===================================================== every predicate

/-- The selection of a predicate that compares no attribute. -/
def ofPlain (s : Setting) (p : Predicate)
    (negate : Bool) : Except Error Selection :=
  match p with
  | .attribute _ _ _ => .ok s.noIdentity
  | .field name op expression => s.field name op expression negate
  | .anyType key =>
    if s.kind = .anyObject then
      .ok (s.identities (.compare
        { column := .typeId, comparator := if negate then .ne else .eq,
          value := .text key }))
    else .error (.notApplicable p.title s.kind)
  | .auxClass key => do
    let v ← s.view p .auxClass
    return s.among negate (listedWith v .anyTypeClassId key [])
  | .relationshipType key => do
    let v ← s.view p .relationship
    return s.among negate (.union (pairedWith .anyId v .relationshipType key)
      (pairedWith .rightAnyId v .relationshipType key))
  | .relationship targets => do
    let v ← s.view p .relationship
    let (key, more) ← nonEmpty p targets
    return s.among negate (listedWith v .rightAnyId key more)
  | .membership groups => do
    let (key, more) ← nonEmpty p groups
    s.assigned p .membership .dynGroupMembership .groupId negate key more
  | .member members =>
    if s.kind = .group then do
      let (key, more) ← nonEmpty p members
      return s.groupsOf negate key more
    else .error (.notApplicable p.title s.kind)
  | .role key => s.assigned p .role .dynRoleMembership .roleId negate key []
  | .privilege key =>
    s.assigned p .privilege .dynPrivilegeMembership .privilegeId negate key []
  | .resource key => do
    let direct ← s.view p .resource
    let own := pairedWith .anyId direct .resourceId key
    match s.kind.view? .groupResource with
    | none => return s.among negate own
    | some inherited =>
      return s.among negate
        (.union own (pairedWith .anyId inherited .resourceId key))
  | .dynRealm key => do
    let v ← s.view p .dynRealmMembership
    return s.amongAny negate (listedWith v .dynRealmId key []) []

/-- The selection of a predicate, or of its negation. -/
def ofPredicate (s : Setting) (p : Predicate) (negate : Bool) :
    Except Error PredicateSelection :=
  match p with
  | .attribute key op expression => s.attributeNamed key op expression negate
  | p => (s.ofPlain p negate).map fun selection => ⟨selection, none⟩

end Setting

end IdentitySearch
