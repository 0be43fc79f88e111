import QueryFilter.Calendar.Resolve
import QueryFilter.Expression
import QueryFilter.Keyed

/-! The tables of a database and the entities that stand for them. -/

namespace QueryFilter

/-- A relation of an entity to another. The key column is on the side of which there may be
many. -/
structure Link where
  relation : String
  target : String
  many : Bool := false
  keyColumn : String := ""

structure Entity where
  name : String
  filterable : Bool := true
  table : Option String := none
  hasSchema : Bool := true
  links : List Link := []
  fields : Option Value := none
  relations : Option Value := none
  options : Option Value := none

/-- Columns have the names of their types in the database, and a column is asked for by its name. A
mapped catalogue knows its entities by class alone and refuses to be asked about anything else; its
columns are asked about in the expressions of a library. Days of ISO weeks are read by the rule of
the language's release. -/
structure Catalog where
  tables : Keyed (Keyed String) := []
  entities : List Entity := []
  discovers : Bool := true
  mapped : Bool := false
  expressions : Expressions := .standard
  weekRule : Calendar.WeekRule := .strict

namespace Catalog

def entity? (c : Catalog) (name : String) : Option Entity :=
  c.entities.find? (·.name = name)

/-- The entity that a value names or is a record of. -/
def subject? (c : Catalog) (v : Value) : Option Entity :=
  v.entityName?.bind c.entity?

def isFilterable (c : Catalog) (v : Value) : Bool :=
  (c.subject? v).any (·.filterable)

def columns (c : Catalog) (table : String) : List String :=
  ((c.tables.get? table).getD []).keys

def columnType (c : Catalog) (table column : String) : FieldType :=
  match (c.tables.get? table).bind (·.get? column) with
  | some t => FieldType.ofColumnType t
  | none => .string

def Link.targetIn? (links : List Link) (relation : String) : Option Link :=
  links.find? (·.relation = relation)

/-- What a mapped catalogue can be asked about. -/
def inspect (c : Catalog) (v : Value) : Except Fault (Option Entity) :=
  if !c.mapped then .ok (c.subject? v)
  else
    match v with
    | .entity _ => .ok (c.subject? v)
    | .record _ => .error .noSuchMember
    | _ => .error .notMapped

def tableOf (c : Catalog) (v : Value) : Except Fault String :=
  (c.inspect v).map fun e => (e.bind (·.table)).getD ""

def linked? (c : Catalog) (v : Value) (relation : String) : Except Fault (Option Value) :=
  if !c.discovers then .ok none
  else (c.inspect v).map fun e =>
    (e.bind fun e => Link.targetIn? e.links relation).map fun l => .entity l.target

end Catalog

def Entity.requiredTable (e : Entity) : Except Fault String :=
  match e.table with
  | some t => .ok t
  | none => .error (.noTable e.name)

def Entity.requireSchema (e : Entity) : Except Fault Unit :=
  if e.hasSchema then .ok () else .error (.noIntrospector e.name)

end QueryFilter
