import QueryFilter.Catalog
import QueryFilter.Column
import QueryFilter.Declaration
import QueryFilter.Settings
import QueryFilter.Value.Pairs

/-! The fields and relations of entities: declared ones, or ones derived from the columns of a
table. A column that ends like a key yields a relation if the entity has one of that name. -/

namespace QueryFilter

/-- The operator for fields of a type, where the settings name one. -/
def Settings.defaultOperator (s : Settings) (t : FieldType) : Operator :=
  ((s.defaultOperators.get? t.symbol).bind Operator.parse?).getD .eq

/-- What derivation asks about tables and about the entities over them. -/
structure Introspector where
  columns : (table : String) → List String
  columnType : (table column : String) → FieldType
  tableOf : Value → Except Fault String
  linked? : Value → (relation : String) → Except Fault (Option Value)

/-- The fields of the entities that know their own. -/
abbrev OwnFields := Value → Option (Except Fault (Keyed FieldDescriptor))

namespace Introspector

def derivedField (i : Introspector) (s : Settings) (table column : String) : FieldDescriptor :=
  let t := i.columnType table column
  { name := column, type := t, operator := s.defaultOperator t }

/-- The fields of a table that are neither excluded nor secret, in the order of its columns. -/
def derivedFields (i : Introspector) (s : Settings) (table : String) : Keyed FieldDescriptor :=
  Keyed.ofList ((Column.filterable s.excludedFields (i.columns table)).map fun column =>
    (column, i.derivedField s table column))

/-- The names that may be filtered on behind a relation. -/
def fieldNames (i : Introspector) (s : Settings) (own : OwnFields) (related : Value) :
    Except Fault (List String) :=
  match own related with
  | some fields => fields.map Keyed.keys
  | none => do
    let table ← i.tableOf related
    pure (i.derivedFields s table).keys

/-- The relation along a column, if it is one that the entity has. -/
def derivedRelation? (i : Introspector) (s : Settings) (own : OwnFields) (v : Value)
    (column : String) : Except Fault (Option RelationDescriptor) :=
  match (Column.relationName? column).filter (!s.excludedRelations.contains ·) with
  | none => .ok none
  | some name => do
    match ← i.linked? v name with
    | none => pure none
    | some related =>
      let allowed ← i.fieldNames s own related
      pure (some { name, allowed, maxDepth := 1, related })

def derivedRelations (i : Introspector) (s : Settings) (own : OwnFields) (v : Value)
    (table : String) : Except Fault (Keyed RelationDescriptor) :=
  if !s.discoverRelations then .ok []
  else do
    let found ← (i.columns table).mapM (i.derivedRelation? s own v)
    pure (Keyed.ofList (found.filterMap fun r => r.map fun r => (r.name, r)))

theorem keys_derivedFields (i : Introspector) (s : Settings) (table : String) :
    (i.derivedFields s table).keys =
      (Column.filterable s.excludedFields (i.columns table)).eraseDups := by
  rw [derivedFields, Keyed.keys_ofList, List.map_map]
  congr 1
  exact List.map_id' _

end Introspector

namespace Catalog

def introspector (c : Catalog) : Introspector :=
  ⟨c.columns, c.columnType, c.tableOf, c.linked?⟩

def derivedFields (c : Catalog) (s : Settings) (table : String) : Keyed FieldDescriptor :=
  c.introspector.derivedFields s table

def fieldsOfEntity (c : Catalog) (s : Settings) (e : Entity) :
    Except Fault (Keyed FieldDescriptor) :=
  match e.fields.filter (!·.isNull) with
  | some declared => fieldsDeclared declared
  | none => do
    let table ← e.requiredTable
    e.requireSchema
    pure (c.derivedFields s table)

/-- The filterable entity that a value names or is a record of. -/
def filterable? (c : Catalog) (v : Value) : Option Entity :=
  (c.subject? v).filter (·.filterable)

def filterableEntity (c : Catalog) (v : Value) : Except Fault Entity :=
  match c.filterable? v with
  | some e => .ok e
  | none => .error .noSuchMember

/-- Filterable entities know their own fields. -/
def ownFields (c : Catalog) (s : Settings) : OwnFields := fun v =>
  (c.filterable? v).map (c.fieldsOfEntity s)

def fieldNames (c : Catalog) (s : Settings) (related : Value) : Except Fault (List String) :=
  c.introspector.fieldNames s (c.ownFields s) related

def derivedRelations (c : Catalog) (s : Settings) (v : Value) (table : String) :
    Except Fault (Keyed RelationDescriptor) :=
  c.introspector.derivedRelations s (c.ownFields s) v table

def relationsOfEntity (c : Catalog) (s : Settings) (e : Entity) :
    Except Fault (Keyed RelationDescriptor) :=
  match e.relations.filter (!·.isNull) with
  | some declared => relationsDeclared declared
  | none => do
    let table ← e.requiredTable
    e.requireSchema
    c.derivedRelations s (.entity e.name) table

/-- The entity on the far side of a relation. A declared one wins over one that the catalogue
knows. -/
def relatedFor (c : Catalog) (v : Value) (r : RelationDescriptor) : Except Fault (Option Value) :=
  if !r.related.isNull then .ok (some r.related)
  else
    match c.filterable? v with
    | none => .ok none
    | some e => do
      e.requireSchema
      c.linked? v r.name

end Catalog

def Entity.filterOptions (e : Entity) : Except Fault Value.Pairs :=
  match e.options.filter Value.isTrue with
  | some v => v.pairs
  | none => .ok []

end QueryFilter
