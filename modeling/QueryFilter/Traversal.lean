import QueryFilter.Derivation
import QueryFilter.Dispatch

/-! Following a filter along its path. Each relation on the way is checked against what the entity
in front of it declares, and uses up one of the remaining depth; the last part of the path is a
column, checked against the fields of the entity that is reached. -/

namespace QueryFilter

open Traced Building

/-- The entity whose declarations decide, with the settings that apply. `installed` are the
settings in force where none are asked for. -/
structure Scope where
  catalog : Catalog
  settings : Settings
  subject : Value
  installed : Settings := {}

def pathParts (path : String) : List String :=
  (Text.pieces ['.'] path.toList).map String.ofList

def joinParts (parts : List String) : String :=
  ".".intercalate parts

namespace Scope

def logger : String := "FilterCompiler"

def note (message : String) : Traced Unit :=
  log .debug logger message

/-- The name of the entity; a record of it has none. -/
def entityName (x : Scope) : Except Fault String :=
  match x.subject with
  | .entity n => .ok n
  | _ => .error .noSuchMember

def fields (x : Scope) : Except Fault (Keyed FieldDescriptor) := do
  let e ← x.catalog.filterableEntity x.subject
  x.catalog.fieldsOfEntity x.settings e

def relations (x : Scope) : Except Fault (Keyed RelationDescriptor) := do
  let e ← x.catalog.filterableEntity x.subject
  x.catalog.relationsOfEntity x.settings e

def table (x : Scope) : Except Fault String := do
  let e ← x.catalog.filterableEntity x.subject
  e.requiredTable

def beyond (x : Scope) (subject : Value) : Scope :=
  { x with subject }

def weekRule (x : Scope) : Calendar.WeekRule :=
  x.catalog.weekRule

/-- The format that dates are read in. Settings that share the installed format read them in the
standard one. -/
def dateFormat (x : Scope) : String :=
  if x.settings.dateFormat = x.installed.dateFormat then standardDateFormat
  else x.settings.dateFormat

theorem dateFormat_eq_settings {x : Scope} (h : x.installed.dateFormat = standardDateFormat) :
    x.dateFormat = x.settings.dateFormat := by
  unfold dateFormat
  split
  next hx => rw [hx, h]
  next => rfl

/-- Tells of a predicate that was added, where the settings ask for it. -/
def announce (x : Scope) (spec : FilterSpec) (column : String) (v : Value) (applied : Bool) :
    Traced Bool := do
  if applied && x.settings.debug then
    log (Level.ofText x.settings.logLevel) logger
      ("Filter " ++ column ++ " " ++ spec.operator ++ " " ++ v.literal)
  pure applied

@[simp] theorem announce_result (x : Scope) (spec : FilterSpec) (column : String) (v : Value)
    (applied : Bool) : (x.announce spec column v applied).result = .ok applied := by
  unfold announce
  split <;> rfl

variable {Q : Type} [Backend Q]

def applyPredicate (x : Scope) (config : FilterConfig) (spec : FilterSpec) (column : String)
    (q : Q) : Building Q Bool :=
  (aside q (ofExcept (coerce spec.typeTag spec.operatorTag (.text x.settings.arrayDelimiter)
    spec.value))).andThen fun v q =>
      (dispatch x.weekRule (.text x.dateFormat) config (.text spec.operator) (.text column) v q
        ).andThen fun applied q => aside q (x.announce spec column v applied)

def applyLocal (x : Scope) (config : FilterConfig) (spec : FilterSpec) (field : String) (q : Q) :
    Building Q Bool :=
  (aside q (ofExcept x.fields)).andThen fun fields q =>
    if !fields.has field then
      aside q (do
        let name ← x.entityName
        note ("Dropping filter on non-filterable field " ++ name ++ "." ++ field)
        pure false)
    else
      (aside q (ofExcept x.table)).andThen fun table q =>
        x.applyPredicate config spec (Column.qualify table field) q

/-- Applies a specification behind a relation to an entity without declarations. Any column will
do, but no further relation. -/
def applyFallback (x : Scope) (config : FilterConfig) (spec : FilterSpec) (parts : List String)
    (q : Q) : Building Q Bool :=
  match parts with
  | [column] =>
    (aside q (ofExcept (Backend.table q))).andThen fun table q =>
      x.applyPredicate config spec (Column.qualify table column) q
  | parts =>
    aside q (do
      note ("Dropping nested path " ++ joinParts parts ++ " on non-filterable entity")
      pure false)

def firstRelation? (x : Scope) (name : String) (rest : List String) :
    Except Fault (Option RelationDescriptor) := do
  let relations ← x.relations
  pure ((relations.get? name).filter fun r => rest != [""] && r.allows (joinParts rest))

def depthFor (config : FilterConfig) (r : RelationDescriptor) : Int :=
  min config.maxDepth r.maxDepth

/-- Applies a specification along the parts of its path. -/
def applyPath (x : Scope) (config : FilterConfig) (spec : FilterSpec) (parts : List String)
    (q : Q) : Building Q Bool :=
  match parts with
  | [] => done false q
  | [field] => x.applyLocal config spec field q
  | name :: next :: rest =>
    (aside q (ofExcept (x.firstRelation? name (next :: rest)))).andThen fun first q =>
      match first with
      | none =>
        aside q (do
          note ("Dropping filter on non-filterable relation path " ++ joinParts parts)
          pure false)
      | some r =>
        let depth := depthFor config r
        if depth ≤ 0 then
          aside q (do
            note ("Dropping filter " ++ joinParts parts ++ ": relation depth exhausted")
            pure false)
        else
          behind q name fun sub =>
            let config := config.descend (some depth)
            let x := x.beyond (Backend.subject sub)
            if x.catalog.isFilterable x.subject then x.applyPath config spec (next :: rest) sub
            else x.applyFallback config spec (next :: rest) sub

/-- Applies one specification and tells whether it became a predicate. -/
def applySingle (x : Scope) (config : FilterConfig) (spec : FilterSpec) (q : Q) :
    Building Q Bool :=
  if spec.isEmpty then done false q
  else if spec.isPath && config.deep then x.applyPath config spec (pathParts spec.field) q
  else x.applyLocal config spec spec.field q

end Scope

end QueryFilter
