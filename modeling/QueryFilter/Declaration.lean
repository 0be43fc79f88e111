import QueryFilter.Spec
import QueryFilter.Value.Elements

/-! What an entity declares: the fields that may be filtered on and the relations that may be
followed. -/

namespace QueryFilter

open Checked

structure FieldDescriptor where
  name : String
  type : FieldType := .string
  operator : Operator := .eq
  deriving DecidableEq

/-- A relation. With no allowed fields listed, the related entity decides alone. -/
structure RelationDescriptor where
  name : String
  allowed : List String := []
  maxDepth : Int := 1
  related : Value := .null

def Value.integer : Value → Except Fault Int
  | .bool b => .ok b.toNat
  | .int n => .ok n
  | .float .nan => .error .integerOfNaN
  | .float (.infinity _) => .error .integerOfInfinity
  | .float x => .ok (x.toInt?.getD 0)
  | .bytes bs =>
    (Numeral.readInteger (bs.map fun b => if b < 128 then Char.ofNat b.toNat else '?')).mapError
      (integerFault (.bytes bs))
  | v =>
    match v.asText? with
    | some s => (Numeral.readInteger s.toList).mapError (integerFault v)
    | none => .error .wrongKind

namespace FieldDescriptor

def toValue (f : FieldDescriptor) : Value :=
  .field f.name f.type f.operator

/-- A descriptor, a mapping with a type and an operator, or the name of a type. Unknown names
fall back to the default. -/
def ofValue (name : String) : Value → FieldDescriptor
  | .field n t o => ⟨n, t, o⟩
  | .dict es =>
    { name
      type := (FieldType.ofValue? (Value.entry es "type")).getD .string
      operator := (Operator.ofValue? (Value.entry es "operator")).getD .eq }
  | v => { name, type := (FieldType.ofValue? v).getD .string }

def required {α : Type} (parts : Keyed Value) (key : String) (check : Value → Check.Outcome α) :
    Checked α :=
  inPlace key (((parts.get? key).map check).getD (.error "missing"))

def optional {α : Type} (parts : Keyed Value) (key : String) (default : α)
    (check : Value → Check.Outcome α) : Checked α :=
  inPlace key (((parts.get? key).map check).getD (.ok default))

def ofParts (parts : Keyed Value) : Except Fault FieldDescriptor :=
  let name := required parts "name" Check.text
  let type := optional parts "type" .string Check.type
  let operator := optional parts "default_operator" .eq Check.operator
  match name, type, operator with
  | .ok name, .ok type, .ok operator => .ok { name, type, operator }
  | _, _, _ => .error (.invalid (name.issues ++ type.issues ++ operator.issues))

/-- The operator and type under which requests may filter on the field. -/
def allowance (f : FieldDescriptor) : Value :=
  .dict [("operator", .text f.operator.symbol), ("type", .text f.type.symbol)]

end FieldDescriptor

namespace RelationDescriptor

def toValue (r : RelationDescriptor) : Value :=
  .relation r.name r.allowed r.maxDepth r.related

/-- Whether the relation may be followed to a field, or to a path by its first part. -/
def allows (r : RelationDescriptor) (path : String) : Bool :=
  r.allowed.isEmpty || r.allowed.contains (Text.headRest path).1

/-- Whether the relation may be followed to a path that is given as a value. Only a text can be
taken apart. -/
def allowsValue (r : RelationDescriptor) (path : Value) : Except Fault Bool :=
  match path, path.asText? with
  | _, some s => .ok (r.allows s)
  | v, none =>
    if r.allowed.isEmpty then .ok true
    else
      match v with
      | .bytes _ => .error .wrongKind
      | _ => .error .noSuchMember

/-- The names listed by a declaration; a mapping lists its keys. -/
def listed (v : Value) : Except Fault (List String) :=
  if v.isTrue then v.elements.map (·.map Value.display) else .ok []

def depthOf (v : Value) : Except Fault Int :=
  if v.isNull then .ok 1 else v.integer.map (max 0 ·)

/-- A descriptor or a mapping; anything else declares the bare relation. -/
def ofValue (name : String) : Value → Except Fault RelationDescriptor
  | .relation n fs d r => .ok ⟨n, fs, d, r⟩
  | .dict es => do
    let allowed ← listed (Value.entry es "fields")
    let maxDepth ← depthOf (Value.entry es "max_depth")
    pure { name, allowed := allowed.eraseDups, maxDepth, related := Value.entry es "related" }
  | _ => .ok { name }

def ofParts (parts : Keyed Value) : Except Fault RelationDescriptor :=
  let name := FieldDescriptor.required parts "name" Check.text
  let allowed := ((parts.get? "allowed_fields").map (textSet "allowed_fields")).getD (.ok [])
  let maxDepth := FieldDescriptor.optional parts "max_depth" 1 Check.int
  match name, allowed, maxDepth with
  | .ok name, .ok allowed, .ok maxDepth =>
    .ok { name, allowed, maxDepth, related := Value.entry parts "related" }
  | _, _, _ => .error (.invalid (name.issues ++ allowed.issues ++ maxDepth.issues))

end RelationDescriptor

def namesDeclared (v : Value) : Except Fault (List String) :=
  v.elements.map (·.map Value.display)

def fieldsDeclared : Value → Except Fault (Keyed FieldDescriptor)
  | .dict es => .ok (Keyed.ofList (es.map fun e => (e.1, FieldDescriptor.ofValue e.1 e.2)))
  | v => (namesDeclared v).map fun ns => Keyed.ofList (ns.map fun n => (n, { name := n }))

def relationsDeclared : Value → Except Fault (Keyed RelationDescriptor)
  | .dict es => do
    let rs ← es.mapM fun e => (RelationDescriptor.ofValue e.1 e.2).map (e.1, ·)
    pure (Keyed.ofList rs)
  | v => (namesDeclared v).map fun ns => Keyed.ofList (ns.map fun n => (n, { name := n }))

end QueryFilter
