import QueryFilter.Check
import QueryFilter.Coercion
import QueryFilter.Keyed

/-! Filter specifications: a field or dotted path, a value, and the names of an operator and a
type. The names are kept as given, so that an unknown one can still be reported; only what has no
name at all is refused. -/

namespace QueryFilter

@[ext]
structure FilterSpec where
  field : String
  value : Value := .null
  operator : String := "="
  type : String := "string"

def Value.entry (es : Keyed Value) (key : String) : Value :=
  (es.get? key).getD .null

namespace FilterSpec

open Checked

/-- The kept name of an operator or type. An absent name is the default one. A member of an
enumeration gives its value, which has to be a text; of other values the written form is kept. -/
def tagName (default : String) (v : Value) : Check.Outcome String :=
  if v.isBlank then .ok default
  else
    match v.memberValue? with
    | some value => Check.text value
    | none => if v.isWritable then .ok v.display else .error "value_error"

/-- The specification with checked parts. The issues of all parts are reported together. -/
def named (field : Checked String) (value operator type : Value) : Except Fault FilterSpec :=
  match field, inPlace "operator" (tagName "=" operator),
      inPlace "type" (tagName "string" type) with
  | .ok field, .ok operator, .ok type => .ok { field, value, operator, type }
  | field, operator, type => .error (.invalid (field.issues ++ operator.issues ++ type.issues))

def operatorTag (s : FilterSpec) : Option Operator :=
  Operator.parse? s.operator

def typeTag (s : FilterSpec) : Option FieldType :=
  FieldType.parse? s.type

/-- Absent values never become a predicate. -/
def isEmpty (s : FilterSpec) : Bool :=
  s.value.isBlank

def isPath (s : FilterSpec) : Bool :=
  Text.hasDot s.field

def headRest (s : FilterSpec) : String × String :=
  Text.headRest s.field

def withField (s : FilterSpec) (field : String) : FilterSpec :=
  { s with field }

/-- The specification for a field that has to be taken apart at its dots. Only a text can be,
and what can be searched is refused in another way than the rest. -/
def withFieldValue (s : FilterSpec) (field : Value) : Except Fault FilterSpec :=
  match field, field.asText? with
  | _, some name => .ok (s.withField name)
  | .list _, _ | .tuple _, _ | .set _, _ | .frozen _, _ | .dict _, _ | .spec .., _ | .field .., _
  | .relation .., _ => .error .noSuchMember
  | _, none => .error .wrongKind

def toValue (s : FilterSpec) : Value :=
  .spec s.field s.value s.operator s.type

/-- The specification for a field from another specification, a mapping, or the bare value. -/
def ofValue (field : String) : Value → Except Fault FilterSpec
  | .spec _ v o t => .ok ⟨field, v, o, t⟩
  | .dict es =>
    named (.ok field) (Value.entry es "value") (Value.entry es "operator") (Value.entry es "type")
  | v => .ok { field, value := v }

/-- The specification with exactly the given parts; only the field is required. -/
def ofParts (parts : Keyed Value) : Except Fault FilterSpec :=
  let field : Checked String :=
    match parts.get? "field" with
    | some f => inPlace "field" (Check.text f)
    | none => .error [⟨"field", "missing"⟩]
  named field (Value.entry parts "value") (Value.entry parts "operator") (Value.entry parts "type")

/-- The specifications of the entries of a mapping, in its order, up to the first entry that has
none. -/
def ofEntries (es : List (String × Value)) : Except Fault (Keyed FilterSpec) :=
  es.mapM fun e => (ofValue e.1 e.2).map (e.1, ·)

/-- The specifications of a mapping of filters. Nothing is an empty mapping. -/
def ofFilters (filters : Value) : Except Fault (Keyed FilterSpec) :=
  if !filters.isTrue then .ok []
  else
    match filters with
    | .dict es => ofEntries es
    | _ => .error .noSuchMember

theorem tagName_text {name : String} (default : String) (h : name ≠ "") :
    tagName default (.text name) = .ok name := by
  simp [tagName, Value.isBlank_text, h, Value.memberValue?, Value.isWritable, Value.hasLiteral,
    Value.display_text]

theorem tagName_operator (default : String) (o : Operator) :
    tagName default (.operator o) = .ok o.symbol := by
  simp [tagName, Value.isBlank, Value.isNull, Value.asText?, o.symbol_ne]
  rfl

theorem tagName_type (default : String) (t : FieldType) :
    tagName default (.type t) = .ok t.symbol := by
  simp [tagName, Value.isBlank, Value.isNull, Value.asText?, t.symbol_ne]
  rfl

/-- What a specification of checked parts is made of. -/
theorem named_eq_ok {field : Checked String} {value operator type : Value} {s : FilterSpec} :
    named field value operator type = .ok s ↔ field = .ok s.field ∧ s.value = value ∧
      tagName "=" operator = .ok s.operator ∧ tagName "string" type = .ok s.type := by
  unfold named
  cases field <;> cases tagName "=" operator <;> cases tagName "string" type <;>
    simp [inPlace, FilterSpec.ext_iff, eq_comm]

theorem ofValue_toValue (s : FilterSpec) : ofValue s.field s.toValue = .ok s := rfl

theorem ofFilters_dict (es : List (String × Value)) : ofFilters (.dict es) = ofEntries es := by
  cases es with
  | nil => rfl
  | cons e es => rfl

end FilterSpec

end QueryFilter
