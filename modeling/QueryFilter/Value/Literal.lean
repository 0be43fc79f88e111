import QueryFilter.Binary64.Shortest
import QueryFilter.Numeral.Integer
import QueryFilter.Text.Quoted
import QueryFilter.Value.Basic

/-! The written form of values. The literal form quotes texts and names what is no plain datum;
the display form of a text is the text itself. -/

namespace QueryFilter.Value

open Calendar Text

def commas (parts : List String) : String :=
  ", ".intercalate parts

def enclosed (opening : String) (parts : List String) (closing : Char) : String :=
  opening ++ commas parts ++ String.singleton closing

def Date.literal (d : Date) : String :=
  enclosed "datetime.date(" [toString d.year, toString d.month, toString d.day] ')'

/-- A span of time in days, seconds and microseconds, of which only the days may be negative. -/
def spanLiteral (micros : Int) : String :=
  let days := Int.fdiv micros dayMicros
  let rest := (Int.fmod micros dayMicros).toNat
  let parts := [("days", days), ("seconds", rest / 1000000), ("microseconds", rest % 1000000)]
  let shown := (parts.filter (·.2 != 0)).map fun p => p.1 ++ "=" ++ toString p.2
  enclosed "datetime.timedelta(" shown ')'

def Offset.literal (o : Offset) : String :=
  if o.micros = 0 then "datetime.timezone.utc"
  else "datetime.timezone(" ++ spanLiteral o.micros ++ ")"

/-- Seconds and fractions that are zero are left out at the end. -/
def Moment.literal (m : Moment) : String :=
  let day := [toString m.date.year, toString m.date.month, toString m.date.day]
  let clock := [toString m.hour.val, toString m.minute.val]
  let rest :=
    if m.micro.val ≠ 0 then [toString m.second.val, toString m.micro.val]
    else if m.second.val ≠ 0 then [toString m.second.val]
    else []
  let offset := m.offset.toList.map fun o => "tzinfo=" ++ Offset.literal o
  enclosed "datetime.datetime(" (day ++ clock ++ rest ++ offset) ')'

def memberLiteral (enumeration name value : String) : String :=
  "<" ++ enumeration ++ "." ++ name ++ ": " ++ value ++ ">"

def tagLiteral (family name symbol : String) : String :=
  memberLiteral family name (quoted symbol)

def boolLiteral (b : Bool) : String :=
  if b then "True" else "False"

/-- Named parts, as a descriptor shows them. -/
def assignments (parts : List (String × String)) : List String :=
  parts.map fun p => p.1 ++ "=" ++ p.2

def fieldParts (name : String) (type : FieldType) (operator : Operator) : List String :=
  assignments [("name", quoted name), ("type", tagLiteral "TypeTag" type.name type.symbol),
    ("default_operator", tagLiteral "OperatorTag" operator.name operator.symbol)]

def frozenText (members : List String) : String :=
  if members.isEmpty then "frozenset()"
  else "frozenset(" ++ enclosed "\x7b" members '}' ++ ")"

def nameSet (names : List String) : String :=
  frozenText (names.map quoted)

mutual

def literal : Value → String
  | .null => "None"
  | .bool b => boolLiteral b
  | .int n => toString n
  | .float x => x.text
  | .text s => quoted s
  | .bytes bs => quotedBytes bs
  | .list vs => enclosed "[" (literals vs) ']'
  | .tuple [v] => "(" ++ literal v ++ ",)"
  | .tuple vs => enclosed "(" (literals vs) ')'
  | .set [] => "set()"
  | .set vs => enclosed "\x7b" (literals vs) '}'
  | .frozen vs => frozenText (literals vs)
  | .dict es => enclosed "\x7b" (entryLiterals es) '}'
  | .date d => Date.literal d
  | .moment m => Moment.literal m
  | .operator o => tagLiteral "OperatorTag" o.name o.symbol
  | .type t => tagLiteral "TypeTag" t.name t.symbol
  | .member e n v => memberLiteral e.text n (literal v)
  | .entity n => "<class " ++ quoted n ++ ">"
  | .record n => "<" ++ n ++ " object>"
  | .spec f v o t => "FilterSpec(" ++ commas (assignments
      [("field", quoted f), ("value", literal v), ("operator", quoted o),
        ("type", quoted t)]) ++ ")"
  | .field n t o => "FieldDescriptor(" ++ commas (fieldParts n t o) ++ ")"
  | .relation n fs d r => "RelationDescriptor(" ++ commas (assignments
      [("name", quoted n), ("allowed_fields", nameSet fs), ("max_depth", toString d),
        ("related", literal r)]) ++ ")"

def literals : List Value → List String
  | [] => []
  | v :: vs => literal v :: literals vs

def entryLiterals : List (String × Value) → List String
  | [] => []
  | (k, v) :: es => (quoted k ++ ": " ++ literal v) :: entryLiterals es

end

/-- How a value reads in running text. -/
def display : Value → String
  | .text s => s
  | .date d => d.iso
  | .moment m => m.text
  | .operator o => "OperatorTag." ++ o.name
  | .type t => "TypeTag." ++ t.name
  | .member e n _ => e.text ++ "." ++ n
  | .spec f v o t => " ".intercalate (assignments
      [("field", quoted f), ("value", literal v), ("operator", quoted o), ("type", quoted t)])
  | .field n t o => " ".intercalate (fieldParts n t o)
  | .relation n fs d r => " ".intercalate (assignments
      [("name", quoted n), ("allowed_fields", nameSet fs), ("max_depth", toString d),
        ("related", literal r)])
  | v => literal v

/-- An integer of more digits is not written. -/
def isShort (n : Int) : Bool :=
  n.natAbs < Nat.pow 10 Numeral.digitLimit

mutual

/-- Whether a value has a literal form, which takes that all integers in it can be written. -/
def hasLiteral : Value → Bool
  | .int n => isShort n
  | .list vs | .tuple vs | .set vs | .frozen vs => haveLiterals vs
  | .dict es => entriesHaveLiterals es
  | .member _ _ v | .spec _ v _ _ => hasLiteral v
  | .relation _ _ d r => isShort d && hasLiteral r
  | _ => true

def haveLiterals : List Value → Bool
  | [] => true
  | v :: vs => hasLiteral v && haveLiterals vs

def entriesHaveLiterals : List (String × Value) → Bool
  | [] => true
  | (_, v) :: es => hasLiteral v && entriesHaveLiterals es

end

/-- Whether a value can be written in running text, where a member shows its name only. -/
def isWritable : Value → Bool
  | .member .. => true
  | v => v.hasLiteral

def kindName : Value → String
  | .null => "NoneType"
  | .bool _ => "bool"
  | .int _ => "int"
  | .float _ => "float"
  | .text _ => "str"
  | .bytes _ => "bytes"
  | .list _ => "list"
  | .tuple _ => "tuple"
  | .set _ => "set"
  | .frozen _ => "frozenset"
  | .dict _ => "dict"
  | .date _ => "date"
  | .moment _ => "datetime"
  | .operator _ => "OperatorTag"
  | .type _ => "TypeTag"
  | .member e _ _ => e.text
  | .entity n | .record n => n
  | .spec .. => "FilterSpec"
  | .field .. => "FieldDescriptor"
  | .relation .. => "RelationDescriptor"

theorem display_text (s : String) : display (.text s) = s := rfl

theorem literal_text (s : String) : literal (.text s) = quoted s := rfl

theorem literal_list (vs : List Value) : literal (.list vs) = enclosed "[" (literals vs) ']' := rfl

theorem literal_dict (es : List (String × Value)) :
    literal (.dict es) = enclosed "\x7b" (entryLiterals es) '}' := rfl

theorem entryLiterals_nil : entryLiterals [] = [] := rfl

theorem entryLiterals_cons (k : String) (v : Value) (es : List (String × Value)) :
    entryLiterals ((k, v) :: es) = (quoted k ++ ": " ++ literal v) :: entryLiterals es := rfl

theorem literals_eq_map (vs : List Value) : literals vs = vs.map literal := by
  induction vs with
  | nil => simp [literals]
  | cons v vs ih => simp [literals, ih]

end QueryFilter.Value
