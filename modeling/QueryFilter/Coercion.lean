import QueryFilter.Fault
import QueryFilter.Numeral.Decimal
import QueryFilter.Text.Split

/-! Coercion of raw values to the type of a field. A text that is no number gives the number it
begins with, or zero. -/

namespace QueryFilter

open Text Numeral

def integerFault (literal : Value) : Numeral.Refusal → Fault
  | .malformed => .integerText literal
  | .tooLong n => .integerLength (some n)

def integerOfText (s : String) : Except Fault Int :=
  (readInteger s.toList).mapError (integerFault (.text s))

def leadingInteger (s : String) : Except Fault Int :=
  match leadingInteger? s.toList with
  | none => .ok 0
  | some cs => integerOfText (String.ofList cs)

def leadingDecimal (s : String) : Except Fault Binary64 :=
  match leadingDecimal? s.toList with
  | none => .ok (Binary64.zero false)
  | some cs =>
    match readDecimal? cs with
    | some x => .ok x
    | none => .error (.decimalText (.text (String.ofList cs)))

/-- How a value reads in running text, if it can be written. -/
def Value.written (v : Value) : Except Fault String :=
  if v.isWritable then .ok v.display else .error (.integerLength none)

/-- The integer that a text writes as a whole, or else the one it begins with. -/
def integerIn (s : String) : Except Fault Int :=
  match readInteger s.toList with
  | .ok n => .ok n
  | .error _ => leadingInteger s

def toInteger (v : Value) : Except Fault Int :=
  match v with
  | .bool b => .ok b.toNat
  | .int n => .ok n
  | .float x => .ok (x.toInt?.getD 0)
  | v => v.written >>= integerIn

def toFloat (v : Value) : Except Fault Binary64 :=
  match v with
  | .bool b => .ok (if b then Binary64.one else Binary64.zero false)
  | .int n =>
    match Binary64.ofInt? n with
    | some x => .ok x
    | none => .error .integerTooLarge
  | .float x => .ok x
  | v => v.written >>= leadingDecimal

def truthyWords : List String :=
  ["1", "true", "yes", "on"]

def textIsTrue (s : String) : Bool :=
  let s := strip s
  match readDecimal? s.toList with
  | some x => !x.isZero
  | none => truthyWords.contains (lower s)

def toBoolean (v : Value) : Bool :=
  match v.asText? with
  | some s => textIsTrue s
  | none => v.isTrue

/-- The pieces of a text. Anything empty means a comma as the delimiter; else it has to be a
text. -/
def splitText (delimiter : Value) (s : String) : Except Fault (List String) :=
  if s = "" then .ok []
  else if !delimiter.isTrue then .ok (splitDelimited s "")
  else
    match delimiter.asText? with
    | some d => .ok (splitDelimited s d)
    | none => .error .wrongKind

def toArray (delimiter : Value) (v : Value) : Except Fault (List Value) :=
  match v.members?, v.asText? with
  | some vs, _ => .ok vs
  | none, some s => (splitText delimiter s).map (·.map .text)
  | none, none => .ok [v]

def splitValue (delimiter : Value) (v : Value) : Except Fault (List Value) :=
  match v, delimiter, v.asText? with
  | .bytes bs, .bytes (d :: ds), _ => .ok ((pieces (d :: ds) bs).map .bytes)
  | .bytes _, _, _ => .error .wrongKind
  | _, _, some s => (splitText delimiter s).map (·.map .text)
  | _, _, none => .error .noSuchMember

/-- Patterns are searched anywhere in a text. -/
def toPattern (v : Value) : Except Fault Value :=
  v.written.map fun s => .text ("%" ++ s ++ "%")

def coerceEach (f : Value → Except Fault Value) (v : Value) : Except Fault Value :=
  match v.members? with
  | some vs => (vs.mapM f).map .list
  | none => f v

/-- The value in the form of a field's type. Dates and unknown types are left as they are. -/
def coerce (type : Option FieldType) (operator : Option Operator) (delimiter : Value)
    (v : Value) : Except Fault Value :=
  match type with
  | some .string => if operator = some .like ∧ ¬ v.isSequence then toPattern v else .ok v
  | some .array => (toArray delimiter v).map .list
  | some .integer => coerceEach (fun v => (toInteger v).map .int) v
  | some .float => coerceEach (fun v => (toFloat v).map .float) v
  | some .boolean => coerceEach (fun v => .ok (.bool (toBoolean v))) v
  | some .date | none => .ok v

end QueryFilter
