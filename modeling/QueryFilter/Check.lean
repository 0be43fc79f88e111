import QueryFilter.Numeral.Integer
import QueryFilter.Value.Elements

/-! Lenient checks of raw values against the type of a setting or declaration. Each either
converts a value or gives the reason why it cannot; a record gathers the reasons of all its
parts. -/

namespace QueryFilter.Check

open Text

abbrev Outcome (α : Type) := Except String α

def wordBound : Int := 9223372036854775808

def fitsWord (n : Int) : Bool :=
  -wordBound ≤ n && n < wordBound

/-- The bound on decimal numbers leaves the least word out as well. -/
def fitsOpenWord (n : Int) : Bool :=
  -wordBound < n && n < wordBound

def decoded? : Value → Option String
  | .bytes bs => String.fromUTF8? (ByteArray.mk bs.toArray)
  | v => v.asText?

def falseWords : List String :=
  ["0", "off", "f", "false", "n", "no"]

def trueWords : List String :=
  ["1", "on", "t", "true", "y", "yes"]

def boolOfWord (s : String) : Outcome Bool :=
  if falseWords.contains s then .ok false
  else if trueWords.contains s then .ok true
  else .error "bool_parsing"

def boolOfInt (n : Int) : Outcome Bool :=
  if n = 0 then .ok false
  else if n = 1 then .ok true
  else if fitsWord n then .error "bool_parsing"
  else .error "bool_type"

/-- Words in any letter case, zero and one. -/
def bool : Value → Outcome Bool
  | .bool b => .ok b
  | .int n => boolOfInt n
  | .float x =>
    match x.toInt? with
    | some n => if x.isIntegral ∧ fitsOpenWord n then boolOfInt n else .error "bool_type"
    | none => .error "bool_type"
  | v =>
    match v, decoded? v with
    | _, some s => boolOfWord (s.map Char.toLower)
    | .bytes _, none => .error "bool_parsing"
    | _, none => .error "bool_type"

def isZeroOrBreak (c : Char) : Bool :=
  c == '0' || c == '_'

/-- Drops zeros and underscores in front of a numeral that begins with zero; its last character
and the zero before a point stay. -/
def dropLeadingZeros : List Char → Option (List Char)
  | [] => none
  | '0' :: cs =>
    let zeros := cs.takeWhile isZeroOrBreak
    match cs.dropWhile isZeroOrBreak with
    | [] => some [('0' :: zeros).getLastD '0']
    | '.' :: rest => some (('0' :: zeros).getLastD '0' :: '.' :: rest)
    | c :: rest => if ('1' ≤ c ∧ c ≤ '9') ∨ c = '-' then some (c :: rest) else none
  | c :: cs => if ('1' ≤ c ∧ c ≤ '9') ∨ c = '-' then some (c :: cs) else none

/-- Drops leading zeros behind a minus sign, and in front of one. -/
def normalZeros : List Char → Option (List Char)
  | '-' :: cs => (dropLeadingZeros cs).map ('-' :: ·)
  | cs => dropLeadingZeros cs

/-- Drops a point that is followed by zeros only. -/
def dropZeroPart (cs : List Char) : List Char :=
  match cs.dropWhile (· != '.') with
  | _ :: c :: part => if (c :: part).all (· == '0') then cs.takeWhile (· != '.') else cs
  | _ => cs

def dropPlus : List Char → Option (List Char)
  | '+' :: '-' :: _ => none
  | '+' :: cs => some cs
  | cs => some cs

def hasDoubleBreak : List Char → Bool
  | '_' :: '_' :: _ => true
  | _ :: cs => hasDoubleBreak cs
  | [] => false

/-- Underscores are dropped where they stand singly within the numeral. -/
def dropBreaks (cs : List Char) : List Char :=
  if cs.head? = some '_' ∨ cs.getLast? = some '_' ∨ hasDoubleBreak cs then cs
  else cs.filter (· != '_')

/-- Digits of the first 128 characters after an optional minus sign. The size, which counts the
sign, is checked before what follows the digits. -/
def plainInteger (cs : List Char) : Outcome Int :=
  let negative := cs.head? == some '-'
  let body := if negative then cs.tail else cs
  let digits := body.takeWhile isPlainDigit
  if digits.isEmpty ∨ (digits.head? = some '0' ∧ 1 < digits.length) then .error "int_parsing"
  else if Numeral.digitLimit < digits.length + negative.toNat then .error "int_parsing_size"
  else if digits.length < body.length then .error "int_parsing"
  else .ok (Numeral.signed negative (digitsValue (digits.filterMap digitValue?)))

def intOfText (s : String) : Outcome Int :=
  match (dropPlus (trim isNumeralBlank s.toList)).bind normalZeros with
  | some cs => plainInteger (dropBreaks (dropZeroPart cs))
  | none => .error "int_parsing"

def intOfFloat (x : Binary64) : Outcome Int :=
  match x.toInt? with
  | none => .error "finite_number"
  | some n =>
    if !x.isIntegral then .error "int_from_float"
    else if fitsOpenWord n then .ok n
    else .error "int_parsing_size"

def int : Value → Outcome Int
  | .bool b => .ok b.toNat
  | .int n => .ok n
  | .float x => intOfFloat x
  | v =>
    match v, decoded? v with
    | _, some s => intOfText s
    | .bytes _, none => .error "int_parsing"
    | _, none => .error "int_type"

def text (v : Value) : Outcome String :=
  match v, decoded? v with
  | _, some s => .ok s
  | .bytes _, none => .error "string_unicode"
  | _, none => .error "string_type"

def operator (v : Value) : Outcome Operator :=
  match (decoded? v).bind Operator.ofSymbol? with
  | some o => .ok o
  | none => .error "enum"

def type (v : Value) : Outcome FieldType :=
  match (decoded? v).bind FieldType.ofSymbol? with
  | some t => .ok t
  | none => .error "enum"

end Check

/-- Checks of truth values and of integers. Each looks at one value alone, whatever is checked
beside it, and takes a value of its own kind as it is. -/
structure Checks where
  bool : Value → Check.Outcome Bool
  int : Value → Check.Outcome Int
  bool_self : ∀ b, bool (.bool b) = .ok b
  int_self : ∀ n, int (.int n) = .ok n

def Checks.lenient : Checks :=
  ⟨Check.bool, Check.int, fun _ => rfl, fun _ => rfl⟩

/-- The issues found, in the order of the parts, or the converted value. -/
abbrev Checked (α : Type) := Except (List Issue) α

namespace Checked

variable {α : Type}

def issues : Checked α → List Issue
  | .ok _ => []
  | .error is => is

/-- A check of the part at a place. -/
def inPlace (place : String) : Check.Outcome α → Checked α
  | .ok a => .ok a
  | .error reason => .error [⟨place, reason⟩]

def gather : List (Checked α) → Checked (List α)
  | [] => .ok []
  | c :: cs =>
    match c, gather cs with
    | .ok a, .ok as => .ok (a :: as)
    | c, cs => .error (c.issues ++ cs.issues)

def texts (place : String) (vs : List Value) : Checked (List String) :=
  gather (vs.zipIdx.map fun v => inPlace (place ++ "." ++ toString v.2) (Check.text v.1))

/-- The items of a value that lists some; texts, bytes and mappings do not count. -/
def items? : Value → Option (List Value)
  | .text _ | .operator _ | .type _ | .bytes _ | .dict _ => none
  | v => v.elements.toOption

def textList (place : String) (v : Value) : Checked (List String) :=
  match items? v with
  | some vs => texts place vs
  | none => .error [⟨place, "list_type"⟩]

def textSet (place : String) (v : Value) : Checked (List String) :=
  match items? v with
  | some vs => (texts place vs).map List.eraseDups
  | none => .error [⟨place, "frozen_set_type"⟩]

def textMap (place : String) (v : Value) : Checked (List (String × String)) :=
  match v.entries? with
  | some es =>
    gather (es.map fun e => (inPlace (place ++ "." ++ e.1) (Check.text e.2)).map (e.1, ·))
  | none => .error [⟨place, "dict_type"⟩]

def toExcept : Checked α → Except Fault α
  | .ok a => .ok a
  | .error is => .error (.invalid is)

end Checked

end QueryFilter
