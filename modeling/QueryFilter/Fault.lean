import QueryFilter.Value.Literal

/-! What can go wrong, by cause, and the wording of the causes that have one. -/

namespace QueryFilter

inductive RefusalKind where
  | general | entity | configuration | operator | relation
  deriving DecidableEq

/-- A refusal on purpose: a message and named details. -/
structure Refusal where
  kind : RefusalKind
  message : Value
  details : List (String × Value)

/-- A part of a declaration or setting that has the wrong kind of value. -/
structure Issue where
  place : String
  reason : String
  deriving DecidableEq

inductive TemplateFault where
  | incomplete
  | unclosedKey
  | unknownLetter (c : Char) (index : Nat)
  | wideWidth
  | widePrecision
  | characterRange
  | widthRange
  | precisionRange
  | longPrecision
  | tooLarge
  deriving DecidableEq

inductive Fault where
  | integerText (literal : Value)
  | integerLength (digits : Option Nat)
  | decimalText (literal : Value)
  | integerTooLarge
  | integerOfNaN
  | integerOfInfinity
  | tooFewBounds (count : Nat)
  | tooManyBounds
  | noTable (entity : String)
  | noIntrospector (entity : String)
  | wrongKind
  | noSuchMember
  | noSuchEntry
  | pairLength (index length : Nat)
  | dateText (literal : Value)
  | datePart (reason : String)
  | hexText (position : Nat)
  | template (f : TemplateFault)
  | settingsText
  | comparisonOperand
  | notMapped
  | repeatedDirective
  | invalid (issues : List Issue)
  | refused (r : Refusal)

namespace RefusalKind

def name : RefusalKind → String
  | .general => "SmartFilterError"
  | .entity => "InvalidModelError"
  | .configuration => "InvalidConfigurationError"
  | .operator => "UnsupportedOperatorError"
  | .relation => "RelationError"

def named? (s : String) : Option RefusalKind :=
  [general, entity, configuration, operator, relation].find? (·.name = s)

/-- A kind and the wider kinds it belongs to, the narrowest first. -/
def lineage : RefusalKind → List RefusalKind
  | .general => [.general]
  | .operator => [.operator, .configuration, .general]
  | k => [k, .general]

end RefusalKind

namespace Refusal

/-- The message with its details; the details alone for an empty message. -/
def text (r : Refusal) : String :=
  let details := Value.commas (r.details.map fun d => d.1 ++ "=" ++ d.2.literal)
  if r.details.isEmpty then r.message.display
  else if r.message.isTrue then r.message.display ++ " (" ++ details ++ ")"
  else details

def literal (r : Refusal) : String :=
  r.kind.name ++ "(message=" ++ r.message.literal ++ ", details=" ++
    (Value.dict r.details).literal ++ ")"

def forEntity (kind : RefusalKind) (v : Value) : Refusal :=
  { kind
    message := .text ("Model [" ++ v.kindName ++
      "] must implement the Filterable contract to use smart filter")
    details := [("model", .text v.kindName)] }

def forKey (kind : RefusalKind) (key : Value) : Refusal :=
  { kind
    message := .text ("Invalid configuration key [" ++ key.display ++ "] in smart filter options")
    details := [("key", key)] }

def forRelation (kind : RefusalKind) (relation reason : Value) : Refusal :=
  { kind
    message := .text ("Error filtering relation [" ++ relation.display ++ "]: " ++ reason.display)
    details := [("relation", relation)] }

def forOperator (operator column : Value) : Refusal :=
  { kind := .operator
    message := .text "Unsupported filter operator"
    details := [("operator", operator), ("column", column)] }

end Refusal

/-- At most two hundred characters of an unreadable integer are shown. -/
def integerTextShown (literal : Value) : String :=
  String.ofList (literal.literal.toList.take 200)

/-- A letter outside the printable range of the first 128 characters is not shown. -/
def shownLetter (c : Char) : Char :=
  if 31 ≤ c.toNat ∧ c.toNat ≤ 126 then c else '?'

def TemplateFault.message? : TemplateFault → Option String
  | .incomplete => some "incomplete format"
  | .unclosedKey => some "incomplete format key"
  | .unknownLetter c index => some ("unsupported format character '" ++
      String.singleton (shownLetter c) ++ "' (0x" ++ String.ofList (Nat.toDigits 16 c.toNat) ++
      ") at index " ++ toString index)
  | .wideWidth => some "width too big"
  | .widePrecision => some "precision too big"
  | .characterRange => some "%c arg not in range(0x110000)"
  | .widthRange => some "Python int too large to convert to C ssize_t"
  | .precisionRange => some "Python int too large to convert to C int"
  | .longPrecision => some "precision too large"
  | .tooLarge => none

/-- The digits of a numeral are counted when it is read, not when it is to be written. -/
def digitsShown : Option Nat → String
  | some n => ": value has " ++ toString n ++ " digits"
  | none => ""

def Fault.message? : Fault → Option String
  | .integerText v => some ("invalid literal for int() with base 10: " ++ integerTextShown v)
  | .integerLength n => some ("Exceeds the limit (4300 digits) for integer string conversion" ++
      digitsShown n ++ "; use sys.set_int_max_str_digits() to increase the limit")
  | .decimalText v => some ("could not convert string to float: " ++ v.literal)
  | .integerTooLarge => some "int too large to convert to float"
  | .integerOfNaN => some "cannot convert float NaN to integer"
  | .integerOfInfinity => some "cannot convert float infinity to integer"
  | .tooFewBounds n => some ("not enough values to unpack (expected 2, got " ++ toString n ++ ")")
  | .tooManyBounds => some "too many values to unpack (expected 2)"
  | .pairLength i n => some ("dictionary update sequence element #" ++ toString i ++
      " has length " ++ toString n ++ "; 2 is required")
  | .dateText v => some ("Invalid isoformat string: " ++ v.literal)
  | .datePart reason => some reason
  | .hexText n => some ("non-hexadecimal number found in fromhex() arg at position " ++ toString n)
  | .template f => f.message?
  | .noTable e => some (e ++ " must implement get_table()")
  | .noIntrospector e => some (e ++ " must implement get_schema_introspector()")
  | .refused r => some r.text
  | _ => none

end QueryFilter
