import QueryFilter.Binary64.Rounded
import QueryFilter.Fault

/-! The form that a directive gives to an argument: a text, an integer in one of three bases, a
decimal number or a character, laid out in a width. Numbers keep their sign in front of zeros. -/

namespace QueryFilter.Template

open Text

structure Layout where
  flags : List Char := []
  width : Nat := 0
  precision : Option Nat := none

/-- No text is made wider, and no number longer, than this. -/
def sizeLimit : Nat := 67108864

namespace Layout

def has (l : Layout) (flag : Char) : Bool :=
  l.flags.contains flag

/-- A minus sign, or what the flags ask for in its place. -/
def sign (l : Layout) (negative : Bool) : List Char :=
  if negative then ['-'] else if l.has '+' then ['+'] else if l.has ' ' then [' '] else []

/-- Fills up to the width: blanks on one side, or zeros after the opening. -/
def arrange (l : Layout) (zeros : Bool) (opening body : List Char) : List Char :=
  let gap := l.width - (opening.length + body.length)
  if l.has '-' then opening ++ body ++ List.replicate gap ' '
  else if zeros then opening ++ List.replicate gap '0' ++ body
  else List.replicate gap ' ' ++ opening ++ body

def number (l : Layout) (negative : Bool) (mark body : List Char) : List Char :=
  l.arrange (l.has '0') (l.sign negative ++ mark) body

/-- A text is cut off at the precision. -/
def text (l : Layout) (cs : List Char) : List Char :=
  l.arrange false [] ((l.precision.map cs.take).getD cs)

end Layout

/-- An argument as an integer; a decimal number loses its fraction. -/
def integerOf : Value → Except Fault Int
  | .bool b => .ok b.toNat
  | .int n => .ok n
  | .float x =>
    match x.toInt? with
    | some n => .ok n
    | none => .error (if x = .nan then .integerOfNaN else .integerOfInfinity)
  | _ => .error .wrongKind

def wholeOf : Value → Except Fault Int
  | .bool b => .ok b.toNat
  | .int n => .ok n
  | _ => .error .wrongKind

def decimalOf : Value → Except Fault Binary64
  | .bool b => .ok (if b then Binary64.one else Binary64.zero false)
  | .int n =>
    match Binary64.ofInt? n with
    | some x => .ok x
    | none => .error .integerTooLarge
  | .float x => .ok x
  | _ => .error .wrongKind

/-- A text of one character, or the number of one. -/
def characterOf (v : Value) : Except Fault Char :=
  match v.asText? with
  | some s =>
    match s.toList with
    | [c] => .ok c
    | _ => .error .wrongKind
  | none => do
    let n ← wholeOf v
    if 0 ≤ n ∧ n < 1114112 then pure (Char.ofNat n.toNat)
    else throw (.template .characterRange)

/-- Digits in a base, at least as many as the precision, and the mark of the base. -/
def integerForm (l : Layout) (base : Nat) (mark : List Char) (upper : Bool) (n : Int) : List Char :=
  let digits := zeroFilled (l.precision.getD 0) (Nat.toDigits base n.natAbs)
  l.number (decide (n < 0)) (if l.has '#' then mark else [])
    (if upper then digits.map Char.toUpper else digits)

/-- The places of a decimal number. No number has more digits than 767, and zeros behind them are
mostly left out in the general style. -/
def decimalPlaces (l : Layout) (style : Binary64.Style) : Nat :=
  let n := l.precision.getD 6
  if style = .general ∧ ¬ l.has '#' then min n 767 else n

def decimalForm (l : Layout) (style : Binary64.Style) (upper : Bool) (x : Binary64) : List Char :=
  let (negative, body) := x.rounded style (l.has '#') (decimalPlaces l style)
  l.number negative [] (if upper then body.map Char.toUpper else body)

/-- The literal form with every character beyond the first 128 escaped. -/
def plainLiteral (v : Value) : List Char :=
  v.literal.toList.flatMap fun c => if c.toNat < 128 then [c] else escapePoint c.toNat

def checkSize (n : Nat) : Except Fault Unit :=
  if sizeLimit < n then .error (.template .tooLarge) else .ok ()

def integerPrecision : Nat := 2147483644

/-- An argument in the form that a letter asks for. It is looked at before the room it takes. -/
def form (l : Layout) (letter : Char) (index : Nat) (v : Value) : Except Fault (List Char) := do
  let places := l.precision.getD 0
  let whole (base : Nat) (mark : String) (upper : Bool) (n : Except Fault Int) := do
    let n ← n
    if integerPrecision < places then throw (.template .longPrecision)
    checkSize (max l.width places)
    pure (integerForm l base mark.toList upper n)
  let decimal (style : Binary64.Style) (upper : Bool) := do
    let x ← decimalOf v
    checkSize (max l.width (if x.toInt?.isSome then decimalPlaces l style else 0))
    pure (decimalForm l style upper x)
  let text (s : List Char) := do
    checkSize l.width
    pure (l.text s)
  match letter with
  | 's' => text v.display.toList
  | 'r' => text v.literal.toList
  | 'a' => text (plainLiteral v)
  | 'd' | 'i' | 'u' => whole 10 "" false (integerOf v)
  | 'o' => whole 8 "0o" false (wholeOf v)
  | 'x' => whole 16 "0x" false (wholeOf v)
  | 'X' => whole 16 "0X" true (wholeOf v)
  | 'f' => decimal .fixed false
  | 'F' => decimal .fixed true
  | 'e' => decimal .scientific false
  | 'E' => decimal .scientific true
  | 'g' => decimal .general false
  | 'G' => decimal .general true
  | 'c' => do
    let c ← characterOf v
    checkSize l.width
    pure (l.arrange false [] [c])
  | c => throw (.template (.unknownLetter c index))

end QueryFilter.Template
