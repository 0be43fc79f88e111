import QueryFilter.Text.Blank
import QueryFilter.Text.Digit

/-! Integers written in decimal. A whole numeral may be surrounded by blanks, signed, and have
single underscores between its digits; the leading integer of a text is its longest beginning
made of blanks, a sign and digits. -/

namespace QueryFilter.Numeral

open Text

inductive Refusal where
  | malformed
  | tooLong (digits : Nat)
  deriving DecidableEq

def digitLimit : Nat := 4300

def spanDigits : List Char → List Nat × List Char
  | [] => ([], [])
  | c :: cs =>
    match digitValue? c with
    | some d =>
      let (ds, rest) := spanDigits cs
      (d :: ds, rest)
    | none => ([], c :: cs)

/-- Digits with single underscores between them, and the rest. An underscore that stands first,
last or beside another spoils the numeral, and so does the lack of a digit. -/
def grouped : (afterDigit : Bool) → List Char → Option (List Nat × List Char)
  | afterDigit, [] => if afterDigit then some ([], []) else none
  | afterDigit, c :: cs =>
    match digitValue? c with
    | some d => (grouped true cs).map (fun r => (d :: r.1, r.2))
    | none =>
      if !afterDigit then none
      else if c = '_' then grouped false cs
      else some ([], c :: cs)

def takeSign : List Char → Bool × List Char
  | '-' :: cs => (true, cs)
  | '+' :: cs => (false, cs)
  | cs => (false, cs)

def signed (negative : Bool) (n : Nat) : Int :=
  if negative then -(n : Int) else n

/-- The size of a numeral is checked before what follows its digits. -/
def readInteger (cs : List Char) : Except Refusal Int :=
  let (negative, body) := takeSign (trim isNumeralBlank cs)
  match grouped false body with
  | none => .error .malformed
  | some (ds, rest) =>
    if digitLimit < ds.length then .error (.tooLong ds.length)
    else if rest.isEmpty then .ok (signed negative (digitsValue ds))
    else .error .malformed

def spanSign : List Char → List Char × List Char
  | [] => ([], [])
  | c :: cs => if c = '-' ∨ c = '+' then ([c], cs) else ([], c :: cs)

/-- Blanks and an optional sign in front of a text, and the rest. -/
def spanOpening (cs : List Char) : List Char × List Char :=
  let sign := spanSign (cs.dropWhile isBlank)
  (cs.takeWhile isBlank ++ sign.1, sign.2)

def leadingInteger? (cs : List Char) : Option (List Char) :=
  let (opening, rest) := spanOpening cs
  let digits := rest.takeWhile isDigit
  if digits.isEmpty then none else some (opening ++ digits)

theorem spanDigits_eq (cs : List Char) :
    spanDigits cs = ((cs.takeWhile isDigit).filterMap digitValue?, cs.dropWhile isDigit) := by
  induction cs with
  | nil => rfl
  | cons c cs ih =>
    cases h : digitValue? c with
    | none => simp [spanDigits, isDigit, h]
    | some d => simp [spanDigits, isDigit, h, ih]

theorem spanSign_append (cs : List Char) : (spanSign cs).1 ++ (spanSign cs).2 = cs := by
  cases cs with
  | nil => rfl
  | cons c cs => by_cases h : c = '-' ∨ c = '+' <;> simp [spanSign, h]

theorem spanOpening_append (cs : List Char) :
    (spanOpening cs).1 ++ (spanOpening cs).2 = cs := by
  simp [spanOpening, spanSign_append, List.takeWhile_append_dropWhile]

end QueryFilter.Numeral
