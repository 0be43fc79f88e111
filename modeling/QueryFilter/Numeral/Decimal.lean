import QueryFilter.Binary64.Basic
import QueryFilter.Numeral.Integer
import QueryFilter.Text.Letter

/-! Decimal numbers with a point and an exponent, read as the nearest binary number, and the
longest beginning of a text that is such a number. -/

namespace QueryFilter.Numeral

open Text

/-- Removes underscores that stand between two digits; another underscore spoils the numeral. -/
def ungroup : (afterDigit : Bool) → List Char → Option (List Char)
  | _, [] => some []
  | afterDigit, c :: cs =>
    if c = '_' then
      if afterDigit && (cs.head?.map isDigit).getD false then ungroup false cs else none
    else (ungroup (isDigit c) cs).map (c :: ·)

/-- Digits, a point and digits: the digits of both parts and how many stand after the point. -/
def readMantissa (cs : List Char) : Option (List Nat × Nat × List Char) :=
  let (whole, rest) := spanDigits cs
  match rest with
  | '.' :: rest =>
    let (part, rest) := spanDigits rest
    if whole.isEmpty && part.isEmpty then none else some (whole ++ part, part.length, rest)
  | rest => if whole.isEmpty then none else some (whole, 0, rest)

/-- An exponent that is the whole rest, or no rest at all. -/
def readExponent : List Char → Option Int
  | [] => some 0
  | e :: cs =>
    if e = 'e' ∨ e = 'E' then
      let (negative, cs) := takeSign cs
      let (ds, rest) := spanDigits cs
      if ds.isEmpty || !rest.isEmpty then none else some (signed negative (digitsValue ds))
    else none

def readUnsigned (negative : Bool) (cs : List Char) : Option Binary64 :=
  let word := cs.map Char.toLower
  if word = "inf".toList ∨ word = "infinity".toList then some (.infinity negative)
  else if word = "nan".toList then some .nan
  else do
    let (ds, places, rest) ← readMantissa cs
    let e ← readExponent rest
    pure (Binary64.ofDecimal negative (digitsValue ds) (e - places))

def readDecimal? (cs : List Char) : Option Binary64 := do
  let body ← ungroup false (trim isNumeralBlank cs)
  let (negative, body) := takeSign body
  readUnsigned negative body

/-- An exponent in front of a text; an incomplete one is left out. -/
def leadingExponent : List Char → List Char
  | e :: cs =>
    if e = 'e' ∨ e = 'E' then
      match cs with
      | [] => []
      | s :: rest =>
        if s = '+' ∨ s = '-' then
          let digits := rest.takeWhile isDigit
          if digits.isEmpty then [] else e :: s :: digits
        else
          let digits := cs.takeWhile isDigit
          if digits.isEmpty then [] else e :: digits
    else []
  | [] => []

/-- Digits with an optional point and more digits, or a point and digits. -/
def leadingMantissa? (cs : List Char) : Option (List Char × List Char) :=
  let whole := cs.takeWhile isDigit
  match cs.dropWhile isDigit with
  | '.' :: rest =>
    let part := rest.takeWhile isDigit
    if whole.isEmpty && part.isEmpty then none
    else some (whole ++ '.' :: part, rest.dropWhile isDigit)
  | rest => if whole.isEmpty then none else some (whole, rest)

def leadingDecimal? (cs : List Char) : Option (List Char) := do
  let (opening, rest) := spanOpening cs
  let (mantissa, rest) ← leadingMantissa? rest
  pure (opening ++ mantissa ++ leadingExponent rest)

end QueryFilter.Numeral
