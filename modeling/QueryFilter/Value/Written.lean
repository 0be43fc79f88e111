import QueryFilter.Calendar.Iso
import QueryFilter.Coercion

/-! Values from their written forms: days and moments, decimal numbers, and bytes as pairs of
hexadecimal digits. -/

namespace QueryFilter.Value

open Text Calendar

def rangeText (part range : String) : Fault :=
  .datePart (part ++ " must be in " ++ range)

def isoFault (s : String) : IsoRefusal → Fault
  | .malformed => .dateText (.text s)
  | .offsetRange n => .datePart ("offset must be a timedelta strictly between " ++
      "-timedelta(hours=24) and timedelta(hours=24), not " ++ spanLiteral n ++ ".")
  | .yearRange year => .datePart ("year " ++ toString year ++ " is out of range")
  | .monthRange => rangeText "month" "1..12"
  | .dayRange => .datePart "day is out of range for month"
  | .hourRange => rangeText "hour" "0..23"
  | .minuteRange => rangeText "minute" "0..59"
  | .secondRange => rangeText "second" "0..59"

def ofIsoDay (s : String) : Except Fault Value :=
  ((Date.ofIso s).map Value.date).mapError (isoFault s)

def ofIsoMoment (s : String) : Except Fault Value :=
  ((Moment.ofIso s).map Value.moment).mapError (isoFault s)

def ofDecimal (s : String) : Except Fault Value :=
  match Numeral.readDecimal? s.toList with
  | some x => .ok (.float x)
  | none => .error (.decimalText (.text s))

/-- Bytes from pairs of digits with plain blanks between them, or the position of the character
that spoils them. -/
def hexBytes : (position : Nat) → List Char → Except Nat (List UInt8)
  | _, [] => .ok []
  | n, [c] =>
    if isNumeralBlank c then .ok []
    else .error (if (hexValue? c).isSome then n + 1 else n)
  | n, c :: d :: cs =>
    if isNumeralBlank c then hexBytes (n + 1) (d :: cs)
    else
      match hexValue? c, hexValue? d with
      | some high, some low => (hexBytes (n + 2) cs).map (UInt8.ofNat (16 * high + low) :: ·)
      | none, _ => .error n
      | some _, none => .error (n + 1)

/-- A character beyond the first 128 spoils the text wherever it stands. -/
def ofHex (s : String) : Except Fault Value :=
  match s.toList.findIdx? (128 ≤ ·.toNat) with
  | some n => .error (.hexText n)
  | none => ((hexBytes 0 s.toList).map Value.bytes).mapError .hexText

end QueryFilter.Value
