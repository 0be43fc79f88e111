import QueryFilter.Binary64.Shortest

/-! Decimal texts of a wanted precision, rounded from the exact number, a half to the even
neighbour. The precision counts places after the point, or digits in all. -/

namespace QueryFilter.Binary64

inductive Style where
  | fixed | scientific | general
  deriving DecidableEq

def roundPlaces (num den places : Nat) : Nat :=
  roundQuotient (num * tenTo places) den

/-- The first `count` digits of a quotient, as a number, and the exponent of the leading one.
Rounding up may bring one digit more, which is then a zero at the end. -/
def roundDigits (num den count : Nat) : Nat × Int :=
  if num = 0 then (0, 0)
  else
    let e := decimalExponent num den
    let p : Int := e - count + 1
    let m := roundQuotient (num * tenTo (-p).toNat) (den * tenTo p.toNat)
    if m < tenTo count then (m, e) else (m / 10, e + 1)

def fixedText (always : Bool) (places num den : Nat) : List Char :=
  let ds := Text.padded (places + 1) (roundPlaces num den places)
  let whole := ds.length - places
  pointed always (ds.take whole) (ds.drop whole)

def scientificText (always : Bool) (places num den : Nat) : List Char :=
  let (m, e) := roundDigits num den (places + 1)
  scientific always (Text.padded (places + 1) m) e

/-- Digits of which the first has the given exponent. -/
def placed (always : Bool) (ds : List Char) (e : Int) : List Char :=
  if e < 0 then pointed always ['0'] (List.replicate (-e - 1).toNat '0' ++ ds)
  else
    let k := e.toNat + 1
    pointed always (ds.take k ++ List.replicate (k - ds.length) '0') (ds.drop k)

/-- Scientific for exponents below -4 and for those that the digits do not reach. Zeros at the end
are kept only where the point is. -/
def generalText (always : Bool) (count num den : Nat) : List Char :=
  let count := max count 1
  let (m, e) := roundDigits num den count
  let all := Text.padded count m
  let ds := if always then all else dropEndingZeros all
  if e < -4 ∨ count ≤ e then scientific always ds e else placed always ds e

def magnitudeText (style : Style) (always : Bool) (precision num den : Nat) : List Char :=
  match style with
  | .fixed => fixedText always precision num den
  | .scientific => scientificText always precision num den
  | .general => generalText always precision num den

/-- The sign of a number, which an undefined one has not, and the text of its magnitude. -/
def rounded (style : Style) (always : Bool) (precision : Nat) : Binary64 → Bool × List Char
  | .nan => (false, "nan".toList)
  | .infinity s => (s, "inf".toList)
  | .finite s e f =>
    let (num, den) := magnitude e f
    (s, magnitudeText style always precision num den)

end QueryFilter.Binary64
