/-! Binary floating-point numbers of 64 bits, exactly. A finite number is its sign, exponent and
fraction fields, so equality of numbers is equality of bits; rounding is to nearest, ties to
even, on exact quotients. -/

namespace QueryFilter

/-- Two to the power of 52: as many fractions share an exponent. -/
abbrev fractionCount : Nat := 4503599627370496

inductive Binary64 where
  | nan
  | infinity (negative : Bool)
  | finite (negative : Bool) (exponent : Fin 2047) (fraction : Fin fractionCount)
  deriving DecidableEq

namespace Binary64

def zero (negative : Bool) : Binary64 :=
  .finite negative 0 0

def one : Binary64 :=
  .finite false 1023 0

/-- The integer that is scaled by a power of two. -/
def significand (exponent : Fin 2047) (fraction : Fin fractionCount) : Nat :=
  if exponent.val = 0 then fraction.val else fractionCount + fraction.val

/-- The exponent of that power, plus 1075. -/
def scale (exponent : Fin 2047) : Nat :=
  max exponent.val 1

def magnitude (exponent : Fin 2047) (fraction : Fin fractionCount) : Nat × Nat :=
  (significand exponent fraction <<< (scale exponent - 1075), 1 <<< (1075 - scale exponent))

def joinFields (negative : Bool) (exponent fraction : Nat) : Nat :=
  (negative.toNat * 2048 + exponent) * fractionCount + fraction

def bits : Binary64 → Nat
  | .nan => joinFields false 2047 (fractionCount / 2)
  | .infinity s => joinFields s 2047 0
  | .finite s e f => joinFields s e.val f.val

def isZero : Binary64 → Bool
  | .finite _ e f => e.val == 0 && f.val == 0
  | _ => false

/-- Nearest integer to a quotient, a half going to the even neighbour. -/
def roundQuotient (num den : Nat) : Nat :=
  let q := num / den
  let r := num % den
  if 2 * r > den ∨ (2 * r = den ∧ q % 2 = 1) then q + 1 else q

def ofFields (negative : Bool) (fields : Nat) : Binary64 :=
  if h : fields / fractionCount < 2047 then
    .finite negative ⟨fields / fractionCount, h⟩ ⟨fields % fractionCount, Nat.mod_lt _ (by decide)⟩
  else .infinity negative

/-- The nearest number to a quotient; too large a quotient gives an infinity. -/
def ofQuotient (negative : Bool) (num den : Nat) : Binary64 :=
  if num = 0 then zero negative
  else
    let k : Int := (num.log2 : Int) - den.log2 - 52
    let k := if num <<< (-k).toNat < (fractionCount * den) <<< k.toNat then k - 1 else k
    let k := max k (-1074)
    let q := roundQuotient (num <<< (-k).toNat) (den <<< k.toNat)
    ofFields negative ((k + 1074).toNat * fractionCount + q)

def tenTo (n : Nat) : Nat :=
  Nat.pow 10 n

/-- The nearest number to `m · 10 ^ e`. -/
def ofDecimal (negative : Bool) (m : Nat) (e : Int) : Binary64 :=
  if m = 0 then zero negative
  else if e > 310 then .infinity negative
  else if e + m.log2 < -360 then zero negative
  else ofQuotient negative (m * tenTo e.toNat) (tenTo (-e).toNat)

def ofInt? (n : Int) : Option Binary64 :=
  match ofQuotient (decide (n < 0)) n.natAbs 1 with
  | .infinity _ => none
  | x => some x

def toInt? : Binary64 → Option Int
  | .finite s e f =>
    let (num, den) := magnitude e f
    some (if s then -(num / den : Nat) else (num / den : Nat))
  | _ => none

def isIntegral : Binary64 → Bool
  | .finite _ e f =>
    let (num, den) := magnitude e f
    num % den == 0
  | _ => false

end Binary64

end QueryFilter
