import QueryFilter.Binary64.Basic
import QueryFilter.Text.Digit

/-! The shortest decimal text that reads back as a given number. Grids of one, two, … seventeen
digits are tried in turn; on each the two neighbours of the number are tested, the nearer one
first. -/

namespace QueryFilter.Binary64

def decimalLength (n : Nat) : Nat :=
  (Nat.toDigits 10 n).length

/-- The exponent of the leading decimal digit of a positive quotient. -/
def decimalExponent (num den : Nat) : Int :=
  if den ≤ num then (decimalLength (num / den) : Int) - 1
  else
    let l := decimalLength (den / num)
    if den ≤ num * tenTo (l - 1) then 1 - (l : Int) else -(l : Int)

/-- The two neighbours of a quotient on the grid of multiples of `10 ^ p`, the nearer first, and
of two equally near the even one. -/
def neighbours (num den : Nat) (p : Int) : List Nat :=
  let a := num * tenTo (-p).toNat
  let b := den * tenTo p.toNat
  let q := a / b
  if roundQuotient a b = q then [q, q + 1] else [q + 1, q]

def shortestFrom (x : Binary64) (num den : Nat) (exponent : Int) : (left digits : Nat) → Nat × Int
  | 0, _ => (num, 0)
  | left + 1, digits =>
    let p := exponent - digits + 1
    match (neighbours num den p).find? (fun m => ofDecimal false m p == x) with
    | some m => (m, p)
    | none => shortestFrom x num den exponent left (digits + 1)

def shortest (exponent : Fin 2047) (fraction : Fin fractionCount) : Nat × Int :=
  let (num, den) := magnitude exponent fraction
  shortestFrom (.finite false exponent fraction) num den (decimalExponent num den) 17 1

/-- Digits with a point after the first `k`; zeros fill the places that have no digit. -/
def positional (ds : List Char) (k : Int) : List Char :=
  if k ≤ 0 then '0' :: '.' :: List.replicate (-k).toNat '0' ++ ds
  else
    let k := k.toNat
    if ds.length ≤ k then ds ++ List.replicate (k - ds.length) '0' ++ ['.', '0']
    else ds.take k ++ '.' :: ds.drop k

/-- A sign and two digits or more. -/
def exponentText (e : Int) : List Char :=
  'e' :: (if e < 0 then '-' else '+') :: Text.padded 2 e.natAbs

/-- A point stands only in front of digits, unless it is asked for. -/
def pointed (always : Bool) (whole part : List Char) : List Char :=
  if part.isEmpty && !always then whole else whole ++ '.' :: part

def scientific (always : Bool) (ds : List Char) (e : Int) : List Char :=
  pointed always (ds.take 1) (ds.drop 1) ++ exponentText e

def dropEndingZeros (ds : List Char) : List Char :=
  (ds.reverse.dropWhile (· == '0')).reverse

/-- Positional from `10 ^ (-4)` up to below `10 ^ 16`, with a digit on both sides of the point;
otherwise with a signed exponent of two digits or more. -/
def finiteText (exponent : Fin 2047) (fraction : Fin fractionCount) : List Char :=
  if exponent.val = 0 ∧ fraction.val = 0 then ['0', '.', '0']
  else
    let (m, p) := shortest exponent fraction
    let all := Nat.toDigits 10 m
    let e : Int := p + all.length - 1
    let ds := dropEndingZeros all
    if -4 ≤ e ∧ e < 16 then positional ds (e + 1) else scientific false ds e

def text : Binary64 → String
  | .nan => "nan"
  | .infinity s => if s then "-inf" else "inf"
  | .finite s e f => String.ofList ((if s then ['-'] else []) ++ finiteText e f)

end QueryFilter.Binary64
