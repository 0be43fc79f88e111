import QueryFilter.Value.Basic

/-! When two values are the same member of a set: numbers are compared by what they count, and
tags as texts. -/

namespace QueryFilter.Value

/-- The number that a value counts as, when it is an integer. -/
def asInt? : Value → Option Int
  | .bool b => some b.toNat
  | .int n => some n
  | .float x => if x.isIntegral then x.toInt? else none
  | _ => none

def sameFloat : Value → Value → Bool
  | .float .nan, _ => false
  | .float x, .float y => x == y
  | _, _ => false

/-- The values that are the same only when written the same. -/
def samePlain : Value → Value → Bool
  | .null, .null => true
  | .bytes a, .bytes b => a == b
  | .date a, .date b => a == b
  | .moment a, .moment b => a.same b
  | .member e n _, .member e' n' _ => e.text == e'.text && n == n'
  | .entity a, .entity b => a == b
  | .field n t o, .field n' t' o' => n == n' && t == t' && o == o'
  | _, _ => false

def sameScalar (a b : Value) : Bool :=
  match a.asInt?, b.asInt?, a.asText?, b.asText? with
  | some m, some n, _, _ => m == n
  | _, _, some s, some t => s == t
  | _, _, _, _ => sameFloat a b || samePlain a b

/-- Whether two lists hold the same names, in whatever order. -/
def sameNames (ns ms : List String) : Bool :=
  ns.all ms.contains && ms.all ns.contains

mutual

def same : Value → Value → Bool
  | .tuple vs, .tuple ws => sameAll vs ws
  | .frozen vs, .frozen ws => sameAll vs ws
  | .relation n fs d r, .relation n' fs' d' r' =>
    n == n' && sameNames fs fs' && d == d' && same r r'
  | a, b => sameScalar a b

def sameAll : List Value → List Value → Bool
  | [], [] => true
  | v :: vs, w :: ws => same v w && sameAll vs ws
  | _, _ => false

end

/-- Keeps the first of several members that are the same. -/
def distinct (vs : List Value) : List Value :=
  vs.foldl (fun seen v => if seen.any (fun w => same w v) then seen else seen ++ [v]) []

end QueryFilter.Value
