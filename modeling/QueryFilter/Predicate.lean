import QueryFilter.Value.Basic

/-! Predicates on columns, as plain data. -/

namespace QueryFilter

inductive Comparison where
  | eq | ne | gt | gte | lt | lte | like | notLike | ilike | notIlike
  deriving DecidableEq

def Comparison.all : List Comparison :=
  [.eq, .ne, .gt, .gte, .lt, .lte, .like, .notLike, .ilike, .notIlike]

def Comparison.symbol : Comparison → String
  | .eq => "="
  | .ne => "!="
  | .gt => ">"
  | .gte => ">="
  | .lt => "<"
  | .lte => "<="
  | .like => "like"
  | .notLike => "not like"
  | .ilike => "ilike"
  | .notIlike => "not ilike"

def Comparison.ofSymbol? (s : String) : Option Comparison :=
  Comparison.all.find? (·.symbol = s)

inductive DatePart where
  | month | year | day
  deriving DecidableEq

inductive Test where
  | compare (c : Comparison)
  | within (negated : Bool)
  | between (negated : Bool)
  | null (negated : Bool)
  | date
  | part (p : DatePart)
  deriving DecidableEq

/-- A test of a column against an operand. Tests for null ignore theirs. A column is named by a
text; other values are kept for the query to judge. -/
structure Predicate where
  column : Value
  test : Test
  operand : Value

end QueryFilter
