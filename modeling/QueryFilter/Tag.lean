import QueryFilter.Text.Blank
import QueryFilter.Text.Letter

/-! The semantic types of fields and the operators of filters, each with its symbol. Symbols are
read without regard to surrounding blanks and letter case. -/

namespace QueryFilter

open Text

inductive FieldType where
  | string | integer | float | boolean | date | array
  deriving DecidableEq

def FieldType.all : List FieldType :=
  [.string, .integer, .float, .boolean, .date, .array]

def FieldType.symbol : FieldType → String
  | .string => "string"
  | .integer => "integer"
  | .float => "float"
  | .boolean => "boolean"
  | .date => "date"
  | .array => "array"

def FieldType.name (t : FieldType) : String :=
  upper t.symbol

def FieldType.ofSymbol? (s : String) : Option FieldType :=
  FieldType.all.find? (·.symbol = s)

/-- Integers and floats have a second name. -/
def FieldType.named? (s : String) : Option FieldType :=
  if s = "number" then some .integer
  else if s = "decimal" then some .float
  else FieldType.ofSymbol? s

def FieldType.parse? (s : String) : Option FieldType :=
  FieldType.named? (lower (strip s))

def FieldType.ofColumnType (s : String) : FieldType :=
  if s ∈ ["integer", "int", "bigint", "big_integer", "smallint", "small_integer", "tinyint"] then
    .integer
  else if s ∈ ["decimal", "numeric", "float", "double", "real"] then .float
  else if s = "boolean" then .boolean
  else if s ∈ ["date", "datetime", "timestamp"] then .date
  else .string

inductive Operator where
  | eq | ne | gt | gte | lt | lte | like | notLike | within | notWithin | between | notBetween
  | null | notNull | date | month | year | day
  deriving DecidableEq

def Operator.all : List Operator :=
  [.eq, .ne, .gt, .gte, .lt, .lte, .like, .notLike, .within, .notWithin, .between, .notBetween,
    .null, .notNull, .date, .month, .year, .day]

def Operator.symbol : Operator → String
  | .eq => "="
  | .ne => "!="
  | .gt => ">"
  | .gte => ">="
  | .lt => "<"
  | .lte => "<="
  | .like => "like"
  | .notLike => "not_like"
  | .within => "in"
  | .notWithin => "not_in"
  | .between => "between"
  | .notBetween => "not_between"
  | .null => "null"
  | .notNull => "not_null"
  | .date => "date"
  | .month => "month"
  | .year => "year"
  | .day => "day"

def Operator.name : Operator → String
  | .eq => "EQ"
  | .ne => "NE"
  | .gt => "GT"
  | .gte => "GTE"
  | .lt => "LT"
  | .lte => "LTE"
  | o => upper o.symbol

def Operator.ofSymbol? (s : String) : Option Operator :=
  Operator.all.find? (·.symbol = s)

def Operator.parse? (s : String) : Option Operator :=
  Operator.ofSymbol? (lower (strip s))

theorem FieldType.symbol_ne (t : FieldType) : t.symbol ≠ "" := by
  cases t <;> decide

theorem Operator.symbol_ne (o : Operator) : o.symbol ≠ "" := by
  cases o <;> decide

theorem FieldType.parse?_symbol (t : FieldType) : FieldType.parse? t.symbol = some t := by
  rw [parse?, lower_eq]
  cases t <;> rfl

theorem Operator.parse?_symbol (o : Operator) : Operator.parse? o.symbol = some o := by
  rw [parse?, lower_eq]
  cases o <;> rfl

end QueryFilter
