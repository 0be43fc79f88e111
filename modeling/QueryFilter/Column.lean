/-! Column names: those that hold secrets, those that point to another table, and their qualified
form. -/

namespace QueryFilter.Column

def sensitiveEndings : List String :=
  ["_token", "password", "secret"]

def endsWithAny (endings : List String) (column : String) : Bool :=
  endings.any fun e => e.toList.isSuffixOf column.toList

def isSensitive (column : String) : Bool :=
  endsWithAny sensitiveEndings column

/-- The columns that may be filtered on, in order. -/
def filterable (excluded columns : List String) : List String :=
  columns.filter fun c => !excluded.contains c && !isSensitive c

def keyEnding : List Char :=
  ['_', 'i', 'd']

/-- The relation that a column points along; none when nothing stands before the ending. -/
def relationName? (column : String) : Option String :=
  let cs := column.toList
  if keyEnding.isSuffixOf cs ∧ cs ≠ keyEnding then
    some (String.ofList (cs.take (cs.length - keyEnding.length)))
  else none

def qualify (table column : String) : String :=
  if table = "" then column else table ++ "." ++ column

theorem filterable_sublist (excluded columns : List String) :
    (filterable excluded columns).Sublist columns :=
  List.filter_sublist

end QueryFilter.Column
