import QueryFilter.Column
import QueryFilter.Value.Elements
import QueryFilter.Value.Equal

/-! Column names and endings that are given as values of any kind. -/

namespace QueryFilter.Column

/-- Whether a text ends in a text, or bytes in bytes. -/
def endsIn? (column ending : Value) : Option Bool :=
  match column, ending, column.asText?, ending.asText? with
  | .bytes bs, .bytes es, _, _ => some (es.isSuffixOf bs)
  | _, _, some s, some e => some (e.toList.isSuffixOf s.toList)
  | _, _, _, _ => none

/-- Endings behind the first that fits are not looked at. -/
def endsInAny (column : Value) : List Value → Except Fault Bool
  | [] => .ok false
  | e :: es =>
    match endsIn? column e with
    | some true => .ok true
    | some false => endsInAny column es
    | none => .error .wrongKind

def isSensitiveUnder (endings column : Value) : Except Fault Bool :=
  match column, column.asText? with
  | .bytes _, _ | _, some _ => endings.elements >>= endsInAny column
  | _, none => .error .noSuchMember

def isSensitiveValue (column : Value) : Except Fault Bool :=
  isSensitiveUnder (.list (sensitiveEndings.map .text)) column

/-- Whether a value can be looked for among others. A set is looked for by its members. -/
def isSearchable : Value → Bool
  | .set _ => true
  | v => v.isHashable

def isKept (excluded : List Value) (column : Value) : Except Fault Bool :=
  if !isSearchable column then .error .wrongKind
  else if excluded.any (·.same column) then .ok false
  else (isSensitiveValue column).map (!·)

def filterableValues (excluded columns : Value) : Except Fault (List Value) := do
  let skipped ← excluded.elements
  if !skipped.all Value.isHashable then throw .wrongKind
  (← columns.elements).filterM (isKept skipped)

def relationNameOf (column : Value) : Except Fault (Option String) :=
  match column, column.asText? with
  | .bytes _, _ => .error .wrongKind
  | _, some s => .ok (relationName? s)
  | _, none => .error .noSuchMember

/-- Without a table the column stands alone. -/
def qualifyValue (table column : Value) : Value :=
  if table.isTrue then .text (table.display ++ "." ++ column.display) else column

end QueryFilter.Column
