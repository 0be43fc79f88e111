import QueryFilter.Binary64.Basic
import QueryFilter.Calendar.Date
import QueryFilter.Tag
import QueryFilter.Text.Digit

/-! Values that filters, options and declarations carry. Tags behave as the text of their symbol,
members of other enumerations do not behave as their value. A filter specification or a descriptor
may itself be a value. -/

namespace QueryFilter

open Calendar

/-- Characters that neither a number nor a blank begins with. -/
def opensName (c : Char) : Bool :=
  !Text.isBlank c && !Text.isDigit c && c != '-' && c != '+'

/-- A name as classes have one. -/
structure Identifier where
  text : String
  opens : text.toList.head?.any opensName = true

inductive Value where
  | null
  | bool (b : Bool)
  | int (n : Int)
  | float (x : Binary64)
  | text (s : String)
  | bytes (bs : List UInt8)
  | list (vs : List Value)
  | tuple (vs : List Value)
  | set (vs : List Value)
  | frozen (vs : List Value)
  | dict (entries : List (String × Value))
  | date (d : Date)
  | moment (m : Moment)
  | operator (o : Operator)
  | type (t : FieldType)
  | member (enumeration : Identifier) (name : String) (value : Value)
  | entity (name : String)
  | record (entity : String)
  | spec (field : String) (value : Value) (operator type : String)
  | field (name : String) (type : FieldType) (operator : Operator)
  | relation (name : String) (fields : List String) (maxDepth : Int) (related : Value)

namespace Value

/-- The text of a value that is one; tags count as texts. -/
def asText? : Value → Option String
  | .text s => some s
  | .operator o => some o.symbol
  | .type t => some t.symbol
  | _ => none

def isText (v : Value) : Bool :=
  v.asText?.isSome

/-- The value behind a member of an enumeration, of which the tags are two. -/
def memberValue? : Value → Option Value
  | .operator o => some (.text o.symbol)
  | .type t => some (.text t.symbol)
  | .member _ _ v => some v
  | _ => none

def isNull : Value → Bool
  | .null => true
  | _ => false

/-- The two absent values: null and the empty text. -/
def isBlank (v : Value) : Bool :=
  v.isNull || v.asText? == some ""

def isSequence : Value → Bool
  | .list _ | .tuple _ | .set _ | .frozen _ => true
  | _ => false

def members? : Value → Option (List Value)
  | .list vs | .tuple vs | .set vs | .frozen vs => some vs
  | _ => none

/-- A value as a list; one that holds no others stands alone. -/
def asList (v : Value) : List Value :=
  v.members?.getD [v]

def entries? : Value → Option (List (String × Value))
  | .dict es => some es
  | _ => none

/-- Whether a value counts as true where a condition is asked for. -/
def isTrue : Value → Bool
  | .null => false
  | .bool b => b
  | .int n => n != 0
  | .float x => !x.isZero
  | .text s => s != ""
  | .bytes bs => !bs.isEmpty
  | .list vs | .tuple vs | .set vs | .frozen vs => !vs.isEmpty
  | .dict es => !es.isEmpty
  | _ => true

/-- An entity or one of its records, by the entity's name. -/
def entityName? : Value → Option String
  | .entity n | .record n => some n
  | _ => none

mutual

/-- Whether a value can be looked up in a table. Values that may change cannot. -/
def isHashable : Value → Bool
  | .list _ | .set _ | .dict _ | .spec .. => false
  | .tuple vs => areHashable vs
  | .relation _ _ _ related => related.isHashable
  | _ => true

def areHashable : List Value → Bool
  | [] => true
  | v :: vs => v.isHashable && areHashable vs

end

theorem isSequence_eq_isSome (v : Value) : v.isSequence = v.members?.isSome := by
  cases v <;> rfl

theorem isBlank_text (s : String) : (Value.text s).isBlank = (s == "") := by
  simp [isBlank, isNull, asText?]

end Value

def FieldType.ofValue? (v : Value) : Option FieldType :=
  v.asText?.bind FieldType.parse?

def Operator.ofValue? (v : Value) : Option Operator :=
  v.asText?.bind Operator.parse?

end QueryFilter
