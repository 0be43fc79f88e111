import QueryFilter.Calendar.Resolve
import QueryFilter.Coercion

/-! Days and parts of days that values stand for. -/

namespace QueryFilter.Value

open Text Calendar

/-- The day that a text names under a format, which has to be a text; one that cannot be used
names none. -/
def dayOfText (rule : WeekRule) (format : Value) (s : String) : Except Fault (Option Date) :=
  match format.asText?.map Pattern.parse with
  | none => .error .wrongKind
  | some (.ok p) => .ok (p.date? rule (strip s))
  | some (.error .badDirective) => .ok none
  | some (.error .repeatedDirective) => .error .repeatedDirective

/-- The day of a value, if it has one. -/
def day? (v : Value) (rule : WeekRule) (format : Value) : Except Fault (Option Date) :=
  match v, v.asText? with
  | .moment m, _ => .ok (some m.date)
  | .date d, _ => .ok (some d)
  | _, some s => dayOfText rule format s
  | _, none => .ok none

def isoDay? (v : Value) (rule : WeekRule) (format : Value) : Except Fault (Option String) :=
  (v.day? rule format).map (·.map Date.iso)

def isFigures (s : String) : Bool :=
  !s.isEmpty && s.toList.all isFigure

def datePart? (v : Value) : Except Fault (Option Int) :=
  match v, v.asText? with
  | .int n, _ => .ok (some n)
  | _, some s =>
    let s := strip s
    if isFigures s then (integerOfText s).map some else .ok none
  | _, none => .ok none

end QueryFilter.Value
