import QueryFilter.Calendar.Pattern

/-! From the fields of a text to a day. Later fields win over earlier ones for the same part; a
day of the year or a week with a weekday wins over month and day. -/

namespace QueryFilter.Calendar

/-- What the fields of a text say. A week counts from Monday or from Sunday. -/
structure Fields where
  year : Option Nat := none
  isoYear : Option Nat := none
  isoWeek : Option Nat := none
  month : Nat := 1
  day : Nat := 1
  second : Nat := 0
  weekday : Option Nat := none
  yearDay : Option Nat := none
  week : Option (Bool × Nat) := none

/-- Two-digit years belong to 1969 to 2068. -/
def fullYear (n : Nat) : Nat :=
  if n ≤ 68 then 2000 + n else 1900 + n

def Fields.put (f : Fields) : Directive → Nat → Fields
  | .shortYear, n => { f with year := some (fullYear n) }
  | .year, n => { f with year := some n }
  | .isoYear, n => { f with isoYear := some n }
  | .isoWeek, n => { f with isoWeek := some n }
  | .month, n | .shortMonth, n | .longMonth, n => { f with month := n }
  | .day, n => { f with day := n }
  | .second, n => { f with second := n }
  | .shortWeekday, n | .longWeekday, n => { f with weekday := some n }
  | .weekdayFromSunday, n => { f with weekday := some ((n + 6) % 7) }
  | .weekdayFromMonday, n => { f with weekday := some (n - 1) }
  | .yearDay, n => { f with yearDay := some n }
  | .weekFromSunday, n => { f with week := some (false, n) }
  | .weekFromMonday, n => { f with week := some (true, n) }
  | _, _ => f

def Fields.ofReadings (rs : List (Directive × Nat)) : Fields :=
  rs.foldl (fun f r => f.put r.1 r.2) {}

/-- How ISO years and weeks go with the other fields. Releases of the language differ: the earlier
rule is loose, the later one strict. -/
inductive WeekRule where
  | loose | strict
  deriving DecidableEq

/-- An ISO year needs an ISO week and a weekday and excludes a day of the year; an ISO week needs an
ISO year. The loose rule overlooks an ISO year beside a year, and then an ISO week beside a counted
week. -/
def Fields.consistent (rule : WeekRule) (f : Fields) : Bool :=
  let complete := f.isoWeek.isSome && f.weekday.isSome && f.yearDay.isNone
  match rule with
  | .strict => if f.isoYear.isSome then complete else f.isoWeek.isNone
  | .loose =>
    if f.year.isNone && f.isoYear.isSome then complete else f.week.isSome || f.isoWeek.isNone

def isYear (year : Nat) : Bool :=
  decide (1 ≤ year ∧ year ≤ 9999)

/-- The day of the year of a weekday in a counted week. Week 0 is the part of the year before the
first full week; its days may fall before the year. -/
def weekDay (year week weekday : Nat) (fromMonday : Bool) : Int :=
  let first := if fromMonday then firstWeekday year else (firstWeekday year + 1) % 7
  let weekday := if fromMonday then weekday else (weekday + 1) % 7
  if week = 0 then (1 + weekday : Int) - first
  else ((1 + (7 - first) % 7 + 7 * (week - 1) + weekday : Nat) : Int)

/-- The year and its day that the fields determine, when they go by days of the year. -/
def Fields.yearAndDay (f : Fields) (year : Nat) : Option (Option (Nat × Nat)) :=
  match f.yearDay, f.weekday with
  | some n, _ => some (some (year, n))
  | none, none => some none
  | none, some w =>
    match f.week, f.isoYear, f.isoWeek with
    | some (fromMonday, n), _, _ =>
      if isYear year then (carryBack year (weekDay year n w fromMonday)).map some else none
    | none, some y, some n =>
      if isYear y then (carryBack y (isoWeekDay y n w)).map some else none
    | none, _, _ => some none

/-- The year 1900 is assumed when none is given. The last day of February is then looked up in a
leap year, and refused. -/
def Fields.date? (rule : WeekRule) (f : Fields) : Option Date := do
  if !f.consistent rule || 59 < f.second then none
  else
    let leap := f.year.isNone && f.month == 2 && f.day == 29
    let year := f.year.getD (if leap then 1904 else 1900)
    let date ←
      match ← f.yearAndDay year with
      | none => Date.of? year f.month f.day
      | some (year, n) => if isYear year then Date.ofYearDay? year n else none
    if leap then Date.of? 1900 date.month date.day else pure date

def Pattern.date? (p : Pattern) (rule : WeekRule) (s : String) : Option Date := do
  let rs ← p.readings? s
  (Fields.ofReadings rs).date? rule

end QueryFilter.Calendar
