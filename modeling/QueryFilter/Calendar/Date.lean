import QueryFilter.Text.Digit

/-! Days and moments of the Gregorian calendar, years 1 to 9999. A date is valid by
construction. -/

namespace QueryFilter.Calendar

open Text

def isLeap (year : Nat) : Bool :=
  year % 4 == 0 && (year % 100 != 0 || year % 400 == 0)

def monthLengths (year : Nat) : List Nat :=
  [31, if isLeap year then 29 else 28, 31, 30, 31, 30, 31, 31, 30, 31, 30, 31]

/-- Zero for a month that does not exist. -/
def monthLength (year month : Nat) : Nat :=
  if month = 0 then 0 else (monthLengths year).getD (month - 1) 0

def yearLength (year : Nat) : Nat :=
  if isLeap year then 366 else 365

def IsDate (year month day : Nat) : Prop :=
  1 ≤ year ∧ year ≤ 9999 ∧ 1 ≤ day ∧ day ≤ monthLength year month

instance (year month day : Nat) : Decidable (IsDate year month day) :=
  inferInstanceAs (Decidable (_ ∧ _))

structure Date where
  year : Nat
  month : Nat
  day : Nat
  isDate : IsDate year month day
  deriving DecidableEq

abbrev dayMicros : Nat := 86400000000

/-- How far a clock is ahead, in microseconds; less than a day. -/
structure Offset where
  micros : Int
  isOffset : micros.natAbs < dayMicros
  deriving DecidableEq

structure Moment where
  date : Date
  hour : Fin 24
  minute : Fin 60
  second : Fin 60
  micro : Fin 1000000
  offset : Option Offset := none
  deriving DecidableEq

def Date.of? (year month day : Nat) : Option Date :=
  if h : IsDate year month day then some ⟨year, month, day, h⟩ else none

/-- The days before the first day of a year, counted from the first day of year 1. -/
def daysBefore (year : Nat) : Nat :=
  let y := year - 1
  365 * y + y / 4 - y / 100 + y / 400

/-- The weekday of a year's first day; Monday is 0. -/
def firstWeekday (year : Nat) : Nat :=
  daysBefore year % 7

/-- Month and day of the `n`-th day, going through the months from number `month` on. -/
def monthAndDay : (lengths : List Nat) → (month n : Nat) → Option (Nat × Nat)
  | [], _, _ => none
  | l :: ls, month, n => if n ≤ l then some (month, n) else monthAndDay ls (month + 1) (n - l)

/-- The day of the year of a weekday in an ISO week; week 1 holds the fourth of January. -/
def isoWeekDay (year week weekday : Nat) : Int :=
  let fourth := (firstWeekday year + 3) % 7 + 1
  (week * 7 + weekday + 1 : Int) - (fourth + 3)

/-- A day before the first of a year counts back from the end of the year before. -/
def carryBack (year : Nat) (n : Int) : Option (Nat × Nat) :=
  if 1 ≤ n then some (year, n.toNat)
  else if year = 0 then none
  else some (year - 1, (n + yearLength (year - 1)).toNat)

/-- The `n`-th day of a year; a day past its end is counted on into the next year. -/
def Date.ofYearDay? (year n : Nat) : Option Date := do
  let (year, n) := if n ≤ yearLength year then (year, n) else (year + 1, n - yearLength year)
  let (month, day) ← monthAndDay (monthLengths year) 1 n
  Date.of? year month day

/-- The number of a day, counted from the first day of year 1, which is 1. -/
def Date.ordinal (d : Date) : Nat :=
  daysBefore d.year + ((monthLengths d.year).take (d.month - 1)).foldl (· + ·) 0 + d.day

def Moment.micros (m : Moment) : Int :=
  ((m.date.ordinal * 24 + m.hour.val) * 60 + m.minute.val : Nat) * 60000000 +
    m.second.val * 1000000 + m.micro.val

/-- Moments with offsets are the same when they are at one time; others when they show it. -/
def Moment.same (a b : Moment) : Bool :=
  match a.offset, b.offset with
  | some o, some p => a.micros - o.micros == b.micros - p.micros
  | none, none => a == b
  | _, _ => false

def Date.isoChars (d : Date) : List Char :=
  padded 4 d.year ++ '-' :: padded 2 d.month ++ '-' :: padded 2 d.day

def Date.iso (d : Date) : String :=
  String.ofList d.isoChars

/-- Fractions of a second are written in six digits, or not at all. -/
def microChars (n : Nat) : List Char :=
  if n = 0 then [] else '.' :: padded 6 n

/-- Hours and minutes after a sign; seconds only where there are some. -/
def Offset.chars (o : Offset) : List Char :=
  let seconds := o.micros.natAbs / 1000000
  let micro := microChars (o.micros.natAbs % 1000000)
  (if o.micros < 0 then '-' else '+') :: padded 2 (seconds / 3600) ++
    ':' :: padded 2 (seconds / 60 % 60) ++
    (if seconds % 60 = 0 ∧ micro.isEmpty then [] else ':' :: padded 2 (seconds % 60) ++ micro)

def Moment.clock (m : Moment) : List Char :=
  padded 2 m.hour.val ++ ':' :: padded 2 m.minute.val ++ ':' :: padded 2 m.second.val ++
    microChars m.micro.val ++ (m.offset.map Offset.chars).getD []

def Moment.iso (m : Moment) : String :=
  String.ofList (m.date.isoChars ++ 'T' :: m.clock)

def Moment.text (m : Moment) : String :=
  String.ofList (m.date.isoChars ++ ' ' :: m.clock)

theorem Date.of?_self (d : Date) : Date.of? d.year d.month d.day = some d := by
  simp [Date.of?, d.isDate]

theorem IsDate.month_bounds {y m d : Nat} (h : IsDate y m d) : 1 ≤ m ∧ m ≤ 12 := by
  obtain ⟨_, _, hd, hm⟩ := h
  unfold monthLength at hm
  split at hm
  · omega
  · refine ⟨by omega, ?_⟩
    by_cases h12 : m ≤ 12
    · exact h12
    · have hlen : (monthLengths y).length ≤ m - 1 := by
        show 12 ≤ m - 1
        omega
      rw [List.getD_eq_getElem?_getD, List.getElem?_eq_none hlen] at hm
      simp at hm
      omega

end QueryFilter.Calendar
