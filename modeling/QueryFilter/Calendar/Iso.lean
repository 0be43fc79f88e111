import QueryFilter.Calendar.Date

/-! Days and moments read from their ISO forms: a day of a month or of a week, with marks between
all parts or none, a time of day down to fractions of a second, and an offset. The form is judged
before the ranges of its numbers, and of those the offset first. -/

namespace QueryFilter.Calendar

open Text

inductive IsoRefusal where
  | malformed
  | offsetRange (micros : Int)
  | yearRange (year : Nat)
  | monthRange
  | dayRange
  | hourRange
  | minuteRange
  | secondRange
  deriving DecidableEq

abbrev IsoReading := Except IsoRefusal

def wellFormed {α : Type} (a : Option α) : IsoReading α :=
  match a with
  | some a => .ok a
  | none => .error .malformed

def takeNumber (digits : Nat) (cs : List Char) : Option (Nat × List Char) :=
  let ds := cs.take digits
  if ds.length = digits ∧ ds.all isPlainDigit then
    some (digitsValue (ds.filterMap digitValue?), cs.drop digits)
  else none

/-- Passes over a mark where there has to be one. -/
def takeMark (mark : Char) (marked : Bool) : List Char → Option (List Char)
  | c :: cs => if !marked then some (c :: cs) else if c = mark then some cs else none
  | [] => if marked then none else some []

/-- Week 53 is there when the year begins on a Thursday, or on a Wednesday and is a leap year. -/
def hasIsoWeek (year week : Nat) : Bool :=
  let first := firstWeekday year
  1 ≤ week && (week ≤ 52 || week == 53 && (first == 3 || first == 2 && isLeap year))

inductive IsoDay where
  | ofMonth (year month day : Nat)
  | ofWeek (year week weekday : Nat)

def IsoDay.ofWeek? (year week weekday : Nat) : Option IsoDay :=
  if hasIsoWeek year week ∧ 1 ≤ weekday ∧ weekday ≤ 7 then some (.ofWeek year week weekday)
  else none

def IsoDay.ofChars? (cs : List Char) : Option IsoDay := do
  let (year, cs) ← takeNumber 4 cs
  let marked := cs.head? == some '-'
  let cs := if marked then cs.tail else cs
  match cs with
  | 'W' :: cs =>
    let (week, cs) ← takeNumber 2 cs
    if cs.isEmpty then IsoDay.ofWeek? year week 1
    else
      let (weekday, cs) ← (takeMark '-' marked cs).bind (takeNumber 1)
      if cs.isEmpty then IsoDay.ofWeek? year week weekday else none
  | cs =>
    let (month, cs) ← takeNumber 2 cs
    let (day, cs) ← (takeMark '-' marked cs).bind (takeNumber 2)
    if cs.isEmpty then some (.ofMonth year month day) else none

/-- A week of the year 0 has no month to be in. -/
def IsoDay.date : IsoDay → IsoReading Date
  | .ofMonth year month day =>
    match Date.of? year month day with
    | some d => .ok d
    | none =>
      .error (if year = 0 then .yearRange 0 else if month = 0 ∨ 12 < month then .monthRange
        else .dayRange)
  | .ofWeek year week weekday =>
    if year = 0 then .error .monthRange
    else
      match (carryBack year (isoWeekDay year week (weekday - 1))).bind fun (y, n) =>
          Date.ofYearDay? y n with
      | some d => .ok d
      | none => .error (.yearRange (year + 1))

/-- Of ten bytes without marks only the first eight count. -/
def dayChars (s : String) : List Char :=
  let cs := s.toList
  if s.utf8ByteSize = 10 ∧ cs[4]? ≠ some '-' then cs.take 8 else cs

def Date.ofIso (s : String) : IsoReading Date := do
  (← wellFormed (IsoDay.ofChars? (dayChars s))).date

/-- How many characters of a moment are its day. Behind a week without a weekday, a mark and a
digit belong to the time. -/
def dayLength (cs : List Char) : Nat :=
  if cs[4]? = some '-' then
    if cs[5]? = some 'W' then
      if cs[8]? = some '-' ∧ ¬ (cs[10]?.map isPlainDigit).getD false then 10 else 8
    else 10
  else if cs[4]? = some 'W' then
    let n := 7 + ((cs.drop 7).takeWhile isPlainDigit).length
    if n < 9 then n else if n % 2 = 0 then 7 else 8
  else 8

/-- Hours, minutes and seconds as far as they are given, the fraction, and what is left behind
them. -/
structure Clock where
  parts : List Nat := []
  micro : Nat := 0
  rest : List Char := []

/-- A fraction of up to six digits; further digits do not count. -/
def readFraction (cs : List Char) : Option Clock :=
  let six := cs.take 6
  if six.all isPlainDigit then
    let ds := six ++ List.replicate (6 - six.length) '0'
    some { micro := digitsValue (ds.filterMap digitValue?)
           rest := (cs.drop 6).dropWhile isPlainDigit }
  else none

/-- Parts of two digits, with colons between them if one follows the first. A point or comma ends
them early, and a last plain character is left alone. -/
def readClock : (left : Nat) → (marked : Option Bool) → List Char → Option Clock
  | 0, _, cs => readFraction cs
  | left + 1, marked, cs => do
    let (n, cs) ← takeNumber 2 cs
    let behind ← match cs with
      | [] => some {}
      | c :: ds =>
        let marked := marked.getD (c == ':')
        if ds.isEmpty ∧ c.toNat < 128 then some { rest := cs }
        else if c = '.' ∨ c = ',' then readFraction ds
        else if !marked then readClock left (some false) cs
        else if c = ':' then readClock left (some true) ds
        else none
    pure { behind with parts := n :: behind.parts }

namespace Clock

def hour (c : Clock) : Nat := c.parts.getD 0 0

def minute (c : Clock) : Nat := c.parts.getD 1 0

def second (c : Clock) : Nat := c.parts.getD 2 0

def seconds (c : Clock) : Nat :=
  (c.hour * 60 + c.minute) * 60 + c.second

end Clock

def beginsOffset (c : Char) : Bool :=
  c == '+' || c == '-' || c == 'Z'

/-- The microseconds of an offset; a fraction alone does not count. -/
def readOffset (cs : List Char) : Option Int :=
  match cs with
  | ['Z'] => some 0
  | [] | 'Z' :: _ => none
  | c :: cs => do
    let clock ← readClock 3 none cs
    if !clock.rest.isEmpty then none
    else
      let n : Int := if clock.seconds = 0 then 0 else clock.seconds * 1000000 + clock.micro
      some (if c = '-' then -n else n)

/-- A time of day and the microseconds of its offset. What is left behind a time does not matter
in front of an offset. -/
def readTime (cs : List Char) : Option (Clock × Option Int) := do
  let clock ← readClock 3 none (cs.takeWhile (!beginsOffset ·))
  match cs.dropWhile (!beginsOffset ·) with
  | [] => if clock.rest.isEmpty then some (clock, none) else none
  | cs => (readOffset cs).map fun n => (clock, some n)

def Offset.checked (n : Int) : IsoReading Offset :=
  if h : n.natAbs < dayMicros then .ok ⟨n, h⟩ else .error (.offsetRange n)

def Moment.checked (date : Date) (clock : Clock) (offset : Option Offset) : IsoReading Moment :=
  if hh : clock.hour < 24 then
    if hm : clock.minute < 60 then
      if hs : clock.second < 60 then
        if hf : clock.micro < 1000000 then
          .ok ⟨date, ⟨clock.hour, hh⟩, ⟨clock.minute, hm⟩, ⟨clock.second, hs⟩, ⟨clock.micro, hf⟩,
            offset⟩
        else .error .malformed
      else .error .secondRange
    else .error .minuteRange
  else .error .hourRange

/-- A day alone means its beginning. -/
def Moment.ofIso (s : String) : IsoReading Moment := do
  let cs := s.toList
  let n := dayLength cs
  let day ← wellFormed (IsoDay.ofChars? (cs.take n))
  let (clock, offset) ←
    if cs.length ≤ n then pure ({}, none) else wellFormed (readTime (cs.drop (n + 1)))
  let offset ← match offset with
    | none => pure none
    | some n => (Offset.checked n).map some
  Moment.checked (← day.date) clock offset

end QueryFilter.Calendar
