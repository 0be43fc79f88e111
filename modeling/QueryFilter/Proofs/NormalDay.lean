import Mathlib.Tactic.IntervalCases
import QueryFilter.Proofs.Day
import QueryFilter.Proofs.LeadingInteger
import QueryFilter.Proofs.Outcome
import QueryFilter.Settings
import QueryFilter.Value.Dates

/-! The normal text of a day. Whatever value and format it is taken from, it writes a day of the
calendar; and a text writes a day just when the standard format leaves it as it is. -/

namespace QueryFilter

namespace Text

theorem trim_eq_self {p : Char → Bool} {cs : List Char} (h : ∀ c ∈ cs, p c = false) :
    trim p cs = cs := by
  have hback : cs.reverse.dropWhile p = cs.reverse :=
    dropWhile_eq_self fun c hc => h c (List.mem_reverse.mp hc)
  rw [trim, dropWhile_eq_self h, hback, List.reverse_reverse]

end Text

namespace Calendar

open Text Numeral

variable {ds cs rest : List Char} {d : Directive} {ps : List Piece}

def standardPattern : Pattern :=
  [.field .year, .letter '-', .field .month, .letter '-', .field .day]

theorem parse_standardDateFormat : Pattern.parse standardDateFormat = .ok standardPattern := rfl

theorem takeSlots_digits (h : ∀ c ∈ ds, c.isDigit = true) (rest : List Char) :
    takeSlots (List.replicate ds.length .digit) (ds ++ rest) =
      some (ds.filterMap digitValue?, rest) := by
  induction ds with
  | nil => rfl
  | cons c ds ih =>
    have hc := digitValue?_plain (h c List.mem_cons_self)
    have haccepts : Slot.digit.accepts c = true := isDigit_of_plain (h c List.mem_cons_self)
    rw [List.length_cons, List.replicate_succ, List.cons_append, takeSlots, if_pos haccepts,
      ih fun x hx => h x (List.mem_cons_of_mem _ hx)]
    simp [hc]

theorem ways_year (h : ∀ c ∈ ds, c.isDigit = true) (hlen : ds.length = 4) (rest : List Char) :
    Directive.year.ways (ds ++ rest) = [(some (Nat.ofDigitChars 10 ds 0), rest)] := by
  have hh := takeSlots_digits h rest
  rw [hlen] at hh
  have hslots : Directive.year.slots = [List.replicate 4 .digit] := rfl
  have hnames : Directive.year.names = [] := rfl
  rw [Directive.ways, if_neg (by decide), hslots, hnames, List.filterMap_nil, List.append_nil,
    List.filterMap_cons, hh, List.filterMap_nil, Option.map_some, digitsValue_plain h]

/-- A month in two figures is read as a whole before it is read in part. -/
theorem ways_month {n : Nat} (hfirst : 1 ≤ n) (hlast : n ≤ 12) (rest : List Char) :
    ∃ others, Directive.month.ways (padded 2 n ++ rest) = (some n, rest) :: others := by
  interval_cases n <;> exact ⟨_, rfl⟩

theorem ways_day {n : Nat} (hfirst : 1 ≤ n) (hlast : n ≤ 31) (rest : List Char) :
    ∃ others, Directive.day.ways (padded 2 n ++ rest) = (some n, rest) :: others := by
  interval_cases n <;> exact ⟨_, rfl⟩

theorem matchPieces_field {r : Reading} {others : List (Reading × List Char)}
    {m : List (Directive × Reading) × List Char} (hd : d.ways cs = (r, rest) :: others)
    (hm : matchPieces ps rest = some m) :
    matchPieces (.field d :: ps) cs = some ((d, r) :: m.1, m.2) := by
  rw [matchPieces, hd, List.findSome?_cons, hm]
  rfl

theorem matchPieces_hyphen (ps : List Piece) (cs : List Char) :
    matchPieces (.letter '-' :: ps) ('-' :: cs) = matchPieces ps cs := rfl

theorem readings?_iso (date : Date) : standardPattern.readings? date.iso =
    some [(.year, date.year), (.month, date.month), (.day, date.day)] := by
  obtain ⟨hyear, hfirst, hmonth, hstart, hday⟩ := date.bounds
  have hfigures : ∀ c ∈ padded 4 date.year, c.isDigit = true := fun _ hc => isDigit_of_mem_padded hc
  have hy := ways_year hfigures (length_padded (by omega) hyear)
    ('-' :: (padded 2 date.month ++ '-' :: padded 2 date.day))
  obtain ⟨_, hm⟩ := ways_month hfirst hmonth ('-' :: padded 2 date.day)
  obtain ⟨_, hd⟩ := ways_day hstart hday []
  rw [ofDigitChars_padded] at hy
  rw [List.append_nil] at hd
  have hend : matchPieces [] [] = some ([], []) := rfl
  have hbehind := (matchPieces_hyphen _ _).trans (matchPieces_field hd hend)
  have hmatch : matchPieces standardPattern date.isoChars =
      some ([(.year, some date.year), (.month, some date.month), (.day, some date.day)], []) := by
    rw [Date.isoChars, List.append_assoc, List.cons_append]
    exact matchPieces_field hy ((matchPieces_hyphen _ _).trans (matchPieces_field hm hbehind))
  rw [Pattern.readings?, Date.iso, String.toList_ofList, hmatch]
  rfl

theorem date?_iso (rule : WeekRule) (date : Date) :
    standardPattern.date? rule date.iso = some date := by
  rw [Pattern.date?, readings?_iso]
  cases rule <;> simp [Fields.ofReadings, Fields.put, Fields.date?, Fields.consistent,
    Fields.yearAndDay, date.of?_self]

theorem strip_iso (date : Date) : strip date.iso = date.iso := by
  have hplain : ∀ c ∈ date.isoChars, isBlank c = false := by
    have hfigure : ∀ {width n : Nat} {c : Char}, c ∈ padded width n → isBlank c = false :=
      fun hc => not_isBlank_of_isDigit (isDigit_of_plain (isDigit_of_mem_padded hc))
    intro c hc
    rw [Date.isoChars, List.append_assoc, List.cons_append] at hc
    rcases List.mem_append.mp hc with hc | hc
    · exact hfigure hc
    rcases List.mem_cons.mp hc with rfl | hc
    · decide
    rcases List.mem_append.mp hc with hc | hc
    · exact hfigure hc
    rcases List.mem_cons.mp hc with rfl | hc
    · decide
    · exact hfigure hc
  rw [strip, Date.iso, String.toList_ofList, trim_eq_self hplain]

end Calendar

namespace Value

open Text Calendar

variable {v format : Value} {s : String} {rule : WeekRule}

theorem isoDay?_eq_some : v.isoDay? rule format = .ok (some s) ↔
    ∃ date, v.day? rule format = .ok (some date) ∧ s = date.iso := by
  unfold isoDay?
  constructor
  · intro h
    obtain ⟨found, hday, hs⟩ := Outcome.map_eq_ok.mp h
    obtain ⟨date, rfl, rfl⟩ := Option.map_eq_some_iff.mp hs
    exact ⟨date, hday, rfl⟩
  · rintro ⟨date, hday, rfl⟩
    rw [hday]
    rfl

theorem day?_iso (rule : WeekRule) (date : Date) :
    (Value.text date.iso).day? rule (.text standardDateFormat) = .ok (some date) := by
  show dayOfText rule (.text standardDateFormat) date.iso = _
  rw [dayOfText, asText?, Option.map_some, parse_standardDateFormat, strip_iso]
  exact congrArg Except.ok (date?_iso rule date)

/-- The normal text of a day. It writes a day of the calendar, whatever value and format it comes
from, and the standard format takes it to itself; other texts than those that write a day are not
taken to themselves. That holds under either rule on weeks. A day, and a moment by its day, has its
own text under every format. -/
theorem isoDay?_settles (v : Value) (rule : WeekRule) (format : Value) :
    (∀ s, v.isoDay? rule format = .ok (some s) → WritesDay s ∧
      (Value.text s).isoDay? rule (.text standardDateFormat) = .ok (some s)) ∧
    (∀ s, (Value.text s).isoDay? rule (.text standardDateFormat) = .ok (some s) ↔ WritesDay s) ∧
    (∀ d, ∃ s, (Value.date d).isoDay? rule format = .ok (some s) ∧ WritesDate s d) ∧
    ∀ m, ∃ s, (Value.moment m).isoDay? rule format = .ok (some s) ∧ WritesDate s m.date := by
  have hfixed : ∀ date : Date, (Value.text date.iso).isoDay? rule (.text standardDateFormat) =
      .ok (some date.iso) := fun date => isoDay?_eq_some.mpr ⟨date, day?_iso rule date, rfl⟩
  refine ⟨fun s h => ?_, fun s => ⟨fun h => ?_, fun h => ?_⟩, fun d => ?_, fun m => ?_⟩
  · obtain ⟨date, _, rfl⟩ := isoDay?_eq_some.mp h
    exact ⟨date.writesDay_iso, hfixed date⟩
  · obtain ⟨date, _, rfl⟩ := isoDay?_eq_some.mp h
    exact date.writesDay_iso
  · obtain ⟨date, hs⟩ := writesDay_iff.mp h
    rw [writesDate_iff.mp hs]
    exact hfixed date
  · exact ⟨d.iso, rfl, d.writesDate_iso⟩
  · exact ⟨m.date.iso, rfl, m.date.writesDate_iso⟩

/-- A day of the year that is past its end, counted on into the next. -/
theorem isoDay?_pastYear :
    (Value.text " 2023 366").isoDay? .strict (.text "%Y %j") = .ok (some "2024-01-01") ∧
      WritesDay "2024-01-01" ∧
      (Value.text "2024-01-01").isoDay? .strict (.text standardDateFormat) =
        .ok (some "2024-01-01") := by
  have hread : (Value.text " 2023 366").isoDay? .strict (.text "%Y %j") =
      .ok (some "2024-01-01") := rfl
  exact ⟨hread, (isoDay?_settles _ _ _).1 _ hread⟩

/-- An ISO year beside a year, on which the rules differ. -/
example : (Value.text "2024 2023").isoDay? .strict (.text "%Y %G") = .ok none ∧
    (Value.text "2024 2023").isoDay? .loose (.text "%Y %G") = .ok (some "2024-01-01") :=
  ⟨rfl, rfl⟩

end Value

end QueryFilter
