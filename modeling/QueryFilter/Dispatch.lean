import QueryFilter.Backend
import QueryFilter.Config
import QueryFilter.Value.Dates

/-! From an operator and a value to the one predicate that they mean. A value that an operator
cannot use means none. -/

namespace QueryFilter

open Building Calendar

/-- Patterns are matched with or without regard to letter case. -/
def patternTest (caseSensitive negated : Bool) : Test :=
  match caseSensitive, negated with
  | true, false => .compare .like
  | true, true => .compare .notLike
  | false, false => .compare .ilike
  | false, true => .compare .notIlike

/-- Exactly two bounds. -/
def bounds? (v : Value) : Option Value :=
  match v.asList with
  | [a, b] => some (.list [a, b])
  | _ => none

def partOf (v : Value) : Except Fault (Option Value) :=
  v.datePart?.map (·.map .int)

def Operator.test? (o : Operator) (rule : WeekRule) (format : Value) (caseSensitive : Bool)
    (v : Value) : Except Fault (Option (Test × Value)) :=
  match o with
  | .eq => .ok (some (.compare .eq, v))
  | .ne => .ok (some (.compare .ne, v))
  | .gt => .ok (some (.compare .gt, v))
  | .gte => .ok (some (.compare .gte, v))
  | .lt => .ok (some (.compare .lt, v))
  | .lte => .ok (some (.compare .lte, v))
  | .like => .ok (some (patternTest caseSensitive false, v))
  | .notLike => .ok (some (patternTest caseSensitive true, v))
  | .within => .ok (some (.within false, .list v.asList))
  | .notWithin => .ok (some (.within true, .list v.asList))
  | .between => .ok ((bounds? v).map (.between false, ·))
  | .notBetween => .ok ((bounds? v).map (.between true, ·))
  | .null => .ok (some (.null false, .null))
  | .notNull => .ok (some (.null true, .null))
  | .date => (v.isoDay? rule format).map (·.map fun s => (.date, .text s))
  | .month => (partOf v).map (·.map (.part .month, ·))
  | .year => (partOf v).map (·.map (.part .year, ·))
  | .day => (partOf v).map (·.map (.part .day, ·))

/-- Adds the predicate of an operator to a query and tells whether there was one. An unknown
operator is refused in strict mode and skipped otherwise. -/
def dispatch {Q : Type} [Backend Q] (rule : WeekRule) (format : Value) (config : FilterConfig)
    (operator column v : Value) (q : Q) : Building Q Bool :=
  match Operator.ofValue? operator with
  | none =>
    if config.strict then aside q (Traced.fail (.refused (.forOperator operator column)))
    else aside q (do
      Traced.log .debug "smartfilter.operators"
        ("Skipping unknown operator " ++ operator.literal ++ " on " ++ column.display)
      pure false)
  | some o =>
    (aside q (Traced.ofExcept (o.test? rule format config.caseSensitive v))).andThen fun asked q =>
      match asked with
      | none => done false q
      | some (test, operand) => adding q ⟨column, test, operand⟩

theorem bounds?_eq_some {v w : Value} (h : bounds? v = some w) :
    ∃ a b, w = .list [a, b] := by
  unfold bounds? at h
  split at h
  · exact ⟨_, _, (Option.some.inj h).symm⟩
  · simp at h

variable {Q : Type} [Backend Q] {q : Q} {config : FilterConfig} {format operator column v : Value}
  {o : Operator} {rule : WeekRule}

theorem dispatch_of_unknown (ho : Operator.ofValue? operator = none) :
    (dispatch rule format config operator column v q).query = q ∧
      (dispatch rule format config operator column v q).result =
        if config.strict then .error (.refused (.forOperator operator column)) else .ok false := by
  simp only [dispatch, ho]
  cases config.strict with
  | true => exact ⟨rfl, rfl⟩
  | false => exact ⟨rfl, rfl⟩

theorem dispatch_of_fault (ho : Operator.ofValue? operator = some o) {e : Fault}
    (ht : o.test? rule format config.caseSensitive v = .error e) :
    dispatch rule format config operator column v q = ⟨[], q, .error e⟩ := by
  simp only [dispatch, ho, ht]
  rfl

theorem dispatch_of_unused (ho : Operator.ofValue? operator = some o)
    (ht : o.test? rule format config.caseSensitive v = .ok none) :
    dispatch rule format config operator column v q = done false q := by
  simp only [dispatch, ho, ht, aside_ok_andThen]

theorem dispatch_of_test (ho : Operator.ofValue? operator = some o) {test : Test} {raw : Value}
    (ht : o.test? rule format config.caseSensitive v = .ok (some (test, raw))) :
    dispatch rule format config operator column v q = adding q ⟨column, test, raw⟩ := by
  simp only [dispatch, ho, ht, aside_ok_andThen]

end QueryFilter
