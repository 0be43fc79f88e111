import QueryFilter.Application
import QueryFilter.Proofs.Outcome

/-! A call taken apart: what it does once its filters are known, or cannot be. -/

namespace QueryFilter

/-- The specifications of a mapping stand under its keys, each made of what stands there. -/
theorem FilterSpec.ofEntries_eq_ok {es : List (String × Value)} {specs : Keyed FilterSpec} :
    ofEntries es = .ok specs ↔
      List.Forall₂ (fun e s => s.1 = e.1 ∧ ofValue e.1 e.2 = .ok s.2) es specs := by
  unfold ofEntries
  rw [Outcome.mapM_eq_ok]
  constructor
  · intro h
    refine h.imp fun e s hs => ?_
    obtain ⟨spec, hspec, rfl⟩ := Outcome.map_eq_ok.mp hs
    exact ⟨rfl, hspec⟩
  · rintro h
    refine h.imp fun e s hs => ?_
    obtain ⟨hkey, hspec⟩ := hs
    exact Outcome.map_eq_ok.mpr ⟨s.2, hspec, by rw [← hkey]⟩

namespace Scope

open Building Traced

variable {Q : Type} [Backend Q] {x : Scope} {filters options source : Value}

/-- What is left of a call once its filters are known. -/
def applySpecs (x : Scope) (options : Value) (specs : Keyed FilterSpec) (q : Q) : Building Q Unit :=
  (aside q (x.limited specs)).andThen fun cut q =>
    (aside q (x.resolveConfig options)).andThen fun config q =>
      (x.applyFilters config (cut.map Prod.snd) q).andThen fun n q =>
        aside q (x.appliedNote n (cut.map Prod.snd).length config)

theorem apply_of_disabled (h : x.settings.enabled = false) (q : Q) :
    x.apply filters options source q = done () q := by
  have hprepare : x.prepare filters options source = pure none := by
    rw [prepare, h]
    rfl
  rw [apply, hprepare]
  rfl

theorem prepare_of_enabled (h : x.settings.enabled = true) :
    x.prepare filters options source =
      ofExcept (x.resolveFilters filters source) >>= fun specs =>
        if specs.isEmpty then pure none
        else x.limited specs >>= fun cut => x.resolveConfig options >>= fun config =>
          pure (some (cut.map Prod.snd, config)) := by
  rw [prepare, h]
  rfl

theorem apply_of_unresolved {e : Fault} (h : x.settings.enabled = true)
    (hf : x.resolveFilters filters source = .error e) (q : Q) :
    x.apply filters options source q = ⟨[], q, .error e⟩ := by
  rw [apply, prepare_of_enabled h, hf]
  rfl

theorem apply_of_resolved {specs : Keyed FilterSpec} (h : x.settings.enabled = true)
    (hf : x.resolveFilters filters source = .ok specs) (q : Q) :
    x.apply filters options source q =
      if specs.isEmpty then done () q else x.applySpecs options specs q := by
  rw [apply, prepare_of_enabled h, hf, show ofExcept (.ok specs) = pure specs from rfl, pure_bind]
  by_cases hempty : specs.isEmpty = true
  · simp only [hempty, if_true]
    rfl
  · simp only [hempty]
    rw [if_neg Bool.false_ne_true, if_neg Bool.false_ne_true, aside_bind, andThen_assoc]
    unfold applySpecs
    congr 1
    funext cut q
    rw [aside_bind, andThen_assoc]
    rfl

theorem applyPredicate_of_test {config : FilterConfig} {spec : FilterSpec} {v raw : Value}
    {o : Operator} {test : Test}
    (hv : coerce spec.typeTag spec.operatorTag (.text x.settings.arrayDelimiter) spec.value = .ok v)
    (ho : spec.operatorTag = some o)
    (ht : o.test? x.weekRule (.text x.dateFormat) config.caseSensitive v = .ok (some (test, raw)))
    (column : String) (q : Q) : x.applyPredicate config spec column q =
      (adding q ⟨.text column, test, raw⟩).andThen fun applied q =>
        aside q (x.announce spec column v applied) := by
  have ho : Operator.ofValue? (.text spec.operator) = some o := ho
  rw [applyPredicate, hv, aside_ok_andThen, dispatch_of_test ho ht]

theorem applyFilters_singleton (x : Scope) (config : FilterConfig) (spec : FilterSpec) (q : Q) :
    x.applyFilters config [spec] q =
      (x.applySingle config spec q).andThen fun applied q => done applied.toNat q := by
  simp only [applyFilters, done_andThen, Nat.add_zero]

theorem query_apply_of_prepared {specs : List FilterSpec} {config : FilterConfig}
    (h : (x.prepare filters options source).result = .ok (some (specs, config))) (q : Q) :
    (x.apply filters options source q).query = (x.applyFilters config specs q).query := by
  rw [apply, andThen_of_ok _ h]
  dsimp only [aside_query]
  cases hrun : (x.applyFilters config specs q).result with
  | error e => rw [andThen_of_error _ hrun]
  | ok n => rw [andThen_of_ok _ hrun, aside_query]

/-- A call leaves a query alone, or does to it what its prepared filters do. -/
theorem query_apply (x : Scope) (filters options source : Value) (q : Q) :
    (x.apply filters options source q).query = q ∨
    ∃ specs config, (x.prepare filters options source).result = .ok (some (specs, config)) ∧
      (x.apply filters options source q).query = (x.applyFilters config specs q).query := by
  cases h : (x.prepare filters options source).result with
  | error e =>
    rw [apply, andThen_of_error _ h]
    exact Or.inl rfl
  | ok prepared =>
    cases prepared with
    | none =>
      rw [apply, andThen_of_ok _ h]
      exact Or.inl rfl
    | some prepared => exact Or.inr ⟨prepared.1, prepared.2, rfl, query_apply_of_prepared h q⟩

end Scope

end QueryFilter
