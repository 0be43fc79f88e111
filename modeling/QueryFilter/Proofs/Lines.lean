import QueryFilter.Condition
import QueryFilter.Proofs.Call
import QueryFilter.Proofs.Outcome
import QueryFilter.Statement

/-! The lines that a call leaves. Where the settings ask for it each predicate that was added has a
line of its own, and the last line of a call tells how many there were. -/

namespace QueryFilter

open Building Traced

variable {α β Q : Type}

namespace LogLine

/-- A line of the compiler's that begins with a word. -/
def begins (word : String) (l : LogLine) : Bool :=
  l.logger == Scope.logger && word.toList.isPrefixOf l.message.toList

def isTrace (l : LogLine) : Bool :=
  l.begins "Filter "

def isClosing (l : LogLine) : Bool :=
  l.begins "Applied "

/-- A line that tells of no predicate and of no number of them. -/
structure Idle (l : LogLine) : Prop where
  untraced : l.isTrace = false
  unclosed : l.isClosing = false

theorem idle_of_logger {l : LogLine} (h : l.logger ≠ Scope.logger) : l.Idle := by
  constructor <;> simp [isTrace, isClosing, begins, h]

/-- The first letter of a message is enough to tell that it is neither kind of line. -/
theorem idle_of_head {l : LogLine} {c : Char} (h : l.message.toList.head? = some c)
    (hf : c ≠ 'F') (ha : c ≠ 'A') : l.Idle := by
  obtain ⟨cs, hcs⟩ := List.head?_eq_some_iff.mp h
  constructor
  · simp [isTrace, begins, hcs, List.isPrefixOf, Ne.symm hf]
  · simp [isClosing, begins, hcs, List.isPrefixOf, Ne.symm ha]

end LogLine

open LogLine

namespace Traced

theorem mem_lines_bind {x : Traced α} {f : α → Traced β} {l : LogLine}
    (h : l ∈ (x >>= f).lines) : l ∈ x.lines ∨ ∃ a, x.result = .ok a ∧ l ∈ (f a).lines := by
  cases hx : x.result with
  | error e =>
    rw [bind_error f hx] at h
    exact Or.inl h
  | ok a =>
    rw [bind_ok f hx] at h
    exact (List.mem_append.mp h).imp_right fun h => ⟨a, rfl, h⟩

/-- A computation whose lines all have another author. -/
def Foreign (x : Traced α) : Prop :=
  ∀ l ∈ x.lines, l.logger ≠ Scope.logger

namespace Foreign

theorem pure (a : α) : Foreign (Pure.pure a : Traced α) := by
  intro l hl
  cases hl

theorem ofExcept (r : Except Fault α) : Foreign (Traced.ofExcept r) := by
  intro l hl
  cases hl

theorem log {level : Level} {logger message : String} (h : logger ≠ Scope.logger) :
    Foreign (Traced.log level logger message) := by
  intro l hl
  rw [List.mem_singleton.mp hl]
  exact h

theorem bind {x : Traced α} {f : α → Traced β} (hx : Foreign x) (hf : ∀ a, Foreign (f a)) :
    Foreign (x >>= f) := by
  intro l hl
  rcases mem_lines_bind hl with h | ⟨a, _, h⟩
  · exact hx l h
  · exact hf a l h

theorem foldlM {f : β → α → Traced β} (hf : ∀ b a, Foreign (f b a)) (as : List α) (b : β) :
    Foreign (as.foldlM f b) := by
  induction as generalizing b with
  | nil => exact pure b
  | cons a as ih => exact bind (hf b a) ih

end Foreign

end Traced

theorem foreign_mergeEntry (checks : Checks) (layer : Value) (merged : Keyed Value)
    (key : ConfigKey) : Foreign (mergeEntry checks layer merged key) := by
  refine .bind (.ofExcept _) fun entry => ?_
  cases entry with
  | none => exact .pure merged
  | some v =>
    dsimp only
    split
    · exact .pure _
    · exact .bind (.log (by decide)) fun _ => .pure merged

theorem foreign_resolveConfig (checks : Checks) (s : Settings) (entityOptions options : Value) :
    Foreign (resolveConfig checks s entityOptions options) := by
  have hlayer : ∀ merged layer, Foreign (mergeLayer checks merged layer) := fun merged layer =>
    .foldlM (foreign_mergeEntry checks layer) _ merged
  exact .bind (hlayer _ _) fun _ => .bind (hlayer _ _) fun _ => .bind (hlayer _ _) fun _ =>
    .bind (.ofExcept _) fun _ => .pure _

/-- A query that writes its lines under a name of its own. -/
class SeparateLog (Q : Type) [Backend Q] : Prop where
  add : ∀ (q : Q) (p : Predicate), Foreign (Backend.add q p)
  scope : ∀ (q : Q) (relation : String), Foreign (Backend.scope q relation)

instance : SeparateLog ConditionQuery where
  add _ _ := .ofExcept _
  scope _ _ := .ofExcept _

theorem SelectQuery.foreign_column? (q : SelectQuery) (v : Value) : Foreign (q.column? v) := by
  refine .bind (.ofExcept _) fun s => ?_
  dsimp only
  split
  · exact .bind (.log (by decide)) fun _ => .pure _
  · split
    · exact .pure _
    · exact .bind (.log (by decide)) fun _ => .pure _

instance : SeparateLog SelectQuery where
  add q p := by
    refine .bind (.ofExcept _) fun _ => .bind (q.foreign_column? _) fun found => ?_
    cases found with
    | none => exact .pure q
    | some name => exact .bind (.ofExcept _) fun operands => .pure _
  scope q relation := by
    show Foreign (q.scope relation)
    unfold SelectQuery.scope
    cases (q.link? relation).bind fun l => q.catalog.entity? l.target with
    | some e => exact .pure _
    | none => exact .bind (.log (by decide)) fun _ => .pure _

namespace Scope

variable {x : Scope} {config : FilterConfig} {spec : FilterSpec} {q : Q}

theorem idle_nil : ∀ l ∈ ([] : List LogLine), l.Idle := by
  intro l hl
  cases hl

theorem countP_idle {ls : List LogLine} (h : ∀ l ∈ ls, l.Idle) : ls.countP isTrace = 0 :=
  List.countP_eq_zero.mpr fun l hl => by simp [(h l hl).untraced]

theorem idle_of_foreign {t : Traced α} (h : Foreign t) : ∀ l ∈ t.lines, l.Idle :=
  fun l hl => idle_of_logger (h l hl)

theorem lines_announce (x : Scope) (spec : FilterSpec) (column : String) (v : Value)
    (applied : Bool) :
    (x.announce spec column v applied).lines = if applied && x.settings.debug then
      [⟨Level.ofText x.settings.logLevel, logger,
        "Filter " ++ column ++ " " ++ spec.operator ++ " " ++ v.literal⟩] else [] := by
  unfold announce
  split <;> rfl

theorem idle_limited (specs : Keyed FilterSpec) : ∀ l ∈ (x.limited specs).lines, l.Idle := by
  unfold limited
  dsimp only
  split
  · exact idle_nil
  · intro l hl
    rcases mem_lines_bind hl with hl | ⟨_, _, hl⟩
    · rw [List.mem_singleton.mp hl]
      exact idle_of_head (c := 'R') (by simp) (by decide) (by decide)
    · cases hl

theorem idle_resolveConfig (options : Value) : ∀ l ∈ (x.resolveConfig options).lines, l.Idle :=
  idle_of_foreign (.bind (.ofExcept _) fun _ => .bind (.ofExcept _) fun _ =>
    foreign_resolveConfig _ _ _ _)

theorem idle_prepare (filters options source : Value) :
    ∀ l ∈ (x.prepare filters options source).lines, l.Idle := by
  by_cases hs : x.settings.enabled = true
  · rw [prepare_of_enabled hs]
    intro l hl
    rcases mem_lines_bind hl with hl | ⟨specs, _, hl⟩
    · cases hl
    · split at hl
      · cases hl
      · rcases mem_lines_bind hl with hl | ⟨cut, _, hl⟩
        · exact idle_limited specs l hl
        · rcases mem_lines_bind hl with hl | ⟨config, _, hl⟩
          · exact idle_resolveConfig options l hl
          · cases hl
  · have hprepare : x.prepare filters options source = pure none := by
      rw [prepare, Bool.eq_false_iff.mpr hs]
      rfl
    rw [hprepare]
    exact idle_nil

/-- The line with which a call ends. -/
def closing (applied total : Nat) (entity : String) (config : FilterConfig) : LogLine :=
  ⟨.debug, logger, "Applied " ++ toString applied ++ " of " ++ toString total ++ " filters to " ++
    entity ++ " (config=" ++ config.display ++ ")"⟩

/-- A step that tells of its predicate, if there is one and the settings ask for that. -/
structure Tells (x : Scope) (b : Building Q Bool) : Prop where
  unclosed : ∀ l ∈ b.lines, l.isClosing = false
  traced : ∀ applied, b.result = .ok applied →
    b.lines.countP isTrace = if x.settings.debug then applied.toNat else 0

namespace Tells

theorem idle {b : Building Q Bool} (h : ∀ l ∈ b.lines, l.Idle) (hb : b.result ≠ .ok true) :
    Tells x b where
  unclosed l hl := (h l hl).unclosed
  traced applied happlied := by
    cases applied with
    | true => exact absurd happlied hb
    | false => simp [countP_idle h]

theorem nothing : Tells x (done false q) :=
  .idle idle_nil (by simp)

theorem dropping {message : String} (h : message.toList.head? = some 'D') :
    Tells x (aside q (note message >>= fun _ => pure false)) := by
  refine .idle (fun l hl => ?_) (fun h => by cases h)
  rw [List.mem_singleton.mp hl]
  exact idle_of_head h (by decide) (by decide)

theorem after {t : Traced α} {f : α → Q → Building Q Bool} (ht : ∀ l ∈ t.lines, l.Idle)
    (h : ∀ a, Tells x (f a q)) : Tells x ((aside q t).andThen f) := by
  cases hr : t.result with
  | error e =>
    rw [andThen_of_error (x := aside q t) f hr]
    exact .idle ht (by simp)
  | ok a =>
    rw [andThen_of_ok (x := aside q t) f hr]
    refine ⟨fun l hl => ?_, fun applied happlied => ?_⟩
    · rcases List.mem_append.mp hl with hl | hl
      · exact (ht l hl).unclosed
      · exact (h a).unclosed l hl
    · rw [List.countP_append, show (aside q t).lines = t.lines from rfl, countP_idle ht,
        Nat.zero_add]
      exact (h a).traced applied happlied

theorem takingUp [Backend Q] {sub : Building Q Bool} {relation : String} (h : Tells x sub) :
    Tells x (Building.takingUp q relation sub) := by
  unfold Building.takingUp
  split
  · rename_i b hb
    exact ⟨h.unclosed, fun applied happlied => h.traced applied (hb.trans happlied)⟩
  · exact ⟨h.unclosed, fun applied h => by cases h⟩

end Tells

variable [Backend Q] [SeparateLog Q]

theorem idle_dispatch (rule : Calendar.WeekRule) (config : FilterConfig)
    (format operator column v : Value) (q : Q) :
    ∀ l ∈ (dispatch rule format config operator column v q).lines, l.Idle := by
  unfold dispatch
  cases Operator.ofValue? operator with
  | none =>
    dsimp only
    split
    · exact idle_nil
    · exact idle_of_foreign (.bind (.log (by decide)) fun _ => .pure _)
  | some o =>
    dsimp only
    cases ht : o.test? rule format config.caseSensitive v with
    | error e => exact idle_nil
    | ok asked =>
      rw [aside_ok_andThen]
      cases asked with
      | none => exact idle_nil
      | some asked =>
        intro l hl
        refine idle_of_foreign (t := Backend.add q ⟨column, asked.1, asked.2⟩)
          (SeparateLog.add _ _) l ?_
        cases hadd : Backend.add q ⟨column, asked.1, asked.2⟩ with
        | mk lines result =>
          cases result with
          | error e =>
            dsimp only at hl
            rwa [adding_of_error hadd] at hl
          | ok q' =>
            dsimp only at hl
            rwa [adding_of_ok hadd] at hl

theorem tells_applyPredicate (column : String) :
    Tells x (x.applyPredicate config spec column q) := by
  refine .after idle_nil fun v => ?_
  have hidle := idle_dispatch x.weekRule config (.text x.dateFormat) (.text spec.operator)
    (.text column) v q
  cases hd : (dispatch x.weekRule (.text x.dateFormat) config (.text spec.operator) (.text column) v
      q).result with
  | error e =>
    rw [andThen_of_error _ hd]
    exact .idle hidle (by simp)
  | ok applied =>
    rw [andThen_of_ok _ hd]
    have hlines := lines_announce x spec column v applied
    refine ⟨fun l hl => ?_, fun b hb => ?_⟩
    · rcases List.mem_append.mp hl with hl | hl
      · exact (hidle l hl).unclosed
      · rw [show (aside _ (x.announce spec column v applied)).lines = _ from hlines] at hl
        split at hl
        · rw [List.mem_singleton.mp hl]
          simp [isClosing, begins, List.isPrefixOf]
        · cases hl
    · rw [aside_result, announce_result] at hb
      cases hb
      rw [List.countP_append, countP_idle hidle, Nat.zero_add,
        show (aside _ (x.announce spec column v applied)).lines = _ from hlines]
      cases applied with
      | false => simp
      | true => cases x.settings.debug <;> simp [isTrace, begins, List.isPrefixOf]

theorem tells_applyLocal (field : String) : Tells x (x.applyLocal config spec field q) := by
  refine .after idle_nil fun fields => ?_
  split
  · rw [aside_bind]
    exact .after idle_nil fun name => .dropping (by simp)
  · exact .after idle_nil fun table => tells_applyPredicate _

theorem tells_applyFallback (parts : List String) :
    Tells x (x.applyFallback config spec parts q) := by
  unfold applyFallback
  split
  · exact .after idle_nil fun table => tells_applyPredicate _
  · exact .dropping (by simp)

theorem tells_behind {relation : String} {ask : Q → Building Q Bool}
    (h : ∀ sub, Tells x (ask sub)) : Tells x (behind q relation ask) := by
  refine .after (idle_of_foreign (SeparateLog.scope q relation)) fun found => ?_
  cases found with
  | none => exact .nothing
  | some sub => exact .takingUp (h sub)

theorem tells_applyPath (parts : List String) : Tells x (x.applyPath config spec parts q) := by
  induction parts generalizing x config q with
  | nil => exact .nothing
  | cons name parts ih =>
    cases parts with
    | nil => exact tells_applyLocal name
    | cons next rest =>
      refine .after idle_nil fun first => ?_
      cases first with
      | none => exact .dropping (by simp)
      | some r =>
        dsimp only
        split
        · exact .dropping (by simp)
        · refine tells_behind fun sub => ?_
          -- The scopes behind a relation keep the settings, which decide on the lines.
          have hbeyond : ∀ b : Building Q Bool,
              Tells (x.beyond (Backend.subject sub)) b → Tells x b :=
            fun b h => ⟨h.unclosed, h.traced⟩
          apply hbeyond
          split
          · exact ih
          · exact tells_applyFallback _

theorem tells_applySingle (x : Scope) (config : FilterConfig) (spec : FilterSpec) (q : Q) :
    Tells x (x.applySingle config spec q) := by
  unfold applySingle
  split
  · exact .nothing
  · split
    · exact tells_applyPath _
    · exact tells_applyLocal _

/-- A run tells of every predicate that it counts, where the settings ask for that. -/
theorem lines_applyFilters {specs : List FilterSpec} {n : Nat}
    (h : (x.applyFilters config specs q).result = .ok n) :
    (∀ l ∈ (x.applyFilters config specs q).lines, l.isClosing = false) ∧
      (x.applyFilters config specs q).lines.countP isTrace =
        if x.settings.debug then n else 0 := by
  induction specs generalizing q n with
  | nil =>
    cases h
    exact ⟨by simp [applyFilters, done], by simp [applyFilters, done]⟩
  | cons spec specs ih =>
    have htells := x.tells_applySingle config spec q
    obtain ⟨applied, happlied, h⟩ := andThen_eq_ok.mp h
    obtain ⟨m, hm, h⟩ := andThen_eq_ok.mp h
    cases h
    obtain ⟨hclosing, hcount⟩ := ih hm
    rw [applyFilters, andThen_of_ok _ happlied, andThen_of_ok _ hm]
    simp only [done, List.append_nil]
    refine ⟨fun l hl => ?_, ?_⟩
    · rcases List.mem_append.mp hl with hl | hl
      · exact htells.unclosed l hl
      · exact hclosing l hl
    · rw [List.countP_append, htells.traced applied happlied, hcount]
      split <;> rfl

/-- The lines of a call that ends: its last one, and no other, tells how many predicates were
counted, and where the settings ask for that there is a line for each of them. -/
theorem lines_apply {filters options source : Value} {specs : List FilterSpec} {n : Nat}
    {entity : String} (hx : x.subject = .entity entity)
    (hprepare : (x.prepare filters options source).result = .ok (some (specs, config)))
    (hrun : (x.applyFilters config specs q).result = .ok n) :
    (x.apply filters options source q).result = .ok () ∧
    ∃ before, (x.apply filters options source q).lines =
        before ++ [closing n specs.length entity config] ∧
      (∀ l ∈ before, l.isClosing = false) ∧
      (x.apply filters options source q).lines.countP isTrace =
        if x.settings.debug then n else 0 := by
  have hnote : x.appliedNote n specs.length config =
      ⟨[closing n specs.length entity config], .ok ()⟩ := by
    rw [appliedNote, entityName, hx]
    rfl
  have hidle := idle_prepare (x := x) filters options source
  obtain ⟨hclosing, hcount⟩ := lines_applyFilters hrun
  have hlines : (x.apply filters options source q).lines =
      (x.prepare filters options source).lines ++ ((x.applyFilters config specs q).lines ++
        [closing n specs.length entity config]) := by
    rw [apply, andThen_of_ok _ hprepare]
    dsimp only [aside_query]
    rw [andThen_of_ok _ hrun, hnote]
    rfl
  refine ⟨?_, (x.prepare filters options source).lines ++ (x.applyFilters config specs q).lines,
    by rw [hlines, List.append_assoc], fun l hl => ?_, ?_⟩
  · rw [apply, andThen_of_ok _ hprepare]
    dsimp only [aside_query]
    rw [andThen_of_ok _ hrun, hnote]
    rfl
  · rcases List.mem_append.mp hl with hl | hl
    · exact (hidle l hl).unclosed
    · exact hclosing l hl
  · have hlast : (closing n specs.length entity config).isTrace = false := by
      simp [closing, isTrace, begins, List.isPrefixOf]
    rw [hlines, List.countP_append, List.countP_append, countP_idle hidle, hcount,
      List.countP_singleton, hlast]
    simp

end Scope

end QueryFilter
