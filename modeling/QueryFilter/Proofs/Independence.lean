import QueryFilter.Proofs.Failure
import QueryFilter.Proofs.Lines
import QueryFilter.Proofs.Request

/-! Filters of one call do not disturb one another: each entry of a mapping adds what it adds
alone, and the number that a call reports is that of the conditions which it has added. -/

namespace QueryFilter

theorem ConditionQuery.cleared_of_nodes_eq_nil (q : ConditionQuery) (h : q.nodes = []) :
    q.cleared = q := by
  rw [cleared, ← h]

theorem ConditionQuery.Over.cleared {q : ConditionQuery} {x : Scope} (h : q.Over x) :
    q.cleared.Over x :=
  ⟨h.catalog, h.subject⟩

namespace Scope

open Building Traced LogLine

variable {x : Scope} {config : FilterConfig} {spec : FilterSpec} {q q' : ConditionQuery}
  {options : Value} {entries f g : Keyed Value} {e : String × Value}

/-- A run ends just when each of its specifications does on its own. -/
theorem applyFilters_eq_ok {specs : List FilterSpec} :
    (∃ n, (x.applyFilters config specs q).result = .ok n) ↔
      ∀ s ∈ specs, x.Succeeds config q s := by
  induction specs generalizing q with
  | nil => simp [applyFilters]
  | cons spec specs ih =>
    rw [List.forall_mem_cons]
    constructor
    · rintro ⟨n, h⟩
      obtain ⟨b, hb, h⟩ := andThen_eq_ok.mp h
      obtain ⟨m, hm, _⟩ := andThen_eq_ok.mp h
      refine ⟨⟨b, by rw [← result_applySingle, hb]⟩, ?_⟩
      have hrest := ih.mp ⟨m, hm⟩
      rwa [query_applySingle] at hrest
    · rintro ⟨⟨b, hb⟩, hrest⟩
      rw [← result_applySingle] at hb
      have hafter : ∀ s ∈ specs, x.Succeeds config (x.applySingle config spec q).query s := by
        rwa [query_applySingle]
      obtain ⟨m, hm⟩ := ih.mpr hafter
      exact ⟨_, andThen_eq_ok.mpr ⟨b, hb, andThen_eq_ok.mpr ⟨m, hm, rfl⟩⟩⟩

theorem length_contribution {b : Bool}
    (h : (x.applySingle config spec q).result = .ok b) :
    (x.contribution config q spec).length = b.toNat := by
  rw [result_applySingle] at h
  have hy := (x.contributes_applySingle config spec).yields q.cleared
  rw [h] at hy
  unfold contribution
  generalize (x.applySingle config spec q.cleared).query = r at hy
  cases hy with
  | added c => rfl
  | dropped => rfl

theorem count_applyFilters {specs : List FilterSpec} {n : Nat}
    (h : (x.applyFilters config specs q).result = .ok n) :
    n = (specs.flatMap (x.contribution config q)).length := by
  induction specs generalizing q n with
  | nil =>
    cases h
    rfl
  | cons spec specs ih =>
    obtain ⟨b, hb, h⟩ := andThen_eq_ok.mp h
    obtain ⟨m, hm, h⟩ := andThen_eq_ok.mp h
    cases h
    have hrest := ih hm
    rw [query_applySingle] at hrest
    rw [List.flatMap_cons, List.length_append, length_contribution hb, hrest]
    rfl

theorem applyLocal_same {field : String}
    (h : (x.applyLocal config spec field q).result = .ok true)
    (hd : Decided (x.applyLocal config spec field q').result) :
    ∃ c, (x.applyLocal config spec field q).query = q.record c ∧
      (x.applyLocal config spec field q').query = q'.record c := by
  obtain ⟨fields, hfields, ⟨_, hdropped⟩ | ⟨hc, table, htable, heq⟩⟩ :=
    applyLocal_of_decided (decided_of_ok h)
  · rw [h] at hdropped
    cases hdropped
  · obtain ⟨fields', hfields', hcases⟩ := applyLocal_of_decided hd
    rw [hfields] at hfields'
    cases hfields'
    obtain ⟨hc', _⟩ | ⟨_, table', htable', heq'⟩ := hcases
    · rw [hc] at hc'
      cases hc'
    · rw [htable] at htable'
      cases htable'
      rw [heq] at h ⊢
      rw [heq']
      obtain ⟨test, operand, hacc⟩ := accepts_of_applyPredicate h
      exact ⟨_, (applyPredicate_of_accepts q _ hacc).2, (applyPredicate_of_accepts q' _ hacc).2⟩

/-- Two queries over one entity, whatever their settings, take the same condition from a
specification. -/
theorem applySingle_same (hq : q.Over x) (hq' : q'.Over x)
    (h : (x.applySingle config spec q).result = .ok true)
    (hd : Decided (x.applySingle config spec q').result) :
    ∃ c, (x.applySingle config spec q).query = q.record c ∧
      (x.applySingle config spec q').query = q'.record c := by
  by_cases he : spec.isEmpty = true
  · rw [applySingle, if_pos he] at h
    cases h
  · have hvalue : spec.isEmpty = false := by simpa using he
    by_cases hp : (spec.isPath && config.deep) = true
    · obtain ⟨hpath, hdeep⟩ := Bool.and_eq_true_iff.mp hp
      obtain ⟨name, names, column, hparts, _⟩ := pathParts_eq_append hpath
      rw [← List.cons_append] at hparts
      have hmem : ∀ p ∈ (name :: names) ++ [column], IsPart p := by
        intro p hm
        rw [← hparts] at hm
        exact isPart_of_mem_pathParts hm
      have hfield : spec.field = joinParts ((name :: names) ++ [column]) := by
        rw [← hparts, joinParts_pathParts]
      -- Neither the checks on the path nor those on the value look at the query.
      obtain ⟨⟨rs, y, hadm⟩, test, operand, hacc⟩ :=
        admitted_of_eq_true hq (by simp) hmem hfield hvalue hdeep h
      obtain ⟨_, table, htable, hquery⟩ :=
        query_of_admitted hq (by simp) hmem hfield hvalue hdeep (decided_of_ok h) hadm hacc
      obtain ⟨_, table', htable', hquery'⟩ :=
        query_of_admitted hq' (by simp) hmem hfield hvalue hdeep hd hadm hacc
      rw [htable] at htable'
      cases htable'
      exact ⟨_, hquery, hquery'⟩
    · have hlocal : ∀ q : ConditionQuery,
          x.applySingle config spec q = x.applyLocal config spec spec.field q := by
        intro q
        rw [applySingle, if_neg he, if_neg hp]
      rw [hlocal] at h hd ⊢
      rw [hlocal]
      exact applyLocal_same h hd

/-- What a specification adds on its own is the same for every query over the entity. -/
theorem contribution_same (hq : q.Over x) (hq' : q'.Over x) (h : x.Succeeds config q spec)
    (h' : x.Succeeds config q' spec) :
    x.contribution config q spec = x.contribution config q' spec := by
  -- Either query may be the one that takes a condition, and then the other takes the same.
  have hone : ∀ {q q' : ConditionQuery}, q.Over x → q'.Over x → x.Succeeds config q' spec →
      x.contribution config q spec ≠ [] →
      x.contribution config q spec = x.contribution config q' spec := by
    intro q q' hq hq' ⟨b, hb⟩ hne
    obtain ⟨c, hc, hc'⟩ := applySingle_same hq.cleared hq'.cleared
      (contribution_ne_nil_iff.mp hne) (decided_of_ok hb)
    rw [contribution, contribution, hc, hc']
    rfl
  by_cases hne : x.contribution config q spec = []
  · by_cases hne' : x.contribution config q' spec = []
    · rw [hne, hne']
    · exact (hone hq' hq h hne').symm
  · exact hone hq hq' h' hne

/-- The specification of an entry, or an empty one where the entry has none. -/
def specOf (e : String × Value) : FilterSpec :=
  (FilterSpec.ofValue e.1 e.2).toOption.getD { field := e.1 }

/-- Whether an entry has a specification. -/
def Specified (e : String × Value) : Prop :=
  FilterSpec.ofValue e.1 e.2 = .ok (specOf e)

theorem specified_iff : Specified e ↔ ∃ spec, FilterSpec.ofValue e.1 e.2 = .ok spec := by
  unfold Specified specOf
  cases FilterSpec.ofValue e.1 e.2 <;> simp [Except.toOption]

theorem ofEntries_of_specified (h : ∀ e ∈ entries, Specified e) :
    FilterSpec.ofEntries entries = .ok (entries.map fun e => (e.1, specOf e)) := by
  rw [FilterSpec.ofEntries_eq_ok, List.forall₂_map_right_iff, List.forall₂_same]
  exact fun e he => ⟨rfl, h e he⟩

/-- The entries of a mapping that are taken when their number is limited. -/
def first (x : Scope) (entries : Keyed Value) : Keyed Value :=
  if x.settings.maxFilters ≤ 0 then entries else entries.take x.settings.maxFilters.toNat

/-- A mapping of which no entry is cut off. -/
def Within (x : Scope) (entries : Keyed Value) : Prop :=
  x.settings.maxFilters ≤ 0 ∨ entries.length ≤ x.settings.maxFilters.toNat

def Ends (x : Scope) (options : Value) (entries : Keyed Value) (q : ConditionQuery) : Prop :=
  (x.apply (.dict entries) options .null q).result = .ok ()

def after (x : Scope) (options : Value) (entries : Keyed Value) (q : ConditionQuery) :
    ConditionQuery :=
  (x.apply (.dict entries) options .null q).query

/-- The conditions in a query after a call with one entry alone. -/
def alone (x : Scope) (options : Value) (q : ConditionQuery) (e : String × Value) :
    List Condition :=
  (x.after options [e] q).nodes

theorem first_of_within (h : x.Within entries) : x.first entries = entries := by
  unfold first
  split
  · rfl
  · exact List.take_of_length_le (h.resolve_left ‹_›)

theorem first_ne_nil (h : entries ≠ []) : x.first entries ≠ [] := by
  unfold first
  split
  · exact h
  · rw [Ne, List.take_eq_nil_iff, not_or]
    exact ⟨by omega, h⟩

theorem mem_of_mem_first (h : e ∈ x.first entries) : e ∈ entries := by
  unfold first at h
  split at h
  · exact h
  · exact List.mem_of_mem_take h

theorem within_singleton (e : String × Value) : x.Within [e] := by
  unfold Within
  simp only [List.length_singleton]
  omega

theorem taken_eq (entries : Keyed Value) :
    x.taken (entries.map fun e => (e.1, specOf e)) = (x.first entries).map specOf := by
  have hspecs : (entries.map fun e => (e.1, specOf e)).map Prod.snd = entries.map specOf := by
    simp
  unfold taken first
  rw [hspecs]
  split
  · rfl
  · rw [List.map_take]

theorem prepare_given (options : Value) (hs : x.settings.enabled = true) (hne : entries ≠ [])
    (hspecified : ∀ e ∈ entries, Specified e) :
    (x.prepare (.dict entries) options .null).result =
      (x.resolveConfig options).result.map fun config =>
        some ((x.first entries).map specOf, config) := by
  obtain ⟨cut, hcut, htaken⟩ := x.limited_result (entries.map fun e => (e.1, specOf e))
  rw [taken_eq] at htaken
  have hempty : (entries.map fun e => (e.1, specOf e)).isEmpty = false := by
    simpa using hne
  have hresolve : x.resolveFilters (.dict entries) .null =
      .ok (entries.map fun e => (e.1, specOf e)) :=
    (x.resolveFilters_given entries).trans (ofEntries_of_specified hspecified)
  rw [prepare_of_enabled hs, hresolve, bind_ok _ rfl]
  simp only [hempty, Bool.false_eq_true, if_false]
  rw [bind_ok _ hcut, htaken]
  cases hconfig : (x.resolveConfig options).result with
  | error e => rw [bind_error _ hconfig]; rfl
  | ok config => rw [bind_ok _ hconfig]; rfl

theorem apply_empty (x : Scope) (options : Value) (q : ConditionQuery) :
    x.apply (.dict []) options .null q = done () q := by
  by_cases hs : x.settings.enabled = true
  · rw [apply_of_resolved hs (x.resolveFilters_given [])]
    rfl
  · exact apply_of_disabled (by simpa using hs) q

/-- A call ends only if all entries of its mapping have specifications, the last of them too. -/
theorem specified_of_ends (hs : x.settings.enabled = true) (h : x.Ends options entries q) :
    ∀ e ∈ entries, Specified e := by
  intro e he
  cases hspecs : FilterSpec.ofEntries entries with
  | error fault =>
    have hfault := (x.resolveFilters_given entries).trans hspecs
    rw [Ends, apply_of_unresolved hs hfault] at h
    cases h
  | ok specs =>
    obtain ⟨s, hs⟩ := Outcome.mapM_ends_iff.mp ⟨specs, hspecs⟩ e he
    obtain ⟨spec, hspec, _⟩ := Outcome.map_eq_ok.mp hs
    exact specified_iff.mpr ⟨spec, hspec⟩

variable {entity : String}

theorem ends_iff (hs : x.settings.enabled = true) (hx : x.subject = .entity entity)
    (hne : entries ≠ []) : x.Ends options entries q ↔ (∀ e ∈ entries, Specified e) ∧
      ∃ config, (x.resolveConfig options).result = .ok config ∧
        ∀ e ∈ x.first entries, x.Succeeds config q (specOf e) := by
  by_cases hspecified : ∀ e ∈ entries, Specified e
  swap
  · exact iff_of_false (fun h => hspecified (specified_of_ends hs h)) fun h => hspecified h.1
  rw [and_iff_right hspecified]
  have hprepare := prepare_given options hs hne hspecified
  have hsucceeds : ∀ config, (∀ e ∈ x.first entries, x.Succeeds config q (specOf e)) ↔
      ∃ n, (x.applyFilters config ((x.first entries).map specOf) q).result = .ok n := by
    intro config
    rw [applyFilters_eq_ok, List.forall_mem_map]
  unfold Ends
  cases hconfig : (x.resolveConfig options).result with
  | error e =>
    rw [hconfig] at hprepare
    rw [apply, andThen_of_error (x := aside q _) _ hprepare]
    simp
  | ok config =>
    rw [hconfig] at hprepare
    simp only [Except.ok.injEq, exists_eq_left', hsucceeds]
    rw [apply, andThen_of_ok (x := aside q _) _ hprepare]
    dsimp only [aside_query]
    rw [andThen_eq_ok]
    have hnote : ∀ n m, (x.appliedNote n m config).result = .ok () := by
      intro n m
      rw [appliedNote, entityName, hx]
      rfl
    simp only [aside_result, hnote, and_true]

theorem ends_one_iff (hs : x.settings.enabled = true) (hx : x.subject = .entity entity) :
    x.Ends options [e] q ↔ Specified e ∧ ∃ config,
      (x.resolveConfig options).result = .ok config ∧ x.Succeeds config q (specOf e) := by
  rw [ends_iff hs hx (List.cons_ne_nil e []), first_of_within (within_singleton e)]
  simp only [List.forall_mem_singleton]

/-- A call ends just when all entries have specifications and each that is taken ends alone. -/
theorem ends_iff_alone (hs : x.settings.enabled = true) (hx : x.subject = .entity entity) :
    x.Ends options entries q ↔ (∀ e ∈ entries, Specified e) ∧
      ∀ e ∈ x.first entries, x.Ends options [e] q.cleared := by
  have hone : ∀ e, x.Ends options [e] q.cleared ↔ Specified e ∧ ∃ config,
      (x.resolveConfig options).result = .ok config ∧ x.Succeeds config q (specOf e) :=
    fun _ => ends_one_iff hs hx
  simp only [hone]
  by_cases hne : entries = []
  · subst hne
    unfold Ends
    rw [apply_empty]
    simp [first]
  · rw [ends_iff hs hx hne]
    constructor
    · rintro ⟨hspecified, config, hconfig, h⟩
      exact ⟨hspecified, fun e he =>
        ⟨hspecified e (mem_of_mem_first he), config, hconfig, h e he⟩⟩
    · rintro ⟨hspecified, h⟩
      -- Some entry is taken, so the configuration is found by a call with that entry.
      obtain ⟨e, rest, hfirst⟩ := List.exists_cons_of_ne_nil (first_ne_nil (x := x) hne)
      obtain ⟨_, config, hconfig, _⟩ := h e (hfirst ▸ List.mem_cons_self)
      refine ⟨hspecified, config, hconfig, fun e' he' => ?_⟩
      obtain ⟨_, config', hconfig', h'⟩ := h e' he'
      rw [hconfig] at hconfig'
      cases hconfig'
      exact h'

theorem alone_cleared (hs : x.settings.enabled = true)
    (hconfig : (x.resolveConfig options).result = .ok config) (q : ConditionQuery)
    (he : Specified e) : x.alone options q.cleared e = x.contribution config q (specOf e) := by
  have hprepare := prepare_given options hs (List.cons_ne_nil e [])
    ((List.forall_mem_singleton (p := Specified)).mpr he)
  rw [hconfig, first_of_within (within_singleton e)] at hprepare
  unfold alone after
  rw [query_apply_of_prepared hprepare, List.map_singleton, applyFilters_singleton, contribution]
  cases hr : (x.applySingle config (specOf e) q.cleared).result with
  | error e => rw [andThen_of_error _ hr]
  | ok b => rw [andThen_of_ok _ hr]; rfl

theorem after_eq (hs : x.settings.enabled = true) (hx : x.subject = .entity entity)
    (h : x.Ends options entries q) : x.after options entries q =
      q.recordAll ((x.first entries).flatMap (x.alone options q.cleared)) := by
  by_cases hne : entries = []
  · subst hne
    rw [after, apply_empty]
    simp [first, done, ConditionQuery.recordAll]
  · obtain ⟨hspecified, config, hconfig, hsucceeds⟩ := (ends_iff hs hx hne).mp h
    have hprepare := prepare_given options hs hne hspecified
    rw [hconfig] at hprepare
    obtain ⟨n, hn⟩ := applyFilters_eq_ok.mpr (List.forall_mem_map.mpr hsucceeds)
    rw [after, query_apply_of_prepared hprepare, query_applyFilters_of_ok hn, List.flatMap_map]
    congr 1
    refine List.flatMap_congr fun e he => ?_
    exact (alone_cleared hs hconfig q (hspecified e (mem_of_mem_first he))).symm

theorem alone_cases (hs : x.settings.enabled = true) (hx : x.subject = .entity entity)
    (h : x.Ends options [e] q.cleared) :
    x.alone options q.cleared e = [] ∨ ∃ c, x.alone options q.cleared e = [c] := by
  obtain ⟨he, config, hconfig, b, hb⟩ := (ends_one_iff hs hx).mp h
  have hlength := length_contribution hb
  rw [alone_cleared hs hconfig q he]
  cases b with
  | false => exact Or.inl (List.length_eq_zero_iff.mp hlength)
  | true => exact Or.inr (List.length_eq_one_iff.mp hlength)

theorem alone_same (hs : x.settings.enabled = true) (hx : x.subject = .entity entity)
    {fresh : ConditionQuery} (hq : q.Over x) (hfresh : fresh.Over x)
    (hnodes : fresh.nodes = []) (h : x.Ends options [e] q.cleared)
    (h' : x.Ends options [e] fresh) :
    x.alone options fresh e = x.alone options q.cleared e := by
  obtain ⟨he, config, hconfig, hsucceeds⟩ := (ends_one_iff hs hx).mp h
  obtain ⟨_, config', hconfig', hsucceeds'⟩ := (ends_one_iff hs hx).mp h'
  rw [hconfig] at hconfig'
  cases hconfig'
  rw [alone_cleared hs hconfig q he, ← fresh.cleared_of_nodes_eq_nil hnodes,
    alone_cleared hs hconfig fresh he]
  exact contribution_same hfresh hq hsucceeds' hsucceeds

/-- What is known of the entries of a mapping with which a call ends. -/
structure Independent (x : Scope) (entity : String) (options : Value) (entries : Keyed Value)
    (q : ConditionQuery) : Prop where
  /-- What stands in the query stays, and each entry that is taken adds what it adds alone. -/
  appended : x.after options entries q =
    q.recordAll ((x.first entries).flatMap (x.alone options q.cleared))
  ends : ∀ e ∈ x.first entries, x.Ends options [e] q.cleared
  single : ∀ e ∈ x.first entries,
    x.alone options q.cleared e = [] ∨ ∃ c, x.alone options q.cleared e = [c]
  same : ∀ e ∈ x.first entries, ∀ fresh : ConditionQuery, fresh.Over x → fresh.nodes = [] →
    x.Ends options [e] fresh → x.alone options fresh e = x.alone options q.cleared e
  permuted : x.Within entries → ∀ entries', entries.Perm entries' → x.Ends options entries' q ∧
    x.after options entries' q = q.recordAll (entries'.flatMap (x.alone options q.cleared))
  /-- Without an entry that adds nothing the other entries that are taken add the same. -/
  dropped : ∀ before e rest, x.first entries = before ++ e :: rest →
    x.alone options q.cleared e = [] → x.Ends options (before ++ rest) q ∧
      x.after options (before ++ rest) q = x.after options entries q
  /-- The last line, and no other, reports how many conditions were added, and where the settings
  ask for that there is a line for each of them. -/
  reported : entries ≠ [] → ∃ n config before,
    (x.apply (.dict entries) options .null q).lines =
      before ++ [closing n (x.first entries).length entity config] ∧
    (∀ l ∈ before, l.isClosing = false) ∧
    (x.after options entries q).nodes.length = q.nodes.length + n ∧
    (x.settings.debug = true →
      (x.apply (.dict entries) options .null q).lines.countP isTrace = n)

theorem within_of_perm (h : entries.Perm f) (hw : x.Within entries) : x.Within f := by
  unfold Within at hw ⊢
  rwa [h.length_eq] at hw

/-- A part of what is taken of a mapping is itself within the limit. -/
theorem within_of_sublist (h : f.Sublist (x.first entries)) : x.Within f := by
  have hlength := h.length_le
  unfold first at hlength
  unfold Within
  by_cases hm : x.settings.maxFilters ≤ 0
  · exact Or.inl hm
  · rw [if_neg hm, List.length_take] at hlength
    exact Or.inr (by omega)

theorem ends_iff_of_within (hs : x.settings.enabled = true) (hx : x.subject = .entity entity)
    (hw : x.Within entries) :
    x.Ends options entries q ↔ ∀ e ∈ entries, x.Ends options [e] q.cleared := by
  rw [ends_iff_alone hs hx, first_of_within hw, and_iff_right_iff_imp]
  exact fun h e he => specified_of_ends hs (h e he) e List.mem_cons_self

theorem after_of_within (hs : x.settings.enabled = true) (hx : x.subject = .entity entity)
    (hw : x.Within entries) (h : x.Ends options entries q) :
    x.after options entries q = q.recordAll (entries.flatMap (x.alone options q.cleared)) := by
  rw [after_eq hs hx h, first_of_within hw]

theorem cleared_after (hs : x.settings.enabled = true) (hx : x.subject = .entity entity)
    (h : x.Ends options entries q) : (x.after options entries q).cleared = q.cleared := by
  rw [after_eq hs hx h, ConditionQuery.cleared_recordAll]

theorem after_union (hs : x.settings.enabled = true) (hx : x.subject = .entity entity)
    (hw : x.Within (f ++ g)) :
    (x.Ends options f q ∧ x.Ends options g (x.after options f q) ↔ x.Ends options (f ++ g) q) ∧
      (x.Ends options (f ++ g) q →
        x.after options g (x.after options f q) = x.after options (f ++ g) q) := by
  have hf : x.Within f := hw.imp_right fun h => by
    rw [List.length_append] at h
    omega
  have hg : x.Within g := hw.imp_right fun h => by
    rw [List.length_append] at h
    omega
  -- The first call leaves a query that is empty in the same way, and that is all the second sees.
  have hiff : x.Ends options f q ∧ x.Ends options g (x.after options f q) ↔
      x.Ends options (f ++ g) q := by
    rw [ends_iff_of_within hs hx hw, List.forall_mem_append, ← ends_iff_of_within hs hx hf]
    exact and_congr_right fun h => by rw [ends_iff_of_within hs hx hg, cleared_after hs hx h]
  refine ⟨hiff, fun h => ?_⟩
  obtain ⟨hfirst, hthen⟩ := hiff.mpr h
  rw [after_of_within hs hx hg hthen, cleared_after hs hx hfirst, after_of_within hs hx hf hfirst,
    ConditionQuery.recordAll_append, after_of_within hs hx hw h, List.flatMap_append]

theorem independent_of_ends (hs : x.settings.enabled = true) (hx : x.subject = .entity entity)
    (hq : q.Over x) (h : x.Ends options entries q) :
    x.Independent entity options entries q where
  appended := after_eq hs hx h
  ends := ((ends_iff_alone hs hx).mp h).2
  single e he := alone_cases hs hx (((ends_iff_alone hs hx).mp h).2 e he)
  same e he fresh hfresh hnodes h' :=
    alone_same hs hx hq hfresh hnodes (((ends_iff_alone hs hx).mp h).2 e he) h'
  permuted hw entries' hperm := by
    have hw' := within_of_perm hperm hw
    have h' : x.Ends options entries' q := by
      rw [ends_iff_of_within hs hx hw']
      intro e he
      exact (ends_iff_of_within hs hx hw).mp h e (hperm.mem_iff.mpr he)
    exact ⟨h', after_of_within hs hx hw' h'⟩
  dropped before e rest hfirst halone := by
    have hsub : (before ++ rest).Sublist (x.first entries) := by
      rw [hfirst]
      exact (List.Sublist.refl before).append (List.sublist_cons_self e rest)
    have hw := within_of_sublist hsub
    have h' : x.Ends options (before ++ rest) q := by
      rw [ends_iff_of_within hs hx hw]
      exact fun e' he' => ((ends_iff_alone hs hx).mp h).2 e' (hsub.mem he')
    refine ⟨h', ?_⟩
    rw [after_of_within hs hx hw h', after_eq hs hx h, hfirst]
    simp [halone]
  reported hne := by
    obtain ⟨hspecified, config, hconfig, hsucceeds⟩ := (ends_iff hs hx hne).mp h
    have hprepare := prepare_given options hs hne hspecified
    rw [hconfig] at hprepare
    obtain ⟨n, hn⟩ := applyFilters_eq_ok.mpr (List.forall_mem_map.mpr hsucceeds)
    obtain ⟨_, before, hlines, hbefore, hcount⟩ := lines_apply hx hprepare hn
    rw [List.length_map] at hlines
    refine ⟨n, config, before, hlines, hbefore, ?_, fun hdebug => by rw [hcount, if_pos hdebug]⟩
    rw [after, query_apply_of_prepared hprepare, query_applyFilters_of_ok hn,
      ConditionQuery.recordAll, List.length_append, ← count_applyFilters hn]

/-- The filters of a call that ends are independent of one another, and two calls that take all of
their entries do what one call with the entries of both does. -/
theorem apply_independent (hs : x.settings.enabled = true) (hx : x.subject = .entity entity)
    (hq : q.Over x) (h : x.Ends options entries q) :
    x.Independent entity options entries q ∧
    ∀ f g, x.Within (f ++ g) →
      (x.Ends options f q ∧ x.Ends options g (x.after options f q) ↔ x.Ends options (f ++ g) q) ∧
      (x.Ends options (f ++ g) q →
        x.after options g (x.after options f q) = x.after options (f ++ g) q) :=
  ⟨independent_of_ends hs hx hq h, fun _ _ hw => after_union hs hx hw⟩

def treeFilters : Keyed Value :=
  [("name", .text "root"), ("colour", .text "red"), ("parent.parent.name", .text "x")]

def rootCondition : Condition :=
  .leaf ⟨.text "nodes.name", .compare .eq, .text "root"⟩

def grandparentCondition : Condition :=
  .has "parent" [.has "parent" [.leaf ⟨.text "nodes.name", .compare .eq, .text "x"⟩]]

theorem rootFilter_accepts : nodes.Accepts {} rootFilter (.compare .eq) (.text "root") := by
  have ht : rootFilter.typeTag = some .string := FieldType.parse?_symbol .string
  have ho : rootFilter.operatorTag = some .eq := Operator.parse?_symbol .eq
  refine ⟨.text "root", .eq, .text "root", ?_, ho, rfl, rfl⟩
  rw [ht, ho]
  rfl

theorem applySingle_rootFilter : (nodes.applySingle {} rootFilter allNodes).result = .ok true ∧
    (nodes.applySingle {} rootFilter allNodes).query = allNodes.record rootCondition :=
  applyPredicate_of_accepts allNodes "nodes.name" rootFilter_accepts

theorem applySingle_grandparent :
    (nodes.applySingle {} grandparentFilter allNodes).result = .ok true ∧
    (nodes.applySingle {} grandparentFilter allNodes).query =
      allNodes.record grandparentCondition := by
  have hrun : nodes.applySingle {} grandparentFilter allNodes = takingUp allNodes "parent"
      (nodes.applyPath { maxDepth := 1 } grandparentFilter ["parent", "name"] allNodes) := rfl
  have hinner : nodes.applyPath { maxDepth := 1 } grandparentFilter ["parent", "name"] allNodes =
      takingUp allNodes "parent"
        (nodes.applyPredicate { maxDepth := 0 } grandparentFilter "nodes.name" allNodes) := rfl
  obtain ⟨hresult, hquery⟩ :=
    applyPredicate_of_accepts allNodes "nodes.name" grandparentFilter_accepts
  have hmiddle : (nodes.applyPath { maxDepth := 1 } grandparentFilter ["parent", "name"]
      allNodes).query = allNodes.record
        (.has "parent" [.leaf ⟨.text "nodes.name", .compare .eq, .text "x"⟩]) := by
    rw [hinner]
    exact query_takingUp rfl hresult hquery
  have hanswer : (nodes.applyPath { maxDepth := 1 } grandparentFilter ["parent", "name"]
      allNodes).result = .ok true := by
    rw [hinner, result_takingUp]
    exact hresult
  rw [hrun, result_takingUp]
  exact ⟨hanswer, query_takingUp rfl hanswer hmiddle⟩

theorem treeFilters_specified : ∀ e ∈ treeFilters, Specified e := by
  simp only [treeFilters, List.forall_mem_cons]
  exact ⟨rfl, rfl, rfl, List.forall_mem_nil _⟩

theorem treeFilters_end : nodes.Ends .null treeFilters allNodes := by
  have hfirst : nodes.first treeFilters = treeFilters := first_of_within (Or.inr (by decide))
  refine (ends_iff rfl rfl (by simp [treeFilters])).mpr ⟨treeFilters_specified, {}, rfl, ?_⟩
  rw [hfirst]
  simp only [treeFilters, List.forall_mem_cons, List.not_mem_nil, false_imp_iff, implies_true,
    and_true]
  exact ⟨⟨true, applySingle_rootFilter.1⟩, ⟨false, rfl⟩, ⟨true, applySingle_grandparent.1⟩⟩

theorem alone_treeFilters : treeFilters.map (nodes.alone .null allNodes) =
    [[rootCondition], [], [grandparentCondition]] := by
  have halone : ∀ e ∈ treeFilters,
      nodes.alone .null allNodes e = nodes.contribution {} allNodes (specOf e) :=
    fun e he => alone_cleared rfl rfl allNodes (treeFilters_specified e he)
  rw [List.map_congr_left halone]
  simp only [treeFilters, List.map_cons, List.map_nil]
  have hroot : nodes.contribution {} allNodes (specOf ("name", .text "root")) = [rootCondition] :=
    congrArg ConditionQuery.nodes applySingle_rootFilter.2
  have hparent : nodes.contribution {} allNodes (specOf ("parent.parent.name", .text "x")) =
      [grandparentCondition] := congrArg ConditionQuery.nodes applySingle_grandparent.2
  rw [hroot, hparent]
  rfl

theorem after_treeFilters :
    nodes.after .null treeFilters allNodes =
      allNodes.recordAll [rootCondition, grandparentCondition] ∧
    nodes.after .null treeFilters.reverse allNodes =
      allNodes.recordAll [grandparentCondition, rootCondition] := by
  obtain ⟨hindependent, _⟩ := apply_independent rfl rfl ⟨rfl, rfl⟩ treeFilters_end
  have hw : nodes.Within treeFilters := Or.inr (by decide)
  have hcleared : allNodes.cleared = allNodes := rfl
  have halone := alone_treeFilters
  refine ⟨?_, ?_⟩
  · rw [hindependent.appended, first_of_within hw, hcleared, List.flatMap_def, halone]
    rfl
  · rw [(hindependent.permuted hw _ (List.reverse_perm _).symm).2, hcleared, List.flatMap_def,
      List.map_reverse, halone]
    rfl

end Scope

end QueryFilter
