import QueryFilter.Proofs.Exposure
import QueryFilter.Proofs.Validation

/-! The settings of a query play no part in what filters add to it. A query looks relations up under
its own settings, which may hide a relation that the compiler has admitted. What it then asks the
schema for leads to the same entity, as long as neither look-up fails. -/

namespace QueryFilter

open Building Traced

/-- The same query under other settings. -/
def ConditionQuery.under (t : Settings) (q : ConditionQuery) : ConditionQuery :=
  { q with settings := t }

/-- Settings under which a query can tell what a relation leads to. They give the relations of the
entity, and the schema can be asked about one that is not among them. -/
def Scope.Resolves (x : Scope) (t : Settings) (name : String) : Prop :=
  ∃ e rs, x.catalog.filterable? x.subject = some e ∧ x.catalog.relationsOfEntity t e = .ok rs ∧
    (rs.get? name = none → ∃ found, x.catalog.linked? x.subject name = .ok found)

/-- Settings under which every relation that paths can come to can be resolved. -/
def Scope.ResolvesAll (x : Scope) (t : Settings) : Prop :=
  ∀ names name rs y r, x.Route names name rs y → y.Declares name r → y.Resolves t name

/-- Settings under which the relations along the parts of one path can be resolved. -/
def Scope.ResolvesAlong (x : Scope) (t : Settings) (parts : List String) : Prop :=
  ∀ names name rs y r, names ++ [name] <+: parts → x.Route names name rs y →
    y.Declares name r → y.Resolves t name

variable {x : Scope} {q : ConditionQuery} {t : Settings} {config : FilterConfig}
  {spec : FilterSpec} {name next : String} {rest parts : List String} {r : RelationDescriptor}
  {w : Value}

theorem Catalog.requireSchema_of_derived {c : Catalog} {s : Settings} {e : Entity}
    {rs : Keyed RelationDescriptor} (hd : e.relations.filter (!·.isNull) = none)
    (h : c.relationsOfEntity s e = .ok rs) : e.requireSchema = .ok () := by
  unfold relationsOfEntity at h
  rw [hd] at h
  obtain ⟨table, _, h⟩ := Outcome.bind_eq_ok.mp h
  obtain ⟨_, hschema, _⟩ := Outcome.bind_eq_ok.mp h
  exact hschema

namespace ConditionQuery

variable {e : Entity} {rs : Keyed RelationDescriptor}

theorem related?_of_unlisted (he : q.catalog.filterable? q.subject = some e)
    (hrs : q.catalog.relationsOfEntity q.settings e = .ok rs) (hr : rs.get? name = none)
    (hschema : e.requireSchema = .ok ()) :
    q.related? name = q.catalog.linked? q.subject name := by
  unfold related?
  rw [he]
  simp only [hrs, bind, Except.bind, hr, hschema]

open Catalog in
/-- A query that can resolve a relation of the compiler finds what the compiler finds behind it, a
fault included. -/
theorem Over.related?_eq (hq : q.Over x) (hd : x.Declares name r)
    (hs : x.Resolves q.settings name) : q.related? name = x.catalog.relatedFor x.subject r := by
  obtain ⟨rs, hrs, hr⟩ := hd
  obtain ⟨e, rs', he, hrs', hlinked⟩ := hs
  obtain ⟨e', he', hcompiled⟩ := Scope.relations_eq_ok hrs
  rw [he] at he'
  cases he'
  rw [← hq.catalog, ← hq.subject] at he
  rw [← hq.catalog] at hrs'
  rcases relations_cases hcompiled with ⟨d, hdeclared, hdecl⟩ | ⟨hdeclared, hderived⟩
  · have hsame : rs' = rs := by
      simp only [relationsOfEntity, hdeclared, hdecl, Except.ok.injEq] at hrs'
      exact hrs'.symm
    subst hsame
    rw [related?_of_listed he hrs' hr, hq.catalog, hq.subject]
  · have hfound : ∃ found, q.related? name = .ok found := by
      cases hr' : rs'.get? name with
      | some r' =>
        rcases relations_cases hrs' with ⟨d, hd, _⟩ | ⟨_, hderived'⟩
        · rw [hdeclared] at hd
          cases hd
        · rw [related?_of_listed he hrs' hr', (hderived' hr').2.relatedFor]
          exact ⟨_, rfl⟩
      | none =>
        obtain ⟨found, hl⟩ := hlinked hr'
        have hschema := requireSchema_of_derived hdeclared hcompiled
        rw [related?_of_unlisted he hrs' hr' hschema, hq.catalog, hq.subject]
        exact ⟨found, hl⟩
    obtain ⟨found, hfound⟩ := hfound
    rw [hfound, hq.relatedFor_eq hrs hr hfound]

theorem Over.under (hq : q.Over x) (t : Settings) : (q.under t).Over x :=
  ⟨hq.catalog, hq.subject⟩

/-- Two settings that resolve a relation open the same query behind it, each under itself. -/
theorem scope_under (hq : q.Over x) (hd : x.Declares name r) (hs : x.Resolves q.settings name)
    (ht : x.Resolves t name) :
    (q.under t).scope name = (q.scope name).map (·.map (under t)) := by
  have hrelated : (q.under t).related? name = q.related? name :=
    ((hq.under t).related?_eq hd ht).trans (hq.related?_eq hd hs).symm
  unfold scope
  rw [hrelated]
  cases q.related? name with
  | error e => rfl
  | ok found =>
    cases found with
    | none => rfl
    | some v =>
      have hcatalog : (q.under t).catalog = q.catalog := rfl
      simp only [bind, Except.bind, start, hcatalog]
      cases subjectTable q.catalog v <;> rfl

theorem attach_under (q sub : ConditionQuery) (relation : String) :
    (q.under t).attach relation (sub.under t) = (q.attach relation sub).under t := by
  have hnodes : (sub.under t).nodes = sub.nodes := rfl
  unfold attach
  rw [hnodes]
  split <;> rfl

theorem takingUp_under (q : ConditionQuery) (relation : String)
    (asked : Building ConditionQuery Bool) :
    takingUp (q.under t) relation (asked.mapQuery (under t)) =
      (takingUp q relation asked).mapQuery (under t) := by
  cases h : asked.result with
  | error e =>
    have hh : (asked.mapQuery (under t)).result = .error e := h
    rw [takingUp_of_error relation h, takingUp_of_error relation hh]
    rfl
  | ok b =>
    have hh : (asked.mapQuery (under t)).result = .ok b := h
    rw [takingUp_of_ok relation h, takingUp_of_ok relation hh]
    simp only [mapQuery, Backend.attach, attach_under]

theorem behind_under {ask ask' : ConditionQuery → Building ConditionQuery Bool}
    (hscope : (q.under t).scope name = (q.scope name).map (·.map (under t)))
    (hask : ∀ sub, q.scope name = .ok (some sub) →
      ask' (sub.under t) = (ask sub).mapQuery (under t)) :
    behind (q.under t) name ask' = (behind q name ask).mapQuery (under t) := by
  show (aside (q.under t) (ofExcept ((q.under t).scope name))).andThen _ =
    ((aside q (ofExcept (q.scope name))).andThen _).mapQuery (under t)
  rw [hscope]
  cases hs : q.scope name with
  | error e => rfl
  | ok found =>
    simp only [Except.map, aside_ok_andThen]
    cases found with
    | none => rfl
    | some sub =>
      simp only [Option.map_some]
      rw [hask sub hs, takingUp_under]

theorem adding_under (q : ConditionQuery) (p : Predicate) :
    adding (q.under t) p = (adding q p).mapQuery (under t) := by
  rw [adding_eq, adding_eq, add_eq, add_eq]
  cases recordedOperand p.test p.operand with
  | error e => rfl
  | ok operand => cases p.column.isHashable <;> rfl

theorem dispatch_under (rule : Calendar.WeekRule) (format : Value) (config : FilterConfig)
    (operator column v : Value) (q : ConditionQuery) :
    dispatch rule format config operator column v (q.under t) =
      (dispatch rule format config operator column v q).mapQuery (under t) := by
  unfold dispatch
  cases Operator.ofValue? operator with
  | none => cases config.strict <;> rfl
  | some o =>
    refine aside_andThen_mapQuery fun asked q => ?_
    cases asked with
    | none => rfl
    | some asked => exact adding_under q _

end ConditionQuery

namespace Scope

open ConditionQuery

theorem applyPredicate_under (x : Scope) (config : FilterConfig) (spec : FilterSpec)
    (column : String) (q : ConditionQuery) : x.applyPredicate config spec column (q.under t) =
      (x.applyPredicate config spec column q).mapQuery (under t) := by
  refine aside_andThen_mapQuery fun v q => ?_
  rw [dispatch_under]
  exact mapQuery_andThen fun applied q => rfl

theorem applyLocal_under (x : Scope) (config : FilterConfig) (spec : FilterSpec) (field : String)
    (q : ConditionQuery) : x.applyLocal config spec field (q.under t) =
      (x.applyLocal config spec field q).mapQuery (under t) := by
  refine aside_andThen_mapQuery fun fields q => ?_
  cases fields.has field with
  | false => rfl
  | true => exact aside_andThen_mapQuery fun table q => x.applyPredicate_under config spec _ q

theorem applyFallback_under (x : Scope) (config : FilterConfig) (spec : FilterSpec)
    (parts : List String) (q : ConditionQuery) : x.applyFallback config spec parts (q.under t) =
      (x.applyFallback config spec parts q).mapQuery (under t) := by
  unfold applyFallback
  split
  · exact x.applyPredicate_under config spec _ q
  · rfl

theorem ResolvesAlong.beyond (h : x.ResolvesAlong t (name :: next :: rest))
    (hl : x.Leads name next r w) : (x.beyond w).ResolvesAlong t (next :: rest) := by
  intro names relation rs y r' hprefix hroute hd
  have hnext : names.headD relation = next := by
    cases names with
    | nil => exact (List.cons_prefix_cons.mp hprefix).1
    | cons n names => exact (List.cons_prefix_cons.mp hprefix).1
  rw [← hnext] at hl
  exact h (name :: names) relation (r :: rs) y r' (List.cons_prefix_cons.mpr ⟨rfl, hprefix⟩)
    (.follow hl hroute) hd

/-- A path adds the same under two settings that resolve the relations along it. -/
theorem applyPath_under (hq : q.Over x) (hp : ∀ p ∈ parts, IsPart p)
    (hs : x.ResolvesAlong q.settings parts) (ht : x.ResolvesAlong t parts) :
    x.applyPath config spec parts (q.under t) =
      (x.applyPath config spec parts q).mapQuery (under t) := by
  induction parts generalizing x config q with
  | nil => rfl
  | cons name parts ih =>
    cases parts with
    | nil => exact x.applyLocal_under config spec name q
    | cons next rest =>
      unfold applyPath
      cases hfirst : x.firstRelation? name (next :: rest) with
      | error e => rfl
      | ok first =>
        simp only [aside_ok_andThen]
        cases first with
        | none => rfl
        | some r =>
          by_cases hdepth : depthFor config r ≤ 0
          · simp only [hdepth, if_true]
            rfl
          · simp only [hdepth, if_false]
            obtain ⟨hd, _, hallowed⟩ := firstRelation?_eq_some (hp next (by simp)) hfirst
            have hhere : ∀ t, x.ResolvesAlong t (name :: next :: rest) → x.Resolves t name :=
              fun t h => h [] name [] x r (by simp) (.arrived x name) hd
            -- Behind the relation both runs go on over the same entity, each under its settings.
            refine behind_under (scope_under hq hd (hhere _ hs) (hhere _ ht)) fun sub hsub => ?_
            obtain ⟨w, table, hrelated, _, rfl⟩ := scope_eq_some.mp hsub
            rw [hq.related?_eq hd (hhere _ hs)] at hrelated
            obtain ⟨ds, hds, hget⟩ := hd
            obtain ⟨e, he, _⟩ := relations_eq_ok hds
            have hl : x.Leads name next r w :=
              ⟨Catalog.isFilterable_iff.mpr ⟨e, he⟩, ⟨ds, hds, hget⟩, hallowed, hrelated⟩
            have hpart : ∀ p ∈ next :: rest, IsPart p := fun p h => hp p (List.mem_cons_of_mem _ h)
            show (x.beyond w).proceed _ spec (next :: rest) _ =
              ((x.beyond w).proceed _ spec (next :: rest) _).mapQuery (under t)
            unfold proceed
            split
            · exact ih ⟨hq.catalog, rfl⟩ hpart (hs.beyond hl) (ht.beyond hl)
            · exact applyFallback_under _ _ spec _ _

theorem ResolvesAll.along (h : x.ResolvesAll t) (parts : List String) : x.ResolvesAlong t parts :=
  fun names name rs y r _ hroute hd => h names name rs y r hroute hd

theorem applySingle_under (hq : q.Over x) (hs : x.ResolvesAll q.settings) (ht : x.ResolvesAll t) :
    x.applySingle config spec (q.under t) =
      (x.applySingle config spec q).mapQuery (under t) := by
  unfold applySingle
  split
  · rfl
  · split
    · exact applyPath_under hq (fun p h => isPart_of_mem_pathParts h) (hs.along _) (ht.along _)
    · exact x.applyLocal_under config spec _ q

theorem applyFilters_under {specs : List FilterSpec} (hq : q.Over x)
    (hs : x.ResolvesAll q.settings) (ht : x.ResolvesAll t) :
    x.applyFilters config specs (q.under t) =
      (x.applyFilters config specs q).mapQuery (under t) := by
  induction specs generalizing q with
  | nil => rfl
  | cons spec specs ih =>
    unfold applyFilters
    rw [applySingle_under hq hs ht]
    refine mapQuery_andThen_of fun applied => ?_
    rw [query_applySingle]
    rw [ih (q := q.recordAll _) ⟨hq.catalog, hq.subject⟩ hs]
    exact mapQuery_andThen fun n q => rfl

/-- What a call adds does not depend on the settings of the query, if these resolve relations. -/
theorem apply_under {filters options source : Value} (hq : q.Over x)
    (hs : x.ResolvesAll q.settings) (ht : x.ResolvesAll t) :
    x.apply filters options source (q.under t) =
      (x.apply filters options source q).mapQuery (under t) := by
  refine mapQuery_andThen_of (x := aside q (x.prepare filters options source)) fun prepared => ?_
  cases prepared with
  | none => rfl
  | some prepared =>
    obtain ⟨specs, config⟩ := prepared
    show (x.applyFilters config specs (q.under t)).andThen _ = _
    rw [applyFilters_under hq hs ht]
    exact mapQuery_andThen fun n q => rfl

/-- Queries over an entity under any two settings get the same conditions, also where the settings
of one of them hide relations that the compiler admits. -/
theorem apply_start {q₁ q₂ : ConditionQuery} {s₁ s₂ : Settings} {table : Option String}
    (hstart₁ : ConditionQuery.start x.catalog s₁ x.subject table = .ok q₁)
    (hstart₂ : ConditionQuery.start x.catalog s₂ x.subject table = .ok q₂)
    (h₁ : x.ResolvesAll s₁) (h₂ : x.ResolvesAll s₂) (filters options source : Value) :
    (x.apply filters options source q₁).query.nodes =
        (x.apply filters options source q₂).query.nodes ∧
      (x.apply filters options source q₁).result = (x.apply filters options source q₂).result := by
  have hq : q₁.Over x ∧ q₁.settings = s₁ ∧ q₂ = q₁.under s₂ := by
    cases table with
    | some table =>
      cases hstart₁
      cases hstart₂
      exact ⟨⟨rfl, rfl⟩, rfl, rfl⟩
    | none =>
      obtain ⟨table, htable, rfl⟩ := Outcome.map_eq_ok.mp hstart₁
      obtain ⟨table', htable', rfl⟩ := Outcome.map_eq_ok.mp hstart₂
      rw [htable] at htable'
      cases htable'
      exact ⟨⟨rfl, rfl⟩, rfl, rfl⟩
  obtain ⟨hover, rfl, rfl⟩ := hq
  rw [apply_under hover h₁ h₂]
  exact ⟨rfl, rfl⟩

/-- Settings under which no relation is discovered. -/
def blind : Settings :=
  { discoverRelations := false, excludedRelations := ["vault"] }

theorem safes_declares (h : safes.Declares name r) :
    name = "vault" ∧ r = ⟨"vault", [], 1, .entity "Vault"⟩ := by
  obtain ⟨rs, hrs, hr⟩ := h
  have hsafes : safes.relations = .ok [("vault", ⟨"vault", [], 1, .entity "Vault"⟩)] := by rfl
  rw [hsafes] at hrs
  cases hrs
  have hm := Keyed.mem_of_get? hr
  simpa using hm

/-- No relation leads on from the vaults. -/
theorem safes_route {y : Scope} {names : List String} {column : String}
    {rs : List RelationDescriptor} (h : x.Route names column rs y)
    (hx : x = safes ∨ x = safes.beyond (.entity "Vault")) :
    y = safes ∨ y = safes.beyond (.entity "Vault") := by
  induction h with
  | arrived => exact hx
  | follow hl _ ih =>
    refine ih (Or.inr ?_)
    rcases hx with rfl | rfl
    · obtain ⟨_, rfl⟩ := safes_declares hl.declared
      have hw := hl.related
      cases hw
      rfl
    · have hf := hl.filterable
      cases hf

theorem safes_resolvesAll (h : safes.Resolves t "vault") : safes.ResolvesAll t := by
  intro names name rs y r hroute hd
  rcases safes_route hroute (Or.inl rfl) with rfl | rfl
  · obtain ⟨rfl, _⟩ := safes_declares hd
    exact h
  · obtain ⟨ds, hds, _⟩ := hd
    cases hds

theorem safes_resolves : safes.Resolves {} "vault" :=
  ⟨_, [("vault", ⟨"vault", [], 1, .entity "Vault"⟩)], rfl, by rfl, fun _ => ⟨_, rfl⟩⟩

theorem safes_resolves_blind : safes.Resolves blind "vault" :=
  ⟨_, [], rfl, rfl, fun _ => ⟨_, rfl⟩⟩

theorem apply_blind : (∃ e, safes.catalog.filterable? safes.subject = some e ∧
      safes.catalog.relationsOfEntity blind e = .ok []) ∧
    (safes.apply (.dict [("vault.password", .text "x")]) .null .null
      (allSafes.under blind)).query.nodes =
        [.has "vault" [.leaf ⟨.text "vaults.password", .compare .eq, .text "x"⟩]] := by
  have hrun : (safes.applyFilters {} [vaultPassword] allSafes).result = .ok 1 ∧
      (safes.applyFilters {} [vaultPassword] allSafes).query.nodes =
        [.has "vault" [.leaf ⟨.text "vaults.password", .compare .eq, .text "x"⟩]] := by
    obtain ⟨hresult, hquery⟩ := applySingle_vaultPassword
    rw [applyFilters, andThen_of_ok _ hresult, hquery]
    exact ⟨rfl, rfl⟩
  have hstart : ConditionQuery.start safes.catalog {} safes.subject (some "safes") =
      .ok allSafes := rfl
  have hblind : ConditionQuery.start safes.catalog blind safes.subject (some "safes") =
      .ok (allSafes.under blind) := rfl
  have hsame := (apply_start hstart hblind (safes_resolvesAll safes_resolves)
    (safes_resolvesAll safes_resolves_blind)
    (.dict [("vault.password", .text "x")]) .null .null).1
  refine ⟨⟨_, rfl, rfl⟩, ?_⟩
  rw [← hsame, apply, andThen_of_ok _ safes_prepare]
  dsimp only [aside_query]
  rw [andThen_of_ok _ hrun.1]
  exact hrun.2

end Scope

end QueryFilter
