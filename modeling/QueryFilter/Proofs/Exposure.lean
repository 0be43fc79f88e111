import QueryFilter.Proofs.Failure

/-! Columns that can be reached behind a derived relation to an entity without declarations. They
are the ones that derivation makes filterable, as long as there are any; behind a relation to a
table with none of them every column can be reached, since no allowed fields are all fields. -/

namespace QueryFilter

open Building Traced

namespace Catalog

/-- A column that derivation makes filterable. -/
structure Exposes (c : Catalog) (s : Settings) (table column : String) : Prop where
  listed : column ∈ c.columns table
  notExcluded : column ∉ s.excludedFields
  notSensitive : Column.isSensitive column = false

theorem mem_keys_derivedFields {c : Catalog} {s : Settings} {table column : String} :
    column ∈ (c.derivedFields s table).keys ↔ c.Exposes s table column := by
  rw [derivedFields, Introspector.keys_derivedFields, List.mem_eraseDups, Column.filterable,
    List.mem_filter]
  show column ∈ c.columns table ∧ _ ↔ _
  constructor
  · rintro ⟨hlisted, h⟩
    simp only [Bool.and_eq_true, Bool.not_eq_true', List.contains_eq_mem,
      decide_eq_false_iff_not] at h
    exact ⟨hlisted, h.1, h.2⟩
  · rintro ⟨hlisted, hexcluded, hsensitive⟩
    simp [hlisted, hexcluded, hsensitive]

end Catalog

namespace Scope

/-- A relation that is derived from the columns of an entity's table, to an entity without
declarations. -/
structure Discovers (x : Scope) (name : String) (r : RelationDescriptor) (table : String) :
    Prop where
  undeclared : ∃ e, x.catalog.filterable? x.subject = some e ∧
    e.relations.filter (!·.isNull) = none
  found : ∃ rs, x.relations = .ok rs ∧ rs.get? name = some r
  plain : x.catalog.isFilterable r.related = false
  backed : x.catalog.tableOf r.related = .ok table

variable {x : Scope} {config : FilterConfig} {q : ConditionQuery} {name column table : String}
  {r : RelationDescriptor}

theorem Discovers.derived (h : x.Discovers name r table) :
    ∃ e, Catalog.Derived x.catalog x.settings (.entity e) r := by
  obtain ⟨e, he, hnone⟩ := h.undeclared
  obtain ⟨rs, hrs, hr⟩ := h.found
  obtain ⟨e', he', hrs⟩ := relations_eq_ok hrs
  rw [he] at he'
  cases he'
  rcases Catalog.relations_cases hrs with ⟨d, hd, _⟩ | ⟨_, hderived⟩
  · rw [hnone] at hd
    cases hd
  · exact ⟨e.name, (hderived hr).2⟩

theorem Discovers.allowed_eq (h : x.Discovers name r table) :
    r.allowed = (x.catalog.derivedFields x.settings table).keys := by
  obtain ⟨e, hderived⟩ := h.derived
  have hlisted := hderived.listed
  have hnone : x.catalog.filterable? r.related = none := by
    cases hf : x.catalog.filterable? r.related with
    | none => rfl
    | some e =>
      have hplain := h.plain
      rw [Catalog.isFilterable_iff.mpr ⟨e, hf⟩] at hplain
      cases hplain
  rw [Catalog.fieldNames, Introspector.fieldNames, Catalog.ownFields, hnone] at hlisted
  obtain ⟨table', htable', hkeys⟩ := Outcome.bind_eq_ok.mp hlisted
  cases h.backed.symm.trans htable'
  exact (Except.ok.inj hkeys).symm

/-- Behind a derived relation the depth of one suffices, and the checks let an exposed column
pass, or any column when none is exposed. -/
theorem Discovers.admitted_iff (h : x.Discovers name r table) :
    (∃ rs y, x.Admitted config [name] column rs y) ↔ 0 < config.maxDepth ∧ column ≠ "" ∧
      (x.catalog.Exposes x.settings table column ∨
        ∀ c, ¬ x.catalog.Exposes x.settings table c) := by
  have hallowed : (r.allowed = [] ∨ column ∈ r.allowed) ↔
      x.catalog.Exposes x.settings table column ∨
        ∀ c, ¬ x.catalog.Exposes x.settings table c := by
    rw [h.allowed_eq, List.eq_nil_iff_forall_not_mem, or_comm]
    simp only [Catalog.mem_keys_derivedFields]
  rw [← hallowed]
  obtain ⟨declared, hdeclared, hget⟩ := h.found
  obtain ⟨e, hderived⟩ := h.derived
  constructor
  · rintro ⟨rs, y, hadm⟩
    have hdepth := hadm.depth
    refine ⟨hdepth, hadm.named, ?_⟩
    cases hadm.route with
    | follow hleads _ =>
      obtain ⟨declared', hdeclared', hget'⟩ := hleads.declared
      rw [hdeclared] at hdeclared'
      cases hdeclared'
      rw [hget] at hget'
      cases hget'
      exact hleads.allowed
  · rintro ⟨hdepth, hnamed, hpasses⟩
    obtain ⟨e', he', _⟩ := relations_eq_ok hdeclared
    have hleads : x.Leads name column r r.related :=
      ⟨Catalog.isFilterable_iff.mpr ⟨e', he'⟩, ⟨declared, hdeclared, hget⟩, hpasses,
        hderived.relatedFor⟩
    refine ⟨[r], x.beyond r.related, .follow hleads (.arrived _ _), hnamed, ?_, hdepth, ?_⟩
    · intro hf
      exact absurd (h.plain.symm.trans hf) (by simp)
    · intro j hj
      have hj0 : j = 0 := by simpa using hj
      subst hj0
      simp [hderived.maxDepth]

/-- What a call adds for filters on the columns behind a derived relation to an entity without
declarations: a filter becomes a predicate if its column is exposed, but also if no column of the
table is, whatever its column is then. -/
theorem apply_discovered (hq : q.Over x) (h : x.Discovers name r table) (hname : IsPart name)
    (hcolumn : IsPart column) {filters options source : Value} {specs : List FilterSpec}
    (hprepare : (x.prepare filters options source).result = .ok (some (specs, config)))
    (hdeep : config.deep = true) :
    (∃ ended, ended <+: specs ∧
      (x.apply filters options source q).query =
        q.recordAll (ended.flatMap (x.contribution config q)) ∧
      ((x.apply filters options source q).result = .ok () → ended = specs)) ∧
    ∀ spec ∈ specs, spec.field = joinParts [name, column] →
      (x.contribution config q spec ≠ [] ↔ x.Succeeds config q spec ∧ spec.isEmpty = false ∧
        (∃ test operand, x.Accepts config spec test operand) ∧
        0 < config.maxDepth ∧ column ≠ "" ∧
        (x.catalog.Exposes x.settings table column ∨
          ∀ c, ¬ x.catalog.Exposes x.settings table c)) := by
  constructor
  · obtain ⟨ended, hprefix, hquery, hended⟩ := x.query_applyFilters config specs q
    refine ⟨ended, hprefix, ?_, fun hok => ?_⟩
    · rw [apply, andThen_of_ok _ hprepare]
      dsimp only [aside_query]
      cases hrun : (x.applyFilters config specs q).result with
      | ok n =>
        rw [andThen_of_ok _ hrun]
        exact hquery
      | error e =>
        rw [andThen_of_error _ hrun]
        exact hquery
    · obtain ⟨prepared, hprepared, hok⟩ := andThen_eq_ok.mp hok
      rw [aside_result, hprepare] at hprepared
      cases hprepared
      obtain ⟨n, hn, _⟩ := andThen_eq_ok.mp hok
      exact hended n hn
  · intro spec _ hfield
    have hq' : q.cleared.Over x := ⟨hq.catalog, hq.subject⟩
    have hp : ∀ p ∈ [name] ++ [column], IsPart p := by simp [hname, hcolumn]
    rw [contribution_ne_nil_iff, ← h.admitted_iff]
    constructor
    · intro htrue
      have hvalue : spec.isEmpty = false := by
        cases he : spec.isEmpty with
        | false => rfl
        | true =>
          simp only [applySingle, he, if_true] at htrue
          cases htrue
      obtain ⟨hadm, hacc⟩ := admitted_of_eq_true hq' (by simp) hp hfield hvalue hdeep htrue
      exact ⟨⟨true, htrue⟩, hvalue, hacc, hadm⟩
    · rintro ⟨⟨b, hb⟩, hvalue, ⟨test, operand, hacc⟩, rs, y, hadm⟩
      have hd : Decided (x.applySingle config spec q.cleared).result := by
        rw [hb]
        exact decided_ok b
      exact (query_of_admitted hq' (by simp) hp hfield hvalue hdeep hd hadm hacc).1

/-- Safes, each with a vault. Vaults declare nothing, and their only columns are a key and a
password. -/
def safes : Scope where
  catalog := {
    tables := [("safes", [("id", "integer"), ("vault_id", "integer")]),
      ("vaults", [("id", "integer"), ("password", "varchar")])]
    entities := [
      { name := "Safe", table := some "safes",
        links := [{ relation := "vault", target := "Vault" }] },
      { name := "Vault", filterable := false, table := some "vaults" }] }
  settings := {}
  subject := .entity "Safe"

def allSafes : ConditionQuery :=
  ⟨safes.catalog, {}, safes.subject, "safes", []⟩

def vaultPassword : FilterSpec :=
  { field := "vault.password", value := .text "x" }

theorem safes_prepare : (safes.prepare (.dict [("vault.password", .text "x")]) .null .null).result =
    .ok (some ([vaultPassword], {})) := rfl

theorem safes_discovers : safes.Discovers "vault" ⟨"vault", [], 1, .entity "Vault"⟩ "vaults" where
  undeclared := ⟨_, rfl, rfl⟩
  found := ⟨_, by rfl, by rfl⟩
  plain := by decide
  backed := rfl

theorem vaultPassword_accepts :
    safes.Accepts {} vaultPassword (.compare .eq) (.text "x") := by
  have ht : vaultPassword.typeTag = some .string := FieldType.parse?_symbol .string
  have ho : vaultPassword.operatorTag = some .eq := Operator.parse?_symbol .eq
  refine ⟨.text "x", .eq, .text "x", ?_, ho, rfl, rfl⟩
  rw [ht, ho]
  rfl

theorem applySingle_vaultPassword :
    (safes.applySingle {} vaultPassword allSafes).result = .ok true ∧
      (safes.applySingle {} vaultPassword allSafes).query = allSafes.record
        (.has "vault" [.leaf ⟨.text "vaults.password", .compare .eq, .text "x"⟩]) := by
  let vaults : ConditionQuery := ⟨safes.catalog, {}, .entity "Vault", "vaults", []⟩
  have hrun : safes.applySingle {} vaultPassword allSafes = takingUp allSafes "vault"
      (safes.applyPredicate { maxDepth := 0 } vaultPassword "vaults.password" vaults) := rfl
  have hh := applyPredicate_of_accepts vaults "vaults.password" vaultPassword_accepts
  rw [hrun, result_takingUp]
  exact ⟨hh.1, query_takingUp rfl hh.1 hh.2⟩

theorem safes_not_exposes (column : String) :
    ¬ safes.catalog.Exposes safes.settings "vaults" column := by
  rw [← Catalog.mem_keys_derivedFields]
  have hnone : (safes.catalog.derivedFields safes.settings "vaults").keys = [] := by rfl
  simp [hnone]

/-- The password of a vault is added on the strength of there being no column to protect. -/
theorem safes_contribution_ne_nil : safes.contribution {} allSafes vaultPassword ≠ [] := by
  have hname : IsPart "vault" := by decide
  have hcolumn : IsPart "password" := by decide
  have hh := (apply_discovered (q := allSafes) ⟨rfl, rfl⟩ safes_discovers hname hcolumn
    safes_prepare rfl).2 vaultPassword List.mem_cons_self rfl
  exact hh.mpr ⟨⟨true, applySingle_vaultPassword.1⟩, rfl, ⟨_, _, vaultPassword_accepts⟩,
    by decide, by decide, Or.inr safes_not_exposes⟩

/-- Derivation protects the passwords of vaults, and still a filter on them is applied. -/
theorem vault_password_applied :
    (safes.apply (.dict [("vault.password", .text "x")]) .null .null allSafes).query =
      allSafes.record (.has "vault" [.leaf ⟨.text "vaults.password", .compare .eq, .text "x"⟩]) ∧
    ¬ safes.catalog.Exposes safes.settings "vaults" "password" := by
  refine ⟨?_, safes_not_exposes "password"⟩
  have hh := applySingle_vaultPassword
  have hrun : (safes.applyFilters {} [vaultPassword] allSafes).result = .ok 1 := by
    rw [applyFilters, andThen_of_ok _ hh.1]
    rfl
  rw [apply, andThen_of_ok _ safes_prepare]
  dsimp only [aside_query]
  rw [andThen_of_ok _ hrun]
  show (safes.applyFilters {} [vaultPassword] allSafes).query = _
  rw [applyFilters, andThen_of_ok _ hh.1]
  exact hh.2

end Scope

end QueryFilter
