import QueryFilter.Condition
import QueryFilter.Proofs.Call
import QueryFilter.Proofs.Canonical
import QueryFilter.Proofs.Outcome

/-! Filters that are read from the parameters of a request act as the same filters given
directly. A parameter is coerced when it is read and once more when it is applied; the second time
makes of it what it would have made of the raw value. -/

namespace QueryFilter

open Building Traced

/-- Specifications that differ at most in values that are coerced alike. -/
structure FilterSpec.Alike (delimiter : Value) (s s' : FilterSpec) : Prop where
  field : s.field = s'.field
  operator : s.operator = s'.operator
  type : s.type = s'.type
  empty : s.isEmpty = s'.isEmpty
  coerced : coerce s.typeTag s.operatorTag delimiter s.value =
    coerce s'.typeTag s'.operatorTag delimiter s'.value

namespace Scope

variable {Q : Type} [Backend Q] {x : Scope} {config : FilterConfig} {s s' : FilterSpec}

theorem applyPredicate_alike (h : s.Alike (.text x.settings.arrayDelimiter) s') (column : String)
    (q : Q) : x.applyPredicate config s column q = x.applyPredicate config s' column q := by
  simp only [applyPredicate, announce, h.coerced, h.operator]

theorem applyLocal_alike (h : s.Alike (.text x.settings.arrayDelimiter) s') (field : String)
    (q : Q) : x.applyLocal config s field q = x.applyLocal config s' field q := by
  simp only [applyLocal, applyPredicate_alike h]

theorem applyFallback_alike (h : s.Alike (.text x.settings.arrayDelimiter) s')
    (parts : List String) (q : Q) :
    x.applyFallback config s parts q = x.applyFallback config s' parts q := by
  unfold applyFallback
  split
  · simp only [applyPredicate_alike h]
  · rfl

theorem applyPath_alike (h : s.Alike (.text x.settings.arrayDelimiter) s') (parts : List String)
    (q : Q) : x.applyPath config s parts q = x.applyPath config s' parts q := by
  induction parts generalizing x config q with
  | nil => rfl
  | cons name parts ih =>
    cases parts with
    | nil => exact applyLocal_alike h name q
    | cons next rest =>
      have hbeyond : ∀ w : Value, s.Alike (.text (x.beyond w).settings.arrayDelimiter) s' :=
        fun _ => h
      simp only [applyPath, ih (hbeyond _), applyFallback_alike (hbeyond _)]

theorem applySingle_alike (h : s.Alike (.text x.settings.arrayDelimiter) s') (q : Q) :
    x.applySingle config s q = x.applySingle config s' q := by
  have hpath : s.isPath = s'.isPath := congrArg Text.hasDot h.field
  rw [applySingle, applySingle, h.empty, hpath, h.field, applyPath_alike h, applyLocal_alike h]

theorem applyFilters_alike {ss ss' : List FilterSpec}
    (h : List.Forall₂ (FilterSpec.Alike (.text x.settings.arrayDelimiter)) ss ss') (q : Q) :
    x.applyFilters config ss q = x.applyFilters config ss' q := by
  induction h generalizing q with
  | nil => rfl
  | cons hs _ ih => simp only [applyFilters, applySingle_alike hs, ih]

end Scope

/-- The filters that the parameters of a request ask for, as they are given directly: one for each
field whose parameter is there, under the operator and type of the field. -/
def presentFilters (fields : Keyed FieldDescriptor) (opening : String) (source : Keyed Value) :
    Keyed Value :=
  (fields.filter fun e => !(Value.entry source (opening ++ e.1)).isBlank).map fun e =>
    (e.1, .dict [("value", Value.entry source (opening ++ e.1)),
      ("operator", .operator e.2.operator), ("type", .type e.2.type)])

theorem allowanceTags_allowance (f : FieldDescriptor) :
    allowanceTags f.allowance = .ok (.text f.operator.symbol, .text f.type.symbol) := by
  have ho : (Value.text f.operator.symbol).isTrue = true := by
    simp [Value.isTrue, f.operator.symbol_ne]
  have ht : (Value.text f.type.symbol).isTrue = true := by simp [Value.isTrue, f.type.symbol_ne]
  show Except.ok (if (Value.text f.operator.symbol).isTrue then _ else _,
    if (Value.text f.type.symbol).isTrue then _ else _) = _
  rw [if_pos ho, if_pos ht]
  rfl

theorem readFilter_of_blank {source : Keyed Value} {opening name : String}
    (h : (Value.entry source (opening ++ name)).isBlank = true) (delimiter allowance : Value) :
    readFilter (.dict source) opening delimiter name allowance = .ok none := by
  show (if (Value.entry source (opening ++ name)).isBlank then _ else _) = _
  rw [if_pos h]
  rfl

theorem readFilter_of_present {source : Keyed Value} {opening name : String} {delimiter w : Value}
    {f : FieldDescriptor} (h : (Value.entry source (opening ++ name)).isBlank = false)
    (hw : coerce (some f.type) none delimiter (Value.entry source (opening ++ name)) = .ok w) :
    readFilter (.dict source) opening delimiter name f.allowance =
      .ok (some ⟨name, w, f.operator.symbol, f.type.symbol⟩) := by
  have htype : FieldType.ofValue? (.text f.type.symbol) = some f.type := by
    rw [FieldType.ofValue?, Value.asText?, Option.bind_some, f.type.parse?_symbol]
  refine Outcome.bind_eq_ok.mpr ⟨_, rfl, ?_⟩
  rw [h, if_neg Bool.false_ne_true]
  refine Outcome.bind_eq_ok.mpr ⟨_, allowanceTags_allowance f, ?_⟩
  refine Outcome.bind_eq_ok.mpr ⟨w, by rw [htype, hw], ?_⟩
  have ho := FilterSpec.tagName_text "=" f.operator.symbol_ne
  have ht := FilterSpec.tagName_text "string" f.type.symbol_ne
  exact Outcome.bind_eq_ok.mpr ⟨_, FilterSpec.named_eq_ok.mpr ⟨rfl, rfl, ho, ht⟩, rfl⟩

theorem ofValue_present (name : String) (v : Value) (f : FieldDescriptor) :
    FilterSpec.ofValue name
      (.dict [("value", v), ("operator", .operator f.operator), ("type", .type f.type)]) =
        .ok ⟨name, v, f.operator.symbol, f.type.symbol⟩ :=
  FilterSpec.named_eq_ok.mpr
    ⟨rfl, rfl, FilterSpec.tagName_operator _ f.operator, FilterSpec.tagName_type _ f.type⟩

theorem alike_coerced (name : String) {delimiter v w : Value} {f : FieldDescriptor}
    (hv : v.isBlank = false) (hw : coerce (some f.type) none delimiter v = .ok w) :
    FilterSpec.Alike delimiter ⟨name, w, f.operator.symbol, f.type.symbol⟩
      ⟨name, v, f.operator.symbol, f.type.symbol⟩ := by
  have hblank := isBlank_coerce hw hv
  have htype : ∀ u,
      (FilterSpec.mk name u f.operator.symbol f.type.symbol).typeTag = some f.type := by
    intro u
    rw [FilterSpec.typeTag, f.type.parse?_symbol]
  refine ⟨rfl, rfl, rfl, hblank.trans hv.symm, ?_⟩
  rw [htype, htype, ← coerce_twice (some f.type) _ delimiter v, hw]
  rfl

/-- The specifications read from a request are, up to coercion, those of its present filters. -/
theorem readSource_allowances {fields : Keyed FieldDescriptor} {source : Keyed Value}
    {opening : String} {delimiter : Value}
    (h : ∀ e ∈ fields, (Value.entry source (opening ++ e.1)).isBlank = false →
      ∃ w, coerce (some e.2.type) none delimiter (Value.entry source (opening ++ e.1)) = .ok w) :
    ∃ specs specs', readSource (allowances fields) (.dict source) opening delimiter = .ok specs ∧
      FilterSpec.ofEntries (presentFilters fields opening source) = .ok specs' ∧
      List.Forall₂ (fun e e' => FilterSpec.Alike delimiter e.2 e'.2) specs specs' := by
  suffices hs : ∃ (found : List (Option FilterSpec)) (specs' : Keyed FilterSpec),
      (fields.map fun f => (f.1, f.2.allowance)).mapM
        (fun e => readFilter (.dict source) opening delimiter e.1 e.2) = .ok found ∧
      List.Forall₂ (fun e s => s.1 = e.1 ∧ FilterSpec.ofValue e.1 e.2 = .ok s.2)
        (presentFilters fields opening source) specs' ∧
      List.Forall₂ (fun e e' => FilterSpec.Alike delimiter e.2 e'.2)
        (found.filterMap fun s => s.map fun s => (s.field, s)) specs' by
    obtain ⟨found, specs', hfound, hspecs', halike⟩ := hs
    exact ⟨_, specs', Outcome.bind_eq_ok.mpr ⟨found, hfound, rfl⟩,
      FilterSpec.ofEntries_eq_ok.mpr hspecs', halike⟩
  induction fields with
  | nil => exact ⟨[], [], rfl, .nil, .nil⟩
  | cons e fields ih =>
    obtain ⟨found, specs', hfound, hspecs', halike⟩ :=
      ih fun e he => h e (List.mem_cons_of_mem _ he)
    rw [List.map_cons, List.mapM_cons]
    by_cases hb : (Value.entry source (opening ++ e.1)).isBlank = true
    · refine ⟨none :: found, specs', ?_, ?_, halike⟩
      · rw [readFilter_of_blank hb]
        exact Outcome.bind_eq_ok.mpr ⟨_, rfl, Outcome.bind_eq_ok.mpr ⟨found, hfound, rfl⟩⟩
      · simpa [presentFilters, hb] using hspecs'
    · have hv : (Value.entry source (opening ++ e.1)).isBlank = false := by simpa using hb
      obtain ⟨w, hw⟩ := h e List.mem_cons_self hv
      refine ⟨some ⟨e.1, w, e.2.operator.symbol, e.2.type.symbol⟩ :: found,
        (e.1, ⟨e.1, Value.entry source (opening ++ e.1), e.2.operator.symbol, e.2.type.symbol⟩) ::
          specs', ?_, ?_, .cons (alike_coerced e.1 hv hw) halike⟩
      · rw [readFilter_of_present hv hw]
        exact Outcome.bind_eq_ok.mpr ⟨_, rfl, Outcome.bind_eq_ok.mpr ⟨found, hfound, rfl⟩⟩
      · rw [presentFilters, List.filter_cons_of_pos (by simpa using hv), List.map_cons]
        exact .cons ⟨rfl, ofValue_present e.1 _ e.2⟩ hspecs'

namespace Scope

variable {Q : Type} [Backend Q] {x : Scope}

theorem limited_alike {R : String × FilterSpec → String × FilterSpec → Prop}
    {specs specs' : Keyed FilterSpec} (h : List.Forall₂ R specs specs') :
    ∃ lines cut cut', x.limited specs = ⟨lines, .ok cut⟩ ∧ x.limited specs' = ⟨lines, .ok cut'⟩ ∧
      List.Forall₂ R cut cut' := by
  unfold limited
  rw [h.length_eq]
  by_cases hl : x.settings.maxFilters ≤ 0 ∨ specs'.length ≤ x.settings.maxFilters.toNat
  · simp only [hl, if_true]
    exact ⟨[], specs, specs', rfl, rfl, h⟩
  · simp only [hl, if_false]
    exact ⟨_, _, _, rfl, rfl, List.forall₂_take _ h⟩

theorem applySpecs_alike {specs specs' : Keyed FilterSpec}
    (h : List.Forall₂
      (fun e e' => FilterSpec.Alike (.text x.settings.arrayDelimiter) e.2 e'.2) specs specs')
    (options : Value) (q : Q) : x.applySpecs options specs q = x.applySpecs options specs' q := by
  obtain ⟨lines, cut, cut', hcut, hcut', hcuts⟩ := limited_alike (x := x) h
  have hmap : List.Forall₂ (FilterSpec.Alike (.text x.settings.arrayDelimiter))
      (cut.map Prod.snd) (cut'.map Prod.snd) := by
    simpa using hcuts
  unfold applySpecs
  rw [hcut, hcut', andThen_of_ok (x := aside q ⟨lines, .ok cut⟩) _ rfl,
    andThen_of_ok (x := aside q ⟨lines, .ok cut'⟩) _ rfl]
  simp only [applyFilters_alike hmap, hmap.length_eq]
  rfl

theorem apply_alike {filters filters' source source' : Value} {specs specs' : Keyed FilterSpec}
    (h : x.resolveFilters filters source = .ok specs)
    (h' : x.resolveFilters filters' source' = .ok specs')
    (halike : List.Forall₂
      (fun e e' => FilterSpec.Alike (.text x.settings.arrayDelimiter) e.2 e'.2) specs specs')
    (options : Value) (q : Q) :
    x.apply filters options source q = x.apply filters' options source' q := by
  by_cases hs : x.settings.enabled = true
  · have hempty : specs.isEmpty = specs'.isEmpty := by
      cases halike <;> rfl
    rw [apply_of_resolved hs h, apply_of_resolved hs h', hempty, applySpecs_alike halike]
  · have hoff : x.settings.enabled = false := by simpa using hs
    rw [apply_of_disabled hoff, apply_of_disabled hoff]

theorem resolveFilters_given (x : Scope) (entries : Keyed Value) :
    x.resolveFilters (.dict entries) .null =
      FilterSpec.ofEntries entries := by
  cases entries with
  | nil => rfl
  | cons e entries => rfl

theorem resolveFilters_source {fields : Keyed FieldDescriptor} (hfields : x.fields = .ok fields)
    (source : Keyed Value) : x.resolveFilters .null (.dict source) =
      readSource (allowances fields) (.dict source) x.settings.requestPrefix
        (.text x.settings.arrayDelimiter) := by
  show x.fields >>= _ = _
  rw [hfields]
  rfl

/-- A call with the parameters of a request does what a call with its present filters does. Other
parameters play no part. -/
theorem apply_source {fields : Keyed FieldDescriptor} (hfields : x.fields = .ok fields)
    {source : Keyed Value}
    (hcoerce : ∀ e ∈ fields,
      (Value.entry source (x.settings.requestPrefix ++ e.1)).isBlank = false →
      ∃ w, coerce (some e.2.type) none (.text x.settings.arrayDelimiter)
        (Value.entry source (x.settings.requestPrefix ++ e.1)) = .ok w)
    (options : Value) (q : Q) :
    x.apply .null options (.dict source) q =
        x.apply (.dict (presentFilters fields x.settings.requestPrefix source)) options .null q ∧
      ∀ source' : Keyed Value, (∀ e ∈ fields,
          Value.entry source' (x.settings.requestPrefix ++ e.1) =
            Value.entry source (x.settings.requestPrefix ++ e.1)) →
        x.apply .null options (.dict source') q = x.apply .null options (.dict source) q := by
  have hdirect : ∀ {source : Keyed Value}, (∀ e ∈ fields,
      (Value.entry source (x.settings.requestPrefix ++ e.1)).isBlank = false →
      ∃ w, coerce (some e.2.type) none (.text x.settings.arrayDelimiter)
        (Value.entry source (x.settings.requestPrefix ++ e.1)) = .ok w) →
      x.apply .null options (.dict source) q =
        x.apply (.dict (presentFilters fields x.settings.requestPrefix source)) options .null
          q := by
    intro source h
    obtain ⟨specs, specs', hspecs, hspecs', halike⟩ := readSource_allowances h
    rw [← resolveFilters_source hfields] at hspecs
    rw [← x.resolveFilters_given] at hspecs'
    exact apply_alike hspecs hspecs' halike options q
  refine ⟨hdirect hcoerce, fun source' hsame => ?_⟩
  have hpresent : presentFilters fields x.settings.requestPrefix source' =
      presentFilters fields x.settings.requestPrefix source := by
    unfold presentFilters
    rw [List.filter_congr fun e he => by rw [hsame e he]]
    refine List.map_congr_left fun e he => ?_
    rw [hsame e (List.mem_of_mem_filter he)]
  rw [hdirect hcoerce, hdirect fun e he hb => ?_, hpresent]
  rw [hsame e he] at hb ⊢
  exact hcoerce e he hb

def posts : Scope where
  catalog := {
    entities := [{
      name := "Post", table := some "posts"
      fields := some (.dict [("title", .field "title" .string .like),
        ("views", .field "views" .integer .eq)]) }] }
  settings := { requestPrefix := "f_" }
  subject := .entity "Post"

def postFields : Keyed FieldDescriptor :=
  [("title", ⟨"title", .string, .like⟩), ("views", ⟨"views", .integer, .eq⟩)]

def postParameters : Keyed Value :=
  [("f_views", .text "12"), ("page", .int 3), ("f_title", .text "news")]

def allPosts : ConditionQuery :=
  ⟨posts.catalog, {}, posts.subject, "posts", []⟩

theorem apply_postParameters : posts.apply .null .null (.dict postParameters) allPosts =
    posts.apply (.dict [
      ("title", .dict
        [("value", .text "news"), ("operator", .operator .like), ("type", .type .string)]),
      ("views", .dict
        [("value", .text "12"), ("operator", .operator .eq), ("type", .type .integer)])])
      .null .null allPosts := by
  have hfields : posts.fields = .ok postFields := by rfl
  refine (apply_source hfields (fun e he _ => ?_) .null allPosts).1
  simp only [postFields, List.mem_cons, List.not_mem_nil, or_false] at he
  rcases he with rfl | rfl
  · exact ⟨.text "news", rfl⟩
  · exact ⟨.int 12, by rfl⟩

end Scope

end QueryFilter
