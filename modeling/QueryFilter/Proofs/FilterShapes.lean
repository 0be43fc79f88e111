import QueryFilter.Application
import QueryFilter.Proofs.Coercible
import QueryFilter.Proofs.LeadingInteger
import QueryFilter.Proofs.Route

/-! The shapes of a filter: a specification, a mapping with a value, an operator and a type, or the
bare value. Whatever shape a filter comes in, its specification can stand for it, in any of the
shapes that can tell as much. Only a mapping whose operator or type has no name is no filter. -/

namespace QueryFilter

theorem Binary64.finiteText_ne_nil (exponent : Fin 2047) (fraction : Fin fractionCount) :
    finiteText exponent fraction ≠ [] := by
  have hpositional : ∀ (ds : List Char) (k : Int), positional ds k ≠ [] := by
    intro ds k
    unfold positional
    split
    · simp
    · dsimp only
      split <;> simp
  unfold finiteText
  split
  · simp
  · dsimp only
    split
    · exact hpositional _ _
    · simp [scientific, exponentText]

theorem Binary64.text_ne_empty (x : Binary64) : x.text ≠ "" := by
  cases x with
  | nan => decide
  | infinity s => cases s <;> decide
  | finite s e f =>
    intro h
    rw [text, String.ofList_eq_empty_iff] at h
    exact finiteText_ne_nil e f (List.append_eq_nil_iff.mp h).2

namespace Value

/-- No value but the empty text is written as nothing. -/
theorem display_ne_empty {v : Value} (ht : ∀ s, v ≠ .text s) : v.display ≠ "" := by
  by_cases hn : ∃ n, v = .int n
  · obtain ⟨n, rfl⟩ := hn
    obtain ⟨sign, _, hlist, _⟩ := toList_display_int n
    intro hempty
    rw [hempty] at hlist
    exact Nat.toDigits_ne_nil (List.append_eq_nil_iff.mp hlist.symm).2
  by_cases hx : ∃ x, v = .float x
  · obtain ⟨x, rfl⟩ := hx
    exact x.text_ne_empty
  rcases display_begins ht (not_exists.mp hn) (not_exists.mp hx) with ⟨c, _, cs, h⟩ | ⟨d, rest, h⟩
  · intro hempty
    rw [hempty] at h
    cases h
  · rw [h, ne_eq, String.ofList_eq_empty_iff]
    simp [Calendar.Date.isoChars]

/-- Values that stand for themselves in a filter. -/
def IsBare (v : Value) : Prop :=
  (∀ es, v ≠ .dict es) ∧ ∀ field w o t, v ≠ .spec field w o t

/-- The text by which a value names an operator or a type, where absent ones are the default. -/
inductive Names (default : String) : Value → String → Prop
  | null : Names default .null default
  | empty : Names default (.text "") default
  | text {s : String} (h : s ≠ "") : Names default (.text s) s
  | member {v w : Value} {s : String} (hm : v.memberValue? = some w) (hw : Check.text w = .ok s) :
    Names default v s
  | other {v : Value} {s : String} (hn : v ≠ .null) (ht : v.isText = false)
    (hm : v.memberValue? = none) (h : v.written = .ok s) : Names default v s

/-- Values that name nothing: members of an enumeration whose value is no text, and what cannot be
written. -/
inductive Nameless : Value → Prop
  | member {v w : Value} {reason : String} (hm : v.memberValue? = some w)
    (hw : Check.text w = .error reason) : Nameless v
  | unwritten {v : Value} (hm : v.memberValue? = none) (hw : v.isWritable = false) : Nameless v

variable {v w : Value} {default s : String}

theorem isBlank_of_memberValue? (h : v.memberValue? = some w) : v.isBlank = false := by
  cases v with
  | operator o => simp [isBlank, isNull, asText?, o.symbol_ne]
  | type t => simp [isBlank, isNull, asText?, t.symbol_ne]
  | member e n v => rfl
  | _ => cases h

theorem tagName_member (h : v.memberValue? = some w) :
    FilterSpec.tagName default v = Check.text w := by
  simp [FilterSpec.tagName, isBlank_of_memberValue? h, h]

theorem tagName_other (hn : v ≠ .null) (ht : v.isText = false) (hm : v.memberValue? = none) :
    FilterSpec.tagName default v =
      if v.isWritable then .ok v.display else .error "value_error" := by
  have hblank : v.isBlank = false := by
    cases v with
    | null => exact absurd rfl hn
    | text => cases ht
    | operator | type => cases hm
    | _ => rfl
  simp [FilterSpec.tagName, hblank, hm]

theorem written_eq_ok : v.written = .ok s ↔ v.isWritable = true ∧ v.display = s := by
  unfold written
  cases v.isWritable <;> simp

theorem tagName_eq_ok : FilterSpec.tagName default v = .ok s ↔ v.Names default s := by
  constructor
  · intro h
    cases hm : v.memberValue? with
    | some w => exact .member hm ((tagName_member hm).symm.trans h)
    | none =>
      by_cases hn : v = .null
      · subst hn
        cases h
        exact .null
      cases ht : v.isText with
      | true =>
        cases v with
        | text s' =>
          by_cases hs : s' = ""
          · subst hs
            cases h
            exact .empty
          · rw [FilterSpec.tagName_text default hs] at h
            cases h
            exact .text hs
        | operator | type => cases hm
        | _ => cases ht
      | false =>
        rw [tagName_other hn ht hm] at h
        refine .other hn ht hm (written_eq_ok.mpr ?_)
        cases hw : v.isWritable with
        | false =>
          rw [hw, if_neg Bool.false_ne_true] at h
          cases h
        | true =>
          rw [hw, if_pos rfl] at h
          exact ⟨rfl, Except.ok.inj h⟩
  · intro h
    cases h with
    | null => rfl
    | empty => rfl
    | text h => exact FilterSpec.tagName_text default h
    | member hm hw => exact (tagName_member hm).trans hw
    | other hn ht hm h =>
      obtain ⟨hw, hs⟩ := written_eq_ok.mp h
      rw [tagName_other hn ht hm, if_pos hw, hs]

theorem Names.unique {s' : String} (h : v.Names default s) (h' : v.Names default s') : s = s' := by
  rw [← tagName_eq_ok] at h h'
  rw [h] at h'
  exact Except.ok.inj h'

theorem tagName_eq_error (default : String) (v : Value) :
    (∃ reason, FilterSpec.tagName default v = .error reason) ↔ v.Nameless := by
  constructor
  · rintro ⟨reason, h⟩
    cases hm : v.memberValue? with
    | some w => exact .member hm ((tagName_member hm).symm.trans h)
    | none =>
      unfold FilterSpec.tagName at h
      rw [hm] at h
      cases hw : v.isWritable with
      | false => exact .unwritten hm hw
      | true => cases hb : v.isBlank <;> simp [hb, hw] at h
  · intro h
    cases h with
    | member hm hw => exact ⟨_, (tagName_member hm).trans hw⟩
    | unwritten hm hw =>
      have hn : v ≠ .null := by
        rintro rfl
        cases hw
      have ht : v.isText = false := by
        cases v with
        | text => cases hw
        | operator | type => cases hm
        | _ => rfl
      exact ⟨_, by rw [tagName_other hn ht hm, hw, if_neg Bool.false_ne_true]⟩

/-- Only a member of an enumeration gives an empty name. -/
theorem Names.eq_empty_iff (h : v.Names default s) (hd : default ≠ "") :
    s = "" ↔ ∃ w, v.memberValue? = some w ∧ Check.text w = .ok "" := by
  constructor
  · intro hs
    cases h with
    | null => exact absurd hs hd
    | empty => exact absurd hs hd
    | text h => exact absurd hs h
    | member hm hw => exact ⟨_, hm, hs ▸ hw⟩
    | other hn ht hm h =>
      obtain ⟨_, hdisplay⟩ := written_eq_ok.mp h
      refine absurd (hdisplay.trans hs) (display_ne_empty ?_)
      rintro s rfl
      cases ht
  · rintro ⟨w, hm, hw⟩
    exact h.unique (.member hm hw)

/-- What gives an empty name to its operator or its type: a specification that has one already, or a
mapping with a member of an enumeration whose value is the empty text. -/
def GivesEmpty (part : String) : Value → Prop
  | .spec _ _ o t => (part = "operator" ∧ o = "") ∨ (part = "type" ∧ t = "")
  | .dict es => ∃ w, (Value.entry es part).memberValue? = some w ∧ Check.text w = .ok ""
  | _ => False

theorem not_givesEmpty_of_isBare (h : v.IsBare) (part : String) : ¬ v.GivesEmpty part := by
  cases v with
  | dict es => exact absurd rfl (h.1 es)
  | spec f w o t => exact absurd rfl (h.2 f w o t)
  | _ => exact id

end Value

namespace FilterSpec

variable {key : String} {v v' : Value} {s : FilterSpec}

/-- The specification under a key, by the shape of what stands there. -/
inductive Normal (key : String) : Value → FilterSpec → Prop
  | spec {field : String} {w : Value} {o t : String} :
    Normal key (.spec field w o t) ⟨key, w, o, t⟩
  | mapping {es : List (String × Value)} {o t : String}
    (ho : (Value.entry es "operator").Names "=" o) (ht : (Value.entry es "type").Names "string" t) :
    Normal key (.dict es) ⟨key, Value.entry es "value", o, t⟩
  | bare {w : Value} (h : w.IsBare) : Normal key w ⟨key, w, "=", "string"⟩

/-- What has no specification: a mapping whose operator or type has no name. -/
inductive Unspecified : Value → Prop
  | operator {es : List (String × Value)} (h : (Value.entry es "operator").Nameless) :
    Unspecified (.dict es)
  | type {es : List (String × Value)} (h : (Value.entry es "type").Nameless) :
    Unspecified (.dict es)

/-- What may stand for a filter instead of it: its specification, under whatever name, a mapping
that tells the same, or the bare value where there is no more to tell. -/
inductive Alternative (v : Value) (s : FilterSpec) : Value → Prop
  | same : Alternative v s v
  | spec (field : String) : Alternative v s (s.withField field).toValue
  | mapping {es : List (String × Value)} (hv : Value.entry es "value" = s.value)
    (ho : Value.entry es "operator" = .text s.operator) (ht : Value.entry es "type" = .text s.type)
    (hone : s.operator ≠ "") (htne : s.type ≠ "") : Alternative v s (.dict es)
  | bare (ho : s.operator = "=") (ht : s.type = "string") (h : s.value.IsBare) :
    Alternative v s s.value

theorem ofValue_of_isBare (h : v.IsBare) : ofValue key v = .ok ⟨key, v, "=", "string"⟩ := by
  cases v with
  | dict es => exact absurd rfl (h.1 es)
  | spec f w o t => exact absurd rfl (h.2 f w o t)
  | _ => rfl

theorem ofValue_eq_ok : ofValue key v = .ok s ↔ Normal key v s := by
  constructor
  · intro h
    by_cases hbare : v.IsBare
    · rw [ofValue_of_isBare hbare] at h
      cases h
      exact .bare hbare
    cases v with
    | dict es =>
      obtain ⟨hfield, hvalue, ho, ht⟩ := named_eq_ok.mp h
      obtain ⟨f, w, o, t⟩ := s
      cases hfield
      cases hvalue
      exact .mapping (Value.tagName_eq_ok.mp ho) (Value.tagName_eq_ok.mp ht)
    | spec f w o t =>
      cases h
      exact .spec
    | _ => exact absurd ⟨by simp, by simp⟩ hbare
  · intro h
    cases h with
    | spec => rfl
    | mapping ho ht =>
      exact named_eq_ok.mpr ⟨rfl, rfl, Value.tagName_eq_ok.mpr ho, Value.tagName_eq_ok.mpr ht⟩
    | bare h => exact ofValue_of_isBare h

theorem named_eq_error {value operator type : Value} :
    (∃ e, named (.ok key) value operator type = .error e) ↔
      operator.Nameless ∨ type.Nameless := by
  rw [← Value.tagName_eq_error "=" operator, ← Value.tagName_eq_error "string" type]
  cases ho : tagName "=" operator <;> cases ht : tagName "string" type <;>
    simp [named, Checked.inPlace, ho, ht]

theorem ofValue_eq_error : (∃ e, ofValue key v = .error e) ↔ Unspecified v := by
  constructor
  · rintro ⟨e, h⟩
    cases v with
    | dict es =>
      rcases named_eq_error.mp ⟨e, h⟩ with ho | ht
      · exact .operator ho
      · exact .type ht
    | _ => cases h
  · intro h
    cases h with
    | operator h => exact named_eq_error.mpr (.inl h)
    | type h => exact named_eq_error.mpr (.inr h)

theorem Normal.field (h : Normal key v s) : s.field = key := by
  cases h <;> rfl

theorem Normal.operator_empty_iff (h : Normal key v s) :
    s.operator = "" ↔ v.GivesEmpty "operator" := by
  cases h with
  | spec => simp [Value.GivesEmpty]
  | mapping ho ht => exact ho.eq_empty_iff (by decide)
  | bare h => simp [Value.not_givesEmpty_of_isBare h]

theorem Normal.type_empty_iff (h : Normal key v s) : s.type = "" ↔ v.GivesEmpty "type" := by
  cases h with
  | spec => simp [Value.GivesEmpty]
  | mapping ho ht => exact ht.eq_empty_iff (by decide)
  | bare h => simp [Value.not_givesEmpty_of_isBare h]

theorem ofValue_alternative (h : Normal key v s) (ha : Alternative v s v') :
    ofValue key v' = .ok s := by
  obtain rfl := h.field
  cases ha with
  | same => exact ofValue_eq_ok.mpr h
  | spec field => exact ofValue_toValue s
  | mapping hv ho ht hone htne =>
    refine named_eq_ok.mpr ⟨rfl, hv.symm, ?_, ?_⟩
    · rw [ho, tagName_text _ hone]
    · rw [ht, tagName_text _ htne]
  | bare ho ht hbare =>
    rw [ofValue_of_isBare hbare]
    obtain ⟨f, w, o, t⟩ := s
    subst ho ht
    rfl

variable {es es' : List (String × Value)} {specs : Keyed FilterSpec}

theorem ofEntries_eq_error : (∃ fault, ofEntries es = .error fault) ↔
    ∃ e ∈ es, Unspecified e.2 := by
  unfold ofEntries
  simp only [Outcome.mapM_eq_error, Outcome.map_eq_error, ofValue_eq_error]

theorem normal_ofEntries (h : ofEntries es = .ok specs) :
    List.Forall₂ (fun e s => s.1 = e.1 ∧ Normal e.1 e.2 s.2) es specs :=
  (ofEntries_eq_ok.mp h).imp fun _ _ hs => ⟨hs.1, ofValue_eq_ok.mp hs.2⟩

theorem ofEntries_alternatives
    (h : List.Forall₂ (fun e s => s.1 = e.1 ∧ Normal e.1 e.2 s.2) es specs)
    (ha : List.Forall₂ (fun p e' => e'.1 = p.1.1 ∧ Alternative p.1.2 p.2.2 e'.2)
      (es.zip specs) es') : ofEntries es' = .ok specs := by
  rw [ofEntries_eq_ok]
  induction h generalizing es' with
  | nil =>
    cases ha
    exact .nil
  | @cons e s es specs hs _ ih =>
    obtain ⟨hkey, hnormal⟩ := hs
    cases ha with
    | @cons _ e' _ es' he htail =>
      obtain ⟨hkey', halternative⟩ := he
      refine .cons ⟨hkey.trans hkey'.symm, ?_⟩ (ih htail)
      rw [hkey']
      exact ofValue_alternative hnormal halternative

theorem ofEntries_toValue (h : ofEntries es = .ok specs) :
    ofEntries (specs.map fun s => (s.1, s.2.toValue)) = .ok specs := by
  have hfield : ∀ s ∈ specs, s.2.field = s.1 := by
    intro s hs
    obtain ⟨e, _, he⟩ := Outcome.mem_of_mapM h hs
    obtain ⟨spec, hspec, rfl⟩ := Outcome.map_eq_ok.mp he
    exact (ofValue_eq_ok.mp hspec).field
  rw [ofEntries_eq_ok, List.forall₂_map_left_iff, List.forall₂_same]
  intro s hs
  refine ⟨rfl, ?_⟩
  rw [← hfield s hs]
  exact ofValue_toValue s.2

end FilterSpec

/-- What a call makes of a mapping it takes from the specifications of its entries. -/
theorem Scope.apply_dict_congr {x : Scope} {es es' : List (String × Value)}
    {specs : Keyed FilterSpec} (h : FilterSpec.ofEntries es = .ok specs)
    (h' : FilterSpec.ofEntries es' = .ok specs) (options source : Value) {Q : Type} [Backend Q]
    (q : Q) : x.apply (.dict es) options source q = x.apply (.dict es') options source q := by
  have htrue : (Value.dict es).isTrue = (Value.dict es').isTrue := by
    have hlength := (FilterSpec.ofEntries_eq_ok.mp h).length_eq
    have hlength' := (FilterSpec.ofEntries_eq_ok.mp h').length_eq
    cases es <;> cases es' <;> first | rfl | (rw [← hlength'] at hlength; cases hlength)
  have hresolve : x.resolveFilters (.dict es) source = x.resolveFilters (.dict es') source := by
    unfold resolveFilters
    rw [htrue, FilterSpec.ofFilters_dict, FilterSpec.ofFilters_dict, h, h']
  unfold apply prepare
  rw [hresolve]

/-- A mapping of filters, whatever their shapes, is normalised unless an operator or a type in it
has no name. It keeps its keys and their order. The specifications are normal themselves, and any of
them, or what tells the same, may stand in the mapping for the filter it came from. A name is empty
only where the filter gives an empty one, and then no mapping tells it. -/
theorem FilterSpec.shapes_interchangeable (es : List (String × Value)) :
    ((∃ fault, ofFilters (.dict es) = .error fault) ↔ ∃ e ∈ es, Unspecified e.2) ∧
    ∀ specs, ofFilters (.dict es) = .ok specs →
      List.Forall₂ (fun e s => s.1 = e.1 ∧ s.2.field = e.1 ∧ Normal e.1 e.2 s.2 ∧
        (s.2.operator = "" ↔ e.2.GivesEmpty "operator") ∧
        (s.2.type = "" ↔ e.2.GivesEmpty "type")) es specs ∧
      ofFilters (.dict (specs.map fun s => (s.1, s.2.toValue))) = .ok specs ∧
      ∀ es', List.Forall₂ (fun p e' => e'.1 = p.1.1 ∧ Alternative p.1.2 p.2.2 e'.2)
          (es.zip specs) es' →
        ofFilters (.dict es') = .ok specs ∧
        ∀ (x : Scope) (options source : Value) (Q : Type) [Backend Q] (q : Q),
          x.apply (.dict es') options source q = x.apply (.dict es) options source q := by
  simp only [ofFilters_dict]
  refine ⟨ofEntries_eq_error, fun specs h => ⟨?_, ofEntries_toValue h, fun es' ha => ?_⟩⟩
  · refine (normal_ofEntries h).imp fun e s hs => ?_
    obtain ⟨hkey, hnormal⟩ := hs
    exact ⟨hkey, hnormal.field, hnormal, hnormal.operator_empty_iff, hnormal.type_empty_iff⟩
  · have hsame := ofEntries_alternatives (normal_ofEntries h) ha
    refine ⟨hsame, fun x options source Q _ q => ?_⟩
    exact Scope.apply_dict_congr hsame h options source q

def comparison : Identifier :=
  ⟨"Comparison", by decide⟩

/-- A specification that was made for another field, two mappings, one of them with a member of an
enumeration, and a bare value. -/
def mixedFilters : List (String × Value) :=
  [("name", .spec "title" (.text "x") "like" "string"), ("parent.name", .text "y"),
    ("parent_id", .dict [("value", .int 7), ("type", .text "")]),
    ("id", .dict [("value", .int 3), ("operator", .member comparison "ABOVE" (.text ">")),
      ("type", .type .integer)])]

/-- The same filters in other shapes. -/
def recastFilters : List (String × Value) :=
  [("name", .dict [("value", .text "x"), ("operator", .text "like"), ("type", .text "string")]),
    ("parent.name", .spec "parent.name" (.text "y") "=" "string"), ("parent_id", .int 7),
    ("id", .spec "id" (.int 3) ">" "integer")]

def mixedSpecs : Keyed FilterSpec :=
  [("name", ⟨"name", .text "x", "like", "string"⟩),
    ("parent.name", ⟨"parent.name", .text "y", "=", "string"⟩),
    ("parent_id", ⟨"parent_id", .int 7, "=", "string"⟩), ("id", ⟨"id", .int 3, ">", "integer"⟩)]

theorem recastFilters_alternatives : List.Forall₂
    (fun p e' => e'.1 = p.1.1 ∧ FilterSpec.Alternative p.1.2 p.2.2 e'.2)
      (mixedFilters.zip mixedSpecs) recastFilters :=
  .cons ⟨rfl, .mapping rfl rfl rfl (by decide) (by decide)⟩ (.cons ⟨rfl, .spec "parent.name"⟩
    (.cons ⟨rfl, .bare rfl rfl ⟨nofun, nofun⟩⟩ (.cons ⟨rfl, .spec "id"⟩ .nil)))

theorem mixedFilters_recast : FilterSpec.ofFilters (.dict mixedFilters) = .ok mixedSpecs ∧
    FilterSpec.ofFilters (.dict recastFilters) = .ok mixedSpecs ∧
    Scope.nodes.apply (.dict recastFilters) .null .null Scope.allNodes =
      Scope.nodes.apply (.dict mixedFilters) .null .null Scope.allNodes := by
  have hspecs : FilterSpec.ofFilters (.dict mixedFilters) = .ok mixedSpecs := rfl
  obtain ⟨_, _, h⟩ := (FilterSpec.shapes_interchangeable mixedFilters).2 mixedSpecs hspecs
  obtain ⟨hrecast, happly⟩ := h recastFilters recastFilters_alternatives
  exact ⟨hspecs, hrecast, happly Scope.nodes .null .null _ Scope.allNodes⟩

/-- An operator that is a member with an empty value. -/
def blankFilters : List (String × Value) :=
  [("id", .dict [("value", .int 3), ("operator", .member comparison "NONE" (.text ""))])]

/-- An operator that is a member whose value is a number. -/
def rankedFilters : List (String × Value) :=
  [("id", .dict [("value", .int 3), ("operator", .member comparison "THIRD" (.int 3))])]

/-- The value of a member need be no name: it may be empty, or no text. -/
theorem FilterSpec.member_unnamed :
    (¬ ∀ es specs, ofFilters (.dict es) = .ok specs →
      ∀ s ∈ specs, s.2.operator ≠ "" ∧ s.2.type ≠ "") ∧
    ofFilters (.dict rankedFilters) = .error (.invalid [⟨"operator", "string_type"⟩]) := by
  refine ⟨fun h => ?_, rfl⟩
  have hspecs : ofFilters (.dict blankFilters) = .ok [("id", ⟨"id", .int 3, "", "string"⟩)] := rfl
  exact (h blankFilters _ hspecs _ List.mem_cons_self).1 rfl

end QueryFilter
