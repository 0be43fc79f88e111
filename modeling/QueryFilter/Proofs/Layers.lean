import QueryFilter.Config
import QueryFilter.Proofs.Outcome

/-! Layers of options. Whatever they hold there is a configuration, and each of its entries comes
from the highest layer that gives a valid one. -/

namespace QueryFilter

variable {checks : Checks} {key : ConfigKey} {layer merged : Keyed Value}
  {layers : List (Keyed Value)}

namespace ConfigKey

theorem mem_all (key : ConfigKey) : key ∈ all := by
  cases key <;> decide

theorem eq_of_name {other : ConfigKey} (h : other.name = key.name) : other = key := by
  revert h
  cases other <;> cases key <;> decide

/-- Whether a value is valid for an entry, whatever the other entries are. -/
def accepts (checks : Checks) : ConfigKey → Value → Bool
  | .maxDepth, v => (checks.int v).toBool
  | .deep, v | .caseSensitive, v | .strict, v => (checks.bool v).toBool

/-- What a layer gives for an entry, if that is valid. -/
def given (checks : Checks) (key : ConfigKey) (layer : Keyed Value) : Option Value :=
  (layer.get? key.name).filter (key.accepts checks)

/-- What the first layer gives that gives something valid. -/
def winner (checks : Checks) (key : ConfigKey) (layers : List (Keyed Value)) : Option Value :=
  layers.findSome? (key.given checks)

theorem winner_cons : key.winner checks (layer :: layers) =
    (key.given checks layer).or (key.winner checks layers) := by
  rw [winner, winner, List.findSome?_cons]
  cases key.given checks layer <;> rfl

theorem accepts_of_winner {v : Value} (h : key.winner checks layers = some v) :
    key.accepts checks v = true := by
  obtain ⟨layer, _, hl⟩ := List.exists_of_findSome?_eq_some h
  exact (Option.filter_eq_some_iff.mp hl).2

end ConfigKey

/-- Options all of whose entries are valid. -/
def ValidParts (checks : Checks) (parts : Keyed Value) : Prop :=
  ∀ key v, parts.get? (ConfigKey.name key) = some v → key.accepts checks v = true

namespace FilterConfig

theorem assign_isOk_iff (checks : Checks) (c : FilterConfig) (key : ConfigKey) (v : Value) :
    (∃ c', c.assign checks key v = .ok c') ↔ key.accepts checks v = true := by
  cases key with
  | maxDepth =>
    simp only [assign, ConfigKey.accepts]
    cases checks.int v <;> simp [Except.map, Except.toBool]
  | deep | caseSensitive | strict =>
    simp only [assign, ConfigKey.accepts]
    cases checks.bool v <;> simp [Except.map, Except.toBool]

theorem assignPart_isOk_iff (parts : Keyed Value) (r : Checked FilterConfig) (key : ConfigKey) :
    (∃ c, assignPart checks parts r key = .ok c) ↔
      (∃ c, r = .ok c) ∧ ∀ v, parts.get? key.name = some v → key.accepts checks v = true := by
  unfold assignPart
  cases hv : parts.get? key.name with
  | none => simp
  | some v =>
    cases r with
    | error is => simp
    | ok c =>
      have hh := assign_isOk_iff checks c key v
      cases hc : c.assign checks key v <;> simp [hc, Checked.inPlace] at hh ⊢ <;> exact hh

theorem foldl_assignPart_isOk_iff (checks : Checks) (parts : Keyed Value)
    (keys : List ConfigKey) (r : Checked FilterConfig) :
    (∃ c, keys.foldl (assignPart checks parts) r = .ok c) ↔
      (∃ c, r = .ok c) ∧
        ∀ key ∈ keys, ∀ v, parts.get? key.name = some v → key.accepts checks v = true := by
  induction keys generalizing r with
  | nil => simp
  | cons key keys ih =>
    rw [List.foldl_cons, ih, assignPart_isOk_iff, List.forall_mem_cons, and_assoc]

theorem ofParts_isOk_iff (parts : Keyed Value) :
    (∃ c, ofParts checks parts = .ok c) ↔ ValidParts checks parts := by
  have hh := foldl_assignPart_isOk_iff checks parts ConfigKey.all (.ok {})
  have hparts : (∃ c, ofParts checks parts = .ok c) ↔
      ∃ c, ConfigKey.all.foldl (assignPart checks parts) (.ok {}) = .ok c := by
    unfold ofParts
    cases ConfigKey.all.foldl (assignPart checks parts) (.ok {}) <;> simp [Checked.toExcept]
  rw [hparts, hh]
  exact ⟨fun h key => h.2 key key.mem_all, fun h => ⟨⟨_, rfl⟩, fun key _ => h key⟩⟩

theorem ofParts_eq_ok {parts : Keyed Value} {v v' w w' : Value} {deep caseSensitive strict : Bool}
    {n : Int} (hv : parts.get? "deep" = some v) (hv' : parts.get? "max_relation_depth" = some v')
    (hw : parts.get? "case_sensitive" = some w) (hw' : parts.get? "strict_mode" = some w')
    (hdeep : checks.bool v = .ok deep) (hn : checks.int v' = .ok n)
    (hcase : checks.bool w = .ok caseSensitive) (hstrict : checks.bool w' = .ok strict) :
    ofParts checks parts = .ok ⟨deep, clampDepth n, caseSensitive, strict⟩ := by
  simp [ofParts, ConfigKey.all, assignPart, ConfigKey.name, assign, hv, hv', hw, hw', hdeep, hn,
    hcase, hstrict, Except.map, Checked.inPlace, Checked.toExcept]

end FilterConfig

/-- A layer of options, which may be absent. -/
def optionLayer (layer : Option (Keyed Value)) : Value :=
  layer.elim .null .dict

theorem layerEntry_optionLayer (layer : Option (Keyed Value)) (name : String) :
    layerEntry (optionLayer layer) name = .ok ((layer.getD []).get? name) := by
  cases layer with
  | none => rfl
  | some es =>
    cases es with
    | nil => rfl
    | cons e es => rfl

theorem valid_put {merged : Keyed Value} (h : ValidParts checks merged) (key : ConfigKey)
    (v : Value) : ValidParts checks (merged.put key.name v) ↔ key.accepts checks v = true := by
  constructor
  · intro hput
    exact hput key v (merged.get?_put_self key.name v)
  · intro hv other w hw
    by_cases ho : other = key
    · subst ho
      rw [Keyed.get?_put_self] at hw
      cases hw
      exact hv
    · rw [Keyed.get?_put_of_ne _ _ fun hn => ho (ConfigKey.eq_of_name hn)] at hw
      exact h other w hw

/-- The options with what a layer gives for an entry. -/
def taking (merged : Keyed Value) (key : ConfigKey) (given : Option Value) : Keyed Value :=
  given.elim merged (merged.put key.name)

theorem get?_taking (merged : Keyed Value) (key other : ConfigKey) (given : Option Value) :
    (taking merged key given).get? other.name =
      if other = key then given.or (merged.get? key.name) else merged.get? other.name := by
  cases given with
  | none =>
    by_cases ho : other = key <;> simp [taking, ho]
  | some v =>
    by_cases ho : other = key
    · simp [taking, ho, Keyed.get?_put_self]
    · have hn : other.name ≠ key.name := fun hn => ho (ConfigKey.eq_of_name hn)
      simp [taking, ho, Keyed.get?_put_of_ne _ _ hn]

/-- What was merged before is valid, so the options as a whole are valid when the new entry is. -/
theorem result_mergeEntry (h : ValidParts checks merged) (layer : Option (Keyed Value))
    (key : ConfigKey) : (mergeEntry checks (optionLayer layer) merged key).result =
      .ok (taking merged key (key.given checks (layer.getD []))) := by
  have hentry := layerEntry_optionLayer layer key.name
  cases hv : (layer.getD []).get? key.name with
  | none =>
    rw [hv] at hentry
    rw [mergeEntry, hentry, ConfigKey.given, hv]
    rfl
  | some v =>
    rw [hv] at hentry
    have hok := (FilterConfig.ofParts_isOk_iff (merged.put key.name v)).trans (valid_put h key v)
    cases hc : FilterConfig.ofParts checks (merged.put key.name v) with
    | ok c =>
      have ha := hok.mp ⟨c, hc⟩
      simp only [mergeEntry, hentry, liftM, monadLift, MonadLift.monadLift, Traced.ofExcept, bind,
        Traced.bind, hc, pure, Traced.pure, ConfigKey.given, hv, Option.filter_some, ha, if_true]
      rfl
    | error e =>
      have ha : key.accepts checks v = false := by
        cases ha : key.accepts checks v with
        | false => rfl
        | true =>
          obtain ⟨c, hc'⟩ := hok.mpr ha
          rw [hc] at hc'
          cases hc'
      simp only [mergeEntry, hentry, liftM, monadLift, MonadLift.monadLift, Traced.ofExcept, bind,
        Traced.bind, hc, pure, Traced.pure, Traced.log, ConfigKey.given, hv, Option.filter_some, ha,
        if_false, Bool.false_eq_true]
      rfl

theorem valid_taking (h : ValidParts checks merged) (key : ConfigKey) (layer : Keyed Value) :
    ValidParts checks (taking merged key (key.given checks layer)) := by
  cases hg : key.given checks layer with
  | none => exact h
  | some v => exact (valid_put h key v).mpr (Option.filter_eq_some_iff.mp hg).2

theorem result_mergeKeys (h : ValidParts checks merged) (layer : Option (Keyed Value))
    (keys : List ConfigKey) :
    ∃ merged', (keys.foldlM (mergeEntry checks (optionLayer layer)) merged).result = .ok merged' ∧
      ValidParts checks merged' ∧ ∀ key : ConfigKey, merged'.get? key.name =
        if key ∈ keys then (key.given checks (layer.getD [])).or (merged.get? key.name)
        else merged.get? key.name := by
  induction keys generalizing merged with
  | nil => exact ⟨merged, rfl, h, by simp⟩
  | cons key keys ih =>
    obtain ⟨merged', hr, hvalid, hget⟩ := ih (valid_taking h key (layer.getD []))
    refine ⟨merged', ?_, hvalid, fun other => ?_⟩
    · rw [List.foldlM_cons]
      exact Traced.bind_result_eq_ok.mpr ⟨_, result_mergeEntry h layer key, hr⟩
    · rw [hget, get?_taking]
      by_cases ho : other = key
      · subst ho
        by_cases hm : other ∈ keys <;> cases other.given checks (layer.getD []) <;> simp [hm]
      · simp [ho]

/-- Options that hold, for each entry, what the first of some layers gives. -/
def Merges (checks : Checks) (merged : Keyed Value) (layers : List (Keyed Value)) : Prop :=
  ∀ key : ConfigKey, merged.get? key.name = key.winner checks layers

theorem Merges.valid (h : Merges checks merged layers) : ValidParts checks merged :=
  fun key _ hv => ConfigKey.accepts_of_winner ((h key).symm.trans hv)

theorem result_mergeLayer (h : Merges checks merged layers) (layer : Option (Keyed Value)) :
    ∃ merged', (mergeLayer checks merged (optionLayer layer)).result = .ok merged' ∧
      Merges checks merged' (layer.getD [] :: layers) := by
  obtain ⟨merged', hr, _, hget⟩ := result_mergeKeys h.valid layer ConfigKey.all
  refine ⟨merged', hr, fun key => ?_⟩
  rw [hget, if_pos key.mem_all, h key, ConfigKey.winner_cons]

theorem given_builtIn (checks : Checks) (key : ConfigKey) : ∃ v,
    key.given checks FilterConfig.builtIn = some v ∧
      FilterConfig.builtIn.get? key.name = some v := by
  cases key with
  | maxDepth =>
    refine ⟨.int 2, Option.filter_eq_some_iff.mpr ⟨rfl, ?_⟩, rfl⟩
    rw [ConfigKey.accepts, checks.int_self]
    rfl
  | deep =>
    refine ⟨.bool true, Option.filter_eq_some_iff.mpr ⟨rfl, ?_⟩, rfl⟩
    rw [ConfigKey.accepts, checks.bool_self]
    rfl
  | caseSensitive | strict =>
    refine ⟨.bool false, Option.filter_eq_some_iff.mpr ⟨rfl, ?_⟩, rfl⟩
    rw [ConfigKey.accepts, checks.bool_self]
    rfl

theorem merges_builtIn (checks : Checks) :
    Merges checks FilterConfig.builtIn [FilterConfig.builtIn] := by
  intro key
  obtain ⟨v, hgiven, hv⟩ := given_builtIn checks key
  rw [hv, ConfigKey.winner_cons, hgiven, Option.some_or]

theorem exists_winner (key : ConfigKey) (h : FilterConfig.builtIn ∈ layers) :
    ∃ v, key.winner checks layers = some v := by
  obtain ⟨v, hgiven, _⟩ := given_builtIn checks key
  have hsome : (key.given checks FilterConfig.builtIn).isSome = true := by rw [hgiven]; rfl
  exact Option.isSome_iff_exists.mp (List.findSome?_isSome_iff.mpr ⟨_, h, hsome⟩)

/-- A configuration each of whose entries is read from the first layer that gives a valid one, with
the depth between none and a limit. -/
structure FilterConfig.Settles (checks : Checks) (c : FilterConfig) (limit : Int)
    (layers : List (Keyed Value)) : Prop where
  deep : ∃ v, ConfigKey.deep.winner checks layers = some v ∧ checks.bool v = .ok c.deep
  caseSensitive : ∃ v, ConfigKey.caseSensitive.winner checks layers = some v ∧
    checks.bool v = .ok c.caseSensitive
  strict : ∃ v, ConfigKey.strict.winner checks layers = some v ∧ checks.bool v = .ok c.strict
  maxDepth : ∃ v n, ConfigKey.maxDepth.winner checks layers = some v ∧ checks.int v = .ok n ∧
    (c.maxDepth : Int) = min (max 0 n) (max 0 limit)

theorem settles_of_merges (h : Merges checks merged layers) (hb : FilterConfig.builtIn ∈ layers)
    (limit : Int) : ∃ c, FilterConfig.ofParts checks merged = .ok c ∧
      FilterConfig.Settles checks
        { c with maxDepth := min c.maxDepth (FilterConfig.clampDepth limit) } limit layers := by
  have hwinner : ∀ key : ConfigKey, ∃ v, key.winner checks layers = some v := fun key =>
    exists_winner key hb
  obtain ⟨v, hv⟩ := hwinner .deep
  obtain ⟨v', hv'⟩ := hwinner .maxDepth
  obtain ⟨w, hw⟩ := hwinner .caseSensitive
  obtain ⟨w', hw'⟩ := hwinner .strict
  obtain ⟨deep, hdeep⟩ := Outcome.exists_of_toBool (ConfigKey.accepts_of_winner hv)
  obtain ⟨n, hn⟩ := Outcome.exists_of_toBool (ConfigKey.accepts_of_winner hv')
  obtain ⟨caseSensitive, hcase⟩ := Outcome.exists_of_toBool (ConfigKey.accepts_of_winner hw)
  obtain ⟨strict, hstrict⟩ := Outcome.exists_of_toBool (ConfigKey.accepts_of_winner hw')
  refine ⟨⟨deep, FilterConfig.clampDepth n, caseSensitive, strict⟩,
    FilterConfig.ofParts_eq_ok ((h .deep).trans hv) ((h .maxDepth).trans hv')
      ((h .caseSensitive).trans hw) ((h .strict).trans hw') hdeep hn hcase hstrict,
    ⟨v, hv, hdeep⟩, ⟨w, hw, hcase⟩, ⟨w', hw', hstrict⟩, ⟨v', n, hv', hn, ?_⟩⟩
  simp only [FilterConfig.clampDepth]
  omega

/-- The layers of a call, the highest first. -/
def layersOf (s : Settings) (entity options : Option (Keyed Value)) : List (Keyed Value) :=
  [options.getD [], entity.getD [], FilterConfig.defaultsOf s, FilterConfig.builtIn]

theorem settles_resolveConfig (checks : Checks) (s : Settings)
    (entity options : Option (Keyed Value)) :
    ∃ c, (resolveConfig checks s (optionLayer entity) (optionLayer options)).result = .ok c ∧
      c.Settles checks s.relationMaxDepth (layersOf s entity options) := by
  obtain ⟨m, hm, hmerges⟩ :=
    result_mergeLayer (merges_builtIn checks) (some (FilterConfig.defaultsOf s))
  obtain ⟨m', hm', hmerges'⟩ := result_mergeLayer hmerges entity
  obtain ⟨m'', hm'', hmerges''⟩ := result_mergeLayer hmerges' options
  obtain ⟨c, hc, hsettles⟩ := settles_of_merges hmerges'' (by simp) s.relationMaxDepth
  refine ⟨_, ?_, hsettles⟩
  refine Traced.bind_result_eq_ok.mpr ⟨m, hm, Traced.bind_result_eq_ok.mpr ⟨m', hm', ?_⟩⟩
  exact Traced.bind_result_eq_ok.mpr ⟨m'', hm'', Traced.bind_result_eq_ok.mpr ⟨c, hc, rfl⟩⟩

theorem FilterConfig.Settles.unique {c c' : FilterConfig} {limit : Int}
    {layers layers' : List (Keyed Value)} (h : c.Settles checks limit layers)
    (h' : c'.Settles checks limit layers')
    (hw : ∀ key : ConfigKey, key.winner checks layers = key.winner checks layers') : c = c' := by
  have hbool : ∀ {key : ConfigKey} {b b' : Bool},
      (∃ v, key.winner checks layers = some v ∧ checks.bool v = .ok b) →
      (∃ v, key.winner checks layers' = some v ∧ checks.bool v = .ok b') → b = b' := by
    rintro key b b' ⟨v, hv, hb⟩ ⟨v', hv', hb'⟩
    rw [hw, hv'] at hv
    cases hv
    rw [hb] at hb'
    exact Except.ok.inj hb'
  have hdeep := hbool h.deep h'.deep
  have hcase := hbool h.caseSensitive h'.caseSensitive
  have hstrict := hbool h.strict h'.strict
  obtain ⟨v, n, hv, hn, hmax⟩ := h.maxDepth
  obtain ⟨v', n', hv', hn', hmax'⟩ := h'.maxDepth
  rw [hw, hv'] at hv
  cases hv
  rw [hn] at hn'
  cases hn'
  have hdepth : c.maxDepth = c'.maxDepth := by omega
  cases c
  cases c'
  simp_all

def Keyed.without {α : Type} (m : Keyed α) (name : String) : Keyed α :=
  m.filter (·.1 != name)

theorem Keyed.get?_without_self {α : Type} (m : Keyed α) (name : String) :
    (m.without name).get? name = none := by
  induction m with
  | nil => rfl
  | cons e m ih =>
    obtain ⟨k, a⟩ := e
    by_cases hk : k = name
    · simpa [without, hk] using ih
    · have hk' : (name == k) = false := by simpa using Ne.symm hk
      simpa [without, get?, hk, List.lookup_cons, hk'] using ih

theorem Keyed.get?_without_of_ne {α : Type} (m : Keyed α) {name other : String}
    (h : other ≠ name) : (m.without name).get? other = m.get? other := by
  induction m with
  | nil => rfl
  | cons e m ih =>
    obtain ⟨k, a⟩ := e
    by_cases hk : k = name
    · subst hk
      have ho : (other == k) = false := by simpa using h
      simpa [without, get?, List.lookup_cons, ho] using ih
    · cases ho : other == k with
      | true => simp [without, get?, hk, List.lookup_cons, ho]
      | false => simpa [without, get?, hk, List.lookup_cons, ho] using ih

/-- Whether an entry of a layer has a name that is known and a value that is valid for it. -/
def UsableOption (checks : Checks) (name : String) (v : Value) : Prop :=
  ∃ key : ConfigKey, key.name = name ∧ key.accepts checks v = true

theorem given_put_of_not_usable {name : String} {v : Value} (h : ¬ UsableOption checks name v)
    (layer : Keyed Value) (key : ConfigKey) :
    key.given checks (layer.put name v) = key.given checks (layer.without name) := by
  unfold ConfigKey.given
  by_cases hn : key.name = name
  · have ha : ¬ key.accepts checks v = true := fun ha => h ⟨key, hn, ha⟩
    rw [hn, Keyed.get?_put_self, Keyed.get?_without_self, Option.filter_some, if_neg ha]
    rfl
  · rw [Keyed.get?_put_of_ne _ _ hn, Keyed.get?_without_of_ne _ hn]

theorem resolveConfig_congr (s : Settings) (entity entity' options options' : Option (Keyed Value))
    (h : ∀ key : ConfigKey, key.given checks (entity.getD []) = key.given checks (entity'.getD []))
    (h' : ∀ key : ConfigKey,
      key.given checks (options.getD []) = key.given checks (options'.getD [])) :
    (resolveConfig checks s (optionLayer entity) (optionLayer options)).result =
      (resolveConfig checks s (optionLayer entity') (optionLayer options')).result := by
  obtain ⟨c, hc, hsettles⟩ := settles_resolveConfig checks s entity options
  obtain ⟨c', hc', hsettles'⟩ := settles_resolveConfig checks s entity' options'
  have hw : ∀ key : ConfigKey, key.winner checks (layersOf s entity options) =
      key.winner checks (layersOf s entity' options') := by
    intro key
    simp only [layersOf, ConfigKey.winner_cons, h key, h' key]
  rw [hc, hc', hsettles.unique hsettles' hw]

/-- Whatever the layers hold there is a configuration, and each of its entries is the first valid
one. An entry of a layer that is unknown or invalid might as well not be there. Of the checks this
takes no more than that each looks at one value alone and takes its own kind. -/
theorem resolveConfig_settles (checks : Checks) (s : Settings)
    (entity options : Option (Keyed Value)) :
    (∃ c, (resolveConfig checks s (optionLayer entity) (optionLayer options)).result = .ok c ∧
      c.Settles checks s.relationMaxDepth (layersOf s entity options)) ∧
    ∀ (layer : Keyed Value) (name : String) (v : Value), ¬ UsableOption checks name v →
      (resolveConfig checks s (.dict (layer.put name v)) (optionLayer options)).result =
        (resolveConfig checks s (.dict (layer.without name)) (optionLayer options)).result ∧
      (resolveConfig checks s (optionLayer entity) (.dict (layer.put name v))).result =
        (resolveConfig checks s (optionLayer entity) (.dict (layer.without name))).result := by
  refine ⟨settles_resolveConfig checks s entity options, fun layer name v h => ?_⟩
  have hg := given_put_of_not_usable h layer
  exact ⟨resolveConfig_congr s (some _) (some _) options options hg fun _ => rfl,
    resolveConfig_congr s entity entity (some _) (some _) (fun _ => rfl) hg⟩

def shallowSettings : Settings :=
  { relationMaxDepth := 2 }

def eagerOptions : Keyed Value :=
  [("max_relation_depth", .int 9), ("strict_mode", .int 1)]

/-- A depth that is no number and an entry that is no option. -/
def strayOptions : Keyed Value :=
  [("max_relation_depth", .text "deep"), ("colour", .text "red")]

theorem not_usableOption_colour (v : Value) : ¬ UsableOption .lenient "colour" v := by
  rintro ⟨key, hn, _⟩
  revert hn
  cases key <;> decide

theorem resolveConfig_eager : ¬ UsableOption .lenient "colour" (.text "red") ∧
    (resolveConfig .lenient shallowSettings (.dict eagerOptions) (.dict strayOptions)).result =
      .ok { maxDepth := 2, strict := true } ∧
    (resolveConfig .lenient shallowSettings (.dict eagerOptions)
        (.dict (Keyed.put [] "colour" (.text "red")))).result =
      (resolveConfig .lenient shallowSettings (.dict eagerOptions) (.dict [])).result := by
  have hh := resolveConfig_settles .lenient shallowSettings (some eagerOptions) (some strayOptions)
  obtain ⟨⟨c, hc, hs⟩, hidle⟩ := hh
  have hcolour := not_usableOption_colour (.text "red")
  refine ⟨hcolour, hc.trans ?_, (hidle [] "colour" (.text "red") hcolour).2⟩
  have hexpected : { maxDepth := 2, strict := true : FilterConfig }.Settles .lenient 2
      (layersOf shallowSettings (some eagerOptions) (some strayOptions)) :=
    ⟨⟨_, rfl, rfl⟩, ⟨_, rfl, rfl⟩, ⟨_, rfl, rfl⟩, ⟨_, 9, rfl, rfl, by decide⟩⟩
  rw [hs.unique hexpected fun _ => rfl]

end QueryFilter
