import PlantGrowth.Config.Flags
import PlantGrowth.Proofs.Startup
import Mathlib.Data.List.Nodup
import Mathlib.Logic.Function.Basic

/-!
# Layers over a configuration

A preset and the flags of a command line each give some fields of a configuration and leave the
others alone.  So each of them is a layer, and what a command line makes of a configuration is
read off field by field: the uppermost layer that gives the field decides.  The same is done in
place, one field after another, where a preset that does not exist must leave no trace.
-/

namespace PlantGrowth

/-! ## Fields -/

inductive ConfigField where
  | start | rules | iterations
  | angle | variance | stepLength | baseWidth | taper | leafScale | tipsOnly | seed
  | mode | shape | radialSegments | baseColor | tipColor | leafColor | autoScale | targetHeight
  | fieldOfView
  | stringLength | segments | vertices
  | logLevel
  deriving DecidableEq, Repr

/-- What stands in a field. -/
def ConfigField.Value : ConfigField → Type
  | start | rules | baseColor | tipColor | leafColor | logLevel => String
  | iterations | radialSegments => UInt32
  | angle | variance | stepLength | baseWidth | taper | leafScale | targetHeight
  | fieldOfView => Binary32
  | tipsOnly | autoScale => Bool
  | seed => Option UInt64
  | mode => RenderMode
  | shape => Shape
  | stringLength | segments | vertices => UInt64

/-- The fields that no command line changes. -/
def ConfigField.untouched : List ConfigField :=
  [.radialSegments, .targetHeight, .fieldOfView, .stringLength, .segments, .vertices]

namespace Config

def get (c : Config) : (k : ConfigField) → k.Value
  | .start => c.grammar.start
  | .rules => c.grammar.rules
  | .iterations => c.grammar.iterations
  | .angle => c.turtle.angle
  | .variance => c.turtle.variance
  | .stepLength => c.turtle.stepLength
  | .baseWidth => c.turtle.baseWidth
  | .taper => c.turtle.taper
  | .leafScale => c.turtle.leafScale
  | .tipsOnly => c.turtle.tipsOnly
  | .seed => c.turtle.seed
  | .mode => c.render.mode
  | .shape => c.render.shape
  | .radialSegments => c.render.radialSegments
  | .baseColor => c.render.baseColor
  | .tipColor => c.render.tipColor
  | .leafColor => c.render.leafColor
  | .autoScale => c.render.autoScale
  | .targetHeight => c.render.targetHeight
  | .fieldOfView => c.render.fieldOfView
  | .stringLength => c.limits.stringLength
  | .segments => c.limits.segments
  | .vertices => c.limits.vertices
  | .logLevel => c.debug.logLevel

def ofValues (value : (k : ConfigField) → k.Value) : Config where
  grammar := ⟨value .start, value .rules, value .iterations⟩
  turtle :=
    ⟨value .angle, value .variance, value .stepLength, value .baseWidth, value .taper,
      value .leafScale, value .tipsOnly, value .seed⟩
  render :=
    ⟨value .mode, value .shape, value .radialSegments, value .baseColor, value .tipColor,
      value .leafColor, value .autoScale, value .targetHeight, value .fieldOfView⟩
  limits := ⟨value .stringLength, value .segments, value .vertices⟩
  debug := ⟨value .logLevel⟩

@[simp] theorem get_ofValues (value : (k : ConfigField) → k.Value) (k : ConfigField) :
    (ofValues value).get k = value k := by
  cases k <;> rfl

/-- A configuration is nothing but its fields. -/
theorem ofValues_get (c : Config) : ofValues c.get = c := rfl

theorem ext_get {c d : Config} (h : ∀ k, c.get k = d.get k) : c = d := by
  rw [← ofValues_get c, ← ofValues_get d, funext h]

/-- The configuration with one field set. -/
def put (c : Config) (k : ConfigField) (v : k.Value) : Config :=
  ofValues (Function.update c.get k v)

end Config

/-! ## Layers -/

/-- What is given for each field, if anything is. -/
abbrev ConfigLayer := (k : ConfigField) → Option k.Value

namespace ConfigLayer

variable {lower upper layer : ConfigLayer} {c : Config} {k : ConfigField}

def nothing : ConfigLayer := fun _ => none

/-- Both layers, of which the upper one decides where it gives something. -/
def above (upper lower : ConfigLayer) : ConfigLayer := fun k => (upper k).or (lower k)

/-- The configuration with the layer over it. -/
def on (layer : ConfigLayer) (c : Config) : Config :=
  Config.ofValues fun k => (layer k).getD (c.get k)

theorem get_on (layer : ConfigLayer) (c : Config) (k : ConfigField) :
    (layer.on c).get k = (layer k).getD (c.get k) :=
  Config.get_ofValues _ k

theorem get_on_of_none (h : layer k = none) : (layer.on c).get k = c.get k := by
  rw [get_on, h, Option.getD_none]

theorem nothing_on (c : Config) : nothing.on c = c := rfl

theorem above_on (upper lower : ConfigLayer) (c : Config) :
    (upper.above lower).on c = upper.on (lower.on c) := by
  apply Config.ext_get
  intro k
  simp only [get_on, above]
  cases upper k with
  | none => rfl
  | some v => rfl

/-- A layer hides another one that gives no further fields. -/
theorem on_on_of_covers (h : ∀ k, upper k = none → lower k = none) (c : Config) :
    upper.on (lower.on c) = upper.on c := by
  apply Config.ext_get
  intro k
  simp only [get_on]
  cases hupper : upper k with
  | none => rw [h k hupper, Option.getD_none, Option.getD_none]
  | some v => rfl

theorem on_on (layer : ConfigLayer) (c : Config) : layer.on (layer.on c) = layer.on c :=
  on_on_of_covers (fun _ => id) c

/-! ### In place -/

/-- Sets one field, if the layer gives it. -/
def lay (layer : ConfigLayer) (c : Config) (k : ConfigField) : Config :=
  (layer k).elim c (c.put k)

/-- Sets one field after another, as far as the layer gives them. -/
def layAll (layer : ConfigLayer) (fields : List ConfigField) (c : Config) : Config :=
  fields.foldl layer.lay c

theorem get_lay (layer : ConfigLayer) (c : Config) (k j : ConfigField) :
    (layer.lay c k).get j = if j = k then (layer j).getD (c.get j) else c.get j := by
  rw [lay]
  by_cases hjk : j = k
  · subst j
    cases hk : layer k with
    | none => simp
    | some v => simp [Config.put]
  · cases layer k with
    | none => simp [hjk]
    | some v => simp [Config.put, hjk]

theorem get_layAll (layer : ConfigLayer) (fields : List ConfigField) (c : Config)
    (j : ConfigField) :
    (layer.layAll fields c).get j =
      if j ∈ fields then (layer j).getD (c.get j) else c.get j := by
  induction fields generalizing c with
  | nil => simp [layAll]
  | cons k fields ih =>
      have hrest : layer.layAll (k :: fields) c = layer.layAll fields (layer.lay c k) := rfl
      rw [hrest, ih, get_lay]
      by_cases hjk : j = k
      · subst j
        -- setting a field again with the same layer changes nothing
        cases layer k with
        | none => simp
        | some v => simp
      · simp [hjk]

/-- The order of the fields does not matter, as long as none that the layer gives is missing. -/
theorem layAll_eq_on {fields : List ConfigField} (h : ∀ k, k ∉ fields → layer k = none)
    (c : Config) : layer.layAll fields c = layer.on c := by
  apply Config.ext_get
  intro k
  rw [get_layAll, get_on]
  by_cases hk : k ∈ fields
  · rw [if_pos hk]
  · rw [if_neg hk, h k hk, Option.getD_none]

end ConfigLayer

/-! ## Presets -/

namespace Preset

/-- What a preset gives; with it the plant is scaled to the target height again. -/
def layer (p : Preset) : ConfigLayer
  | .start => some p.start
  | .rules => some p.rules
  | .iterations => some p.iterations
  | .angle => some p.angle
  | .variance => some p.variance
  | .stepLength => some p.stepLength
  | .baseWidth => some p.baseWidth
  | .taper => some p.taper
  | .baseColor => some p.baseColor
  | .tipColor => some p.tipColor
  | .leafColor => some p.leafColor
  | .autoScale => some true
  | _ => none

/-- The fields that a preset gives, in the order in which they are set. -/
def fields : List ConfigField :=
  [.start, .rules, .iterations, .angle, .variance, .stepLength, .baseWidth, .taper, .baseColor,
    .tipColor, .leafColor, .autoScale]

variable {p q : Preset} {text : String}

theorem applyTo_eq (p : Preset) (c : Config) : p.applyTo c = p.layer.on c := by
  apply Config.ext_get
  intro k
  rw [ConfigLayer.get_on]
  cases k <;> rfl

/-- All presets give the same fields. -/
theorem layer_eq_none_iff (p : Preset) (k : ConfigField) : p.layer k = none ↔ k ∉ fields := by
  cases k <;> simp [layer, fields]

/-- Of two presets the later one decides alone. -/
theorem applyTo_applyTo (q p : Preset) (c : Config) : q.applyTo (p.applyTo c) = q.applyTo c := by
  rw [applyTo_eq q, applyTo_eq q, applyTo_eq p]
  apply ConfigLayer.on_on_of_covers
  intro k hk
  rw [layer_eq_none_iff] at hk ⊢
  exact hk

/-- No two presets have one name. -/
theorem nodup_keys : (all.map fun p => key p.name).Nodup := by
  decide +kernel

theorem find?_eq_some_iff : find? text = some p ↔ p ∈ all ∧ p.Named text := by
  have hfound : ∀ q, find? text = some q → q ∈ all ∧ q.Named text := by
    intro q hq
    have hmem := mem_of_find? hq
    simp only [find?] at hq
    have hkey := List.find?_some hq
    exact ⟨hmem, (named_iff hmem).mpr (beq_iff_eq.mp hkey).symm⟩
  refine ⟨hfound p, ?_⟩
  rintro ⟨hp, hnamed⟩
  obtain ⟨q, hq⟩ := Option.isSome_iff_exists.mp (find?_isSome_iff.mpr ⟨p, hp, hnamed⟩)
  obtain ⟨hmem, hnamed'⟩ := hfound q hq
  have hkey : key q.name = key p.name :=
    ((named_iff hmem).mp hnamed').symm.trans ((named_iff hp).mp hnamed)
  rw [hq, List.inj_on_of_nodup_map nodup_keys hmem hp hkey]

theorem find?_eq_none_iff : find? text = none ↔ ∀ p ∈ all, ¬p.Named text := by
  simp only [Option.eq_none_iff_forall_ne_some, ne_eq, find?_eq_some_iff, not_and]

end Preset

namespace Config

variable {c c' : Config} {name : String}

theorem withPreset_of_find? {p : Preset} (h : Preset.find? name = some p) (c : Config) :
    c.withPreset name = .ok (p.applyTo c) := by
  rw [withPreset, h]

theorem exists_applyTo_of_withPreset (h : c.withPreset name = .ok c') :
    ∃ p : Preset, c' = p.applyTo c := by
  rw [withPreset] at h
  split at h
  next p _ => exact ⟨p, (Except.ok.inj h).symm⟩
  next => cases h

end Config

/-! ## Flags -/

namespace Flags

/-- What the flags other than the preset give. -/
def layer (f : Flags) : ConfigLayer
  | .start => f.start
  | .rules => f.rules.map ruleLines
  | .iterations => f.iterations
  | .angle => f.angle
  | .variance => f.variance
  | .stepLength => f.step
  | .baseWidth => f.width
  | .taper => f.taper
  | .leafScale => f.leafScale
  | .tipsOnly => f.tipsOnly
  | .mode => f.mode
  | .shape => f.shape
  | .seed => f.seed.map some
  | .logLevel => f.logLevel
  | _ => none

/-- The fields that flags can give, in the order in which they are set. -/
def fields : List ConfigField :=
  [.start, .rules, .iterations, .angle, .variance, .stepLength, .baseWidth, .taper, .leafScale,
    .tipsOnly, .mode, .shape, .seed, .logLevel]

/-- The preset that the flags name, if they name one. -/
def Plants (f : Flags) (planted : Option Preset) : Prop :=
  match f.preset, planted with
  | none, none => True
  | some name, some p => p ∈ Preset.all ∧ p.Named name
  | _, _ => False

/-- All that a command line gives: its flags, and under them its preset. -/
def layers (f : Flags) (planted : Option Preset) : ConfigLayer :=
  f.layer.above (planted.elim ConfigLayer.nothing Preset.layer)

variable {f : Flags} {planted : Option Preset} {c : Config}

theorem overlay_eq (f : Flags) (c : Config) : f.overlay c = f.layer.on c := by
  apply Config.ext_get
  intro k
  rw [ConfigLayer.get_on]
  cases k with
  | seed =>
      change (f.seed <|> c.turtle.seed) = (f.seed.map some).getD c.turtle.seed
      cases f.seed <;> rfl
  | _ => rfl

theorem layer_eq_none_of_notMem (f : Flags) {k : ConfigField} (h : k ∉ fields) :
    f.layer k = none := by
  cases k <;> first | rfl | exact absurd (by decide) h

/-- What neither a flag nor a preset can give. -/
theorem layers_eq_none (f : Flags) (planted : Option Preset) {k : ConfigField}
    (hflag : k ∉ fields) (hpreset : k ∉ Preset.fields) : f.layers planted k = none := by
  cases planted with
  | none => simp [layers, ConfigLayer.above, f.layer_eq_none_of_notMem hflag, ConfigLayer.nothing]
  | some p =>
      have hp := (p.layer_eq_none_iff k).mpr hpreset
      simp [layers, ConfigLayer.above, f.layer_eq_none_of_notMem hflag, hp]

theorem applyTo_of_none (h : f.preset = none) (c : Config) :
    f.applyTo c = .ok (f.overlay c) := by
  simp only [applyTo, h]
  rfl

theorem applyTo_of_find? {name : String} {p : Preset} (h : f.preset = some name)
    (hfind : Preset.find? name = some p) (c : Config) :
    f.applyTo c = .ok (f.overlay (p.applyTo c)) := by
  simp only [applyTo, h, Config.withPreset, hfind]
  rfl

theorem applyTo_of_unknown {name : String} (h : f.preset = some name)
    (hfind : Preset.find? name = none) (c : Config) :
    f.applyTo c = .error (.unknownPreset name) := by
  simp only [applyTo, h, Config.withPreset, hfind]
  rfl

theorem Plants.cases (h : f.Plants planted) :
    f.preset = none ∧ planted = none ∨
      ∃ name p, f.preset = some name ∧ planted = some p ∧ Preset.find? name = some p := by
  cases hpreset : f.preset with
  | none =>
      cases planted with
      | none => exact Or.inl ⟨rfl, rfl⟩
      | some p => simp [Plants, hpreset] at h
  | some name =>
      cases planted with
      | none => simp [Plants, hpreset] at h
      | some p =>
          have hfind : Preset.find? name = some p := by
            rw [Preset.find?_eq_some_iff]
            simpa [Plants, hpreset] using h
          exact Or.inr ⟨name, p, rfl, rfl, hfind⟩

theorem Plants.applyTo_eq (h : f.Plants planted) (c : Config) :
    f.applyTo c = .ok ((f.layers planted).on c) := by
  rw [layers, ConfigLayer.above_on, ← overlay_eq]
  rcases h.cases with ⟨hnone, rfl⟩ | ⟨name, p, hname, rfl, hfind⟩
  · rw [applyTo_of_none hnone, Option.elim_none, ConfigLayer.nothing_on]
  · rw [applyTo_of_find? hname hfind, Option.elim_some, Preset.applyTo_eq]

end Flags

/-! ## In place -/

/-- Changes made to a configuration in place, up to one that is refused. -/
abbrev Edit := ExceptT ConfigError (StateM Config) Unit

namespace Edit

/-- What is reported, and how the configuration is left. -/
def outcome (e : Edit) (c : Config) : Except ConfigError Unit × Config := e.run.run c

/-- A refused edit keeps everything behind it from being done. -/
theorem outcome_modify (e : Edit) (g : Config → Config) (c : Config) :
    outcome (do e; modify g) c =
      match e.outcome c with
      | (.ok (), c') => (.ok (), g c')
      | (.error refused, c') => (.error refused, c') := by
  simp only [outcome, ExceptT.run_bind, StateT.run_bind]
  cases e.run.run c with
  | mk report c' =>
      cases report with
      | ok done => rfl
      | error refused => rfl

end Edit

namespace Preset

variable {name : String} {p : Preset}

def plant (name : String) : Edit :=
  match find? name with
  | some p => modify (p.layer.layAll fields)
  | none => throw (.unknownPreset name)

theorem outcome_plant (h : find? name = some p) (c : Config) :
    (plant name).outcome c = (.ok (), p.applyTo c) := by
  have hlay := ConfigLayer.layAll_eq_on (fun k => (p.layer_eq_none_iff k).mpr) c
  rw [applyTo_eq, ← hlay]
  simp only [plant, h]
  rfl

theorem outcome_plant_of_unknown (h : find? name = none) (c : Config) :
    (plant name).outcome c = (.error (.unknownPreset name), c) := by
  simp only [plant, h]
  rfl

theorem outcome_plant_plant {first second : String} (h : find? second = some p) (c : Config) :
    (plant second).outcome ((plant first).outcome c).2 = (plant second).outcome c := by
  cases hfirst : find? first with
  | none => rw [outcome_plant_of_unknown hfirst]
  | some q => rw [outcome_plant hfirst, outcome_plant h, outcome_plant h, applyTo_applyTo]

end Preset

namespace Flags

variable {f : Flags} {planted : Option Preset}

/-- The preset first, then every flag that is given. -/
def edit (f : Flags) : Edit := do
  match f.preset with
  | some name => Preset.plant name
  | none => pure ()
  modify (f.layer.layAll fields)

theorem layAll_eq_overlay (f : Flags) (c : Config) : f.layer.layAll fields c = f.overlay c := by
  rw [overlay_eq]
  exact ConfigLayer.layAll_eq_on (fun _ => f.layer_eq_none_of_notMem) c

theorem outcome_edit_of_unknown {name : String} (h : f.preset = some name)
    (hfind : Preset.find? name = none) (c : Config) :
    f.edit.outcome c = (.error (.unknownPreset name), c) := by
  simp only [edit, h]
  rw [Edit.outcome_modify, Preset.outcome_plant_of_unknown hfind]

theorem Plants.outcome_edit (h : f.Plants planted) (c : Config) :
    f.edit.outcome c = (.ok (), (f.layers planted).on c) := by
  rw [layers, ConfigLayer.above_on, ← overlay_eq]
  rcases h.cases with ⟨hnone, rfl⟩ | ⟨name, p, hname, rfl, hfind⟩
  · simp only [edit, hnone]
    rw [Option.elim_none, ConfigLayer.nothing_on, ← layAll_eq_overlay]
    rfl
  · simp only [edit, hname]
    rw [Edit.outcome_modify, Preset.outcome_plant hfind, Option.elim_some, ← Preset.applyTo_eq,
      ← layAll_eq_overlay]

theorem unknown_or_plants (f : Flags) :
    (∃ name, f.preset = some name ∧ Preset.find? name = none) ∨ ∃ planted, f.Plants planted := by
  cases hpreset : f.preset with
  | none => exact Or.inr ⟨none, by simp [Plants, hpreset]⟩
  | some name =>
      cases hfind : Preset.find? name with
      | none => exact Or.inl ⟨name, rfl, hfind⟩
      | some p =>
          refine Or.inr ⟨some p, ?_⟩
          simpa [Plants, hpreset] using Preset.find?_eq_some_iff.mp hfind

/-- The flags make `c'` of the configuration `c`, with what is planted under them. -/
structure Merges (f : Flags) (planted : Option Preset) (c c' : Config) : Prop where
  plants : f.Plants planted
  applyTo_eq : f.applyTo c = .ok c'
  outcome_eq : f.edit.outcome c = (.ok (), c')
  get_eq : ∀ k, c'.get k = (f.layers planted k).getD (c.get k)
  untouched_eq : ∀ k ∈ ConfigField.untouched, c'.get k = c.get k
  applyTo_again : f.applyTo c' = .ok c'

theorem Plants.merges (h : f.Plants planted) (c : Config) :
    f.Merges planted c ((f.layers planted).on c) where
  plants := h
  applyTo_eq := h.applyTo_eq c
  outcome_eq := h.outcome_edit c
  get_eq := ConfigLayer.get_on _ c
  untouched_eq := by
    intro k hk
    apply ConfigLayer.get_on_of_none
    have hgiven : k ∉ fields ∧ k ∉ Preset.fields := by
      revert k
      decide
    exact f.layers_eq_none planted hgiven.1 hgiven.2
  applyTo_again := by rw [h.applyTo_eq, ConfigLayer.on_on]

theorem outcome_edit_again (f : Flags) (c : Config) :
    f.edit.outcome (f.edit.outcome c).2 = f.edit.outcome c := by
  rcases f.unknown_or_plants with ⟨name, hname, hfind⟩ | ⟨planted, h⟩
  · rw [outcome_edit_of_unknown hname hfind, outcome_edit_of_unknown hname hfind]
  · rw [h.outcome_edit, h.outcome_edit, ConfigLayer.on_on]

/-- A preset that does not exist is reported by the name it was given by, and nothing is changed,
whatever other flags there are.  In all other cases every field comes from the flags, else from
the preset, else from the configuration.  Merging twice is merging once, and of two presets the
second decides. -/
theorem layers_decide (f : Flags) (c : Config) :
    (∀ name, f.preset = some name → (∀ p ∈ Preset.all, ¬p.Named name) →
      f.applyTo c = .error (.unknownPreset name) ∧
        f.edit.outcome c = (.error (.unknownPreset name), c)) ∧
    ((∀ name, f.preset = some name → ∃ p ∈ Preset.all, p.Named name) →
      ∃ planted c', f.Merges planted c c') ∧
    f.edit.outcome (f.edit.outcome c).2 = f.edit.outcome c ∧
    ∀ first second, (∃ p ∈ Preset.all, p.Named second) →
      (∀ c', c.withPreset first = .ok c' → c'.withPreset second = c.withPreset second) ∧
      (Preset.plant second).outcome ((Preset.plant first).outcome c).2 =
        (Preset.plant second).outcome c := by
  refine ⟨?_, ?_, f.outcome_edit_again c, ?_⟩
  · intro name hname hunknown
    have hfind := Preset.find?_eq_none_iff.mpr hunknown
    exact ⟨applyTo_of_unknown hname hfind c, outcome_edit_of_unknown hname hfind c⟩
  · intro hknown
    rcases f.unknown_or_plants with ⟨name, hname, hfind⟩ | ⟨planted, h⟩
    · obtain ⟨p, hp, hnamed⟩ := hknown name hname
      exact absurd hnamed (Preset.find?_eq_none_iff.mp hfind p hp)
    · exact ⟨planted, _, h.merges c⟩
  · rintro first second ⟨p, hp, hnamed⟩
    have hfind := Preset.find?_eq_some_iff.mpr ⟨hp, hnamed⟩
    refine ⟨?_, Preset.outcome_plant_plant hfind c⟩
    intro c' hfirst
    obtain ⟨q, rfl⟩ := Config.exists_applyTo_of_withPreset hfirst
    rw [Config.withPreset_of_find? hfind, Config.withPreset_of_find? hfind,
      Preset.applyTo_applyTo]

theorem layers_decide_pine :
    let f : Flags :=
      { preset := some " PINE\t", rules := some "F=FF;X=F", iterations := some 3, seed := some 9 }
    let c : Config :=
      { Config.standard with render := { Config.standard.render with autoScale := false } }
    (∃ p ∈ Preset.all, p.Named " PINE\t") ∧
      (∃ planted c', f.Merges planted c c' ∧ c'.get .rules = "F=FF\nX=F" ∧
        c'.get .iterations = (3 : UInt32) ∧ c'.get .start = "FX" ∧
        c'.get .autoScale = true ∧ c'.get .seed = some (9 : UInt64) ∧
        c'.get .leafScale = c.turtle.leafScale) ∧
      (∀ p ∈ Preset.all, ¬p.Named "\u017fpire") ∧
      ({ f with preset := some "\u017fpire" } : Flags).edit.outcome c =
        (.error (.unknownPreset "\u017fpire"), c) ∧
      (Preset.plant " PINE\t").outcome ((Preset.plant "fern").outcome c).2 =
        (Preset.plant " PINE\t").outcome c := by
  intro f c
  have hpine : Preset.pine ∈ Preset.all := by simp [Preset.all]
  have hnamed : Preset.pine.Named " PINE\t" := (Preset.named_iff hpine).mpr (by decide +kernel)
  have hunknown : ∀ p ∈ Preset.all, ¬p.Named "\u017fpire" := by
    rw [← Preset.find?_eq_none_iff, ← Option.not_isSome_iff_eq_none]
    decide +kernel
  obtain ⟨_, hmerged, _, hlater⟩ := layers_decide f c
  obtain ⟨hrefused, _⟩ := layers_decide { f with preset := some "\u017fpire" } c
  obtain ⟨planted, c', h⟩ := hmerged (by rintro _ ⟨⟩; exact ⟨_, hpine, hnamed⟩)
  have hplanted : planted = some Preset.pine := by
    rcases h.plants.cases with ⟨hnone, _⟩ | ⟨name, p, hname, rfl, hfind⟩
    · cases hnone
    · cases hname
      rw [← hfind, Preset.find?_eq_some_iff.mpr ⟨hpine, hnamed⟩]
  subst hplanted
  refine ⟨⟨_, hpine, hnamed⟩, ⟨_, c', h, ?_⟩, hunknown, (hrefused _ rfl hunknown).2,
    (hlater _ _ ⟨_, hpine, hnamed⟩).2⟩
  have hrules : ruleLines "F=FF;X=F" = "F=FF\nX=F" := by decide +kernel
  simp only [h.get_eq]
  exact ⟨hrules, rfl, rfl, rfl, rfl, rfl⟩

end Flags

end PlantGrowth
