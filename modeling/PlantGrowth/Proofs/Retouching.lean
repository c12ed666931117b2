import PlantGrowth.Proofs.OutputConsistency

/-!
# Retouching a plant

A finished plant can be coloured again and its leaves can be rescaled, any number of times and in
any order.  A retouch puts its own work in place of what the last one of its kind has left, and
works from what was grown and not from what is shown.  So a plant shows the last retouch of either
kind and nothing of those before.
-/

namespace PlantGrowth

variable {α σ : Type} [Scalar α]

/-! ## Leaves -/

namespace Foliage

/-- Every leaf is shown with the multiplier of the foliage. -/
def Shown (f : Foliage α) : Prop := ∀ leaf ∈ f.leaves, leaf = Leaf.scaled leaf.base f.multiplier

def bases (f : Foliage α) : Array (LeafTransform α) := f.leaves.map Leaf.base

variable {f : Foliage α}

theorem shown_empty (multiplier : α) : (empty multiplier).Shown := by
  intro leaf hleaf
  simp [empty] at hleaf

theorem Shown.push (h : f.Shown) (base : LeafTransform α) : (f.push base).Shown := by
  intro leaf hleaf
  rcases Array.mem_push.mp hleaf with hleaf | rfl
  · exact h leaf hleaf
  · rfl

theorem Shown.foldl_push (h : f.Shown) (bases : List (LeafTransform α)) :
    (bases.foldl Foliage.push f).Shown := by
  induction bases generalizing f with
  | nil => exact h
  | cons base bases ih => exact ih (h.push base)

theorem multiplier_foldl_push (f : Foliage α) (bases : List (LeafTransform α)) :
    (bases.foldl Foliage.push f).multiplier = f.multiplier := by
  induction bases generalizing f with
  | nil => rfl
  | cons base bases ih => exact ih (f.push base)

theorem shown_rescale (f : Foliage α) (multiplier : α) : (f.rescale multiplier).Shown := by
  intro leaf hleaf
  obtain ⟨old, _, rfl⟩ := Array.mem_map.mp hleaf
  rfl

theorem Shown.current_eq (h : f.Shown) {leaf : Leaf α} (hleaf : leaf ∈ f.leaves) :
    leaf.current = { leaf.base with scale := leaf.base.scale * f.multiplier } :=
  congrArg Leaf.current (h leaf hleaf)

/-- A leaf is rescaled from its base, whatever it is shown with. -/
theorem rescale_rescale (f : Foliage α) (first second : α) :
    (f.rescale first).rescale second = f.rescale second := by
  simp [rescale, Leaf.scaled]

theorem rescale_push (f : Foliage α) (base : LeafTransform α) (multiplier : α) :
    (f.push base).rescale multiplier = (f.rescale multiplier).push base := by
  simp [rescale, push, Leaf.scaled]

theorem Shown.rescale_multiplier (h : f.Shown) : f.rescale f.multiplier = f := by
  have hleaves : f.leaves.map (fun leaf => Leaf.scaled leaf.base f.multiplier) = f.leaves := by
    rw [Array.map_congr_left fun leaf hleaf => (h leaf hleaf).symm, Array.map_id']
  simp only [rescale, hleaves]

theorem bases_rescale (f : Foliage α) (multiplier : α) :
    (f.rescale multiplier).bases = f.bases := by
  simp [bases, rescale, Leaf.scaled, Function.comp_def]

/-- One change to a foliage in the making. -/
inductive Edit (α : Type) where
  | push (base : LeafTransform α)
  | rescale (multiplier : α)

namespace Edit

def apply (f : Foliage α) : Edit α → Foliage α
  | push base => f.push base
  | rescale multiplier => f.rescale multiplier

omit [Scalar α] in
def base? : Edit α → Option (LeafTransform α)
  | push base => some base
  | rescale _ => none

omit [Scalar α] in
def multiplier? : Edit α → Option α
  | push _ => none
  | rescale multiplier => some multiplier

end Edit

/-- Leaves that come between rescalings end up as if all had come before the last one. -/
theorem Shown.foldl_apply (h : f.Shown) (edits : List (Edit α)) :
    edits.foldl Edit.apply f =
      ((edits.filterMap Edit.base?).foldl Foliage.push f).rescale
        ((edits.filterMap Edit.multiplier?).getLast?.getD f.multiplier) := by
  induction edits using List.reverseRecOn with
  | nil => exact h.rescale_multiplier.symm
  | append_singleton edits edit ih =>
      rw [List.foldl_append, List.foldl_cons, List.foldl_nil, ih, List.filterMap_append,
        List.filterMap_append]
      cases edit with
      | push base =>
          simp [Edit.apply, Edit.base?, Edit.multiplier?, List.filterMap_cons, rescale_push]
      | rescale multiplier =>
          simp [Edit.apply, Edit.base?, Edit.multiplier?, List.filterMap_cons, rescale_rescale]

end Foliage

/-! ## Whole plants -/

/-- A change to a finished plant that takes no new walk. -/
inductive Retouch (α : Type) where
  | recolor (base tip : Vec3 α)
  | rescale (multiplier : α)

namespace Retouch

omit [Scalar α] in
def colors? : Retouch α → Option (Vec3 α × Vec3 α)
  | recolor base tip => some (base, tip)
  | rescale _ => none

omit [Scalar α] in
def multiplier? : Retouch α → Option α
  | recolor _ _ => none
  | rescale multiplier => some multiplier

/-- The colours of the last recolouring, if there is one. -/
def lastColors? (retouches : List (Retouch α)) : Option (Vec3 α × Vec3 α) :=
  (retouches.filterMap colors?).getLast?

/-- The multiplier of the last rescaling, if there is one. -/
def lastMultiplier? (retouches : List (Retouch α)) : Option α :=
  (retouches.filterMap multiplier?).getLast?

omit [Scalar α] in
theorem lastColors?_concat (retouches : List (Retouch α)) (last : Retouch α) :
    lastColors? (retouches ++ [last]) = last.colors?.or (lastColors? retouches) := by
  cases last <;> simp [lastColors?, colors?, List.filterMap_cons]

omit [Scalar α] in
theorem lastMultiplier?_concat (retouches : List (Retouch α)) (last : Retouch α) :
    lastMultiplier? (retouches ++ [last]) = last.multiplier?.or (lastMultiplier? retouches) := by
  cases last <;> simp [lastMultiplier?, multiplier?, List.filterMap_cons]

end Retouch

/-- What was built, whatever its colours. -/
def Geometry.uncolored : Geometry α → Geometry α
  | .tube mesh => .tube { mesh with colors := #[] }
  | .instances list => .instances list

namespace Output

def retouch (o : Output α) : Retouch α → Output α
  | .recolor base tip => o.recolor base tip
  | .rescale multiplier => o.rescale multiplier

def retouched (o : Output α) (retouches : List (Retouch α)) : Output α :=
  retouches.foldl retouch o

/-- The plant in these colours, or as it is if there are none. -/
def inColors (o : Output α) : Option (Vec3 α × Vec3 α) → Output α
  | some (base, tip) => o.recolor base tip
  | none => o

/-- The plant with this multiplier, or as it is if there is none. -/
def inScale (o : Output α) : Option α → Output α
  | some multiplier => o.rescale multiplier
  | none => o

theorem recolor_recolor (o : Output α) (base tip base' tip' : Vec3 α) :
    (o.recolor base tip).recolor base' tip' = o.recolor base' tip' := by
  obtain ⟨geometry, foliage, extent, branchColors, leafColor, stats, seed⟩ := o
  cases geometry <;> rfl

theorem rescale_rescale (o : Output α) (first second : α) :
    (o.rescale first).rescale second = o.rescale second := by
  simp only [rescale, Foliage.rescale_rescale]

theorem recolor_rescale (o : Output α) (base tip : Vec3 α) (multiplier : α) :
    (o.rescale multiplier).recolor base tip = (o.recolor base tip).rescale multiplier := by
  obtain ⟨geometry, foliage, extent, branchColors, leafColor, stats, seed⟩ := o
  cases geometry <;> rfl

theorem recolor_inScale (o : Output α) (base tip : Vec3 α) (multiplier? : Option α) :
    (o.inScale multiplier?).recolor base tip = (o.recolor base tip).inScale multiplier? := by
  cases multiplier? with
  | none => rfl
  | some multiplier => exact o.recolor_rescale base tip multiplier

theorem recolor_inColors (o : Output α) (colors? : Option (Vec3 α × Vec3 α)) (base tip : Vec3 α) :
    (o.inColors colors?).recolor base tip = o.recolor base tip := by
  cases colors? with
  | none => rfl
  | some colors => exact o.recolor_recolor _ _ base tip

theorem rescale_inScale (o : Output α) (multiplier? : Option α) (multiplier : α) :
    (o.inScale multiplier?).rescale multiplier = o.rescale multiplier := by
  cases multiplier? with
  | none => rfl
  | some first => exact o.rescale_rescale first multiplier

/-- A plant shows the last retouch of either kind. -/
theorem retouched_eq (o : Output α) (retouches : List (Retouch α)) :
    o.retouched retouches =
      (o.inColors (Retouch.lastColors? retouches)).inScale
        (Retouch.lastMultiplier? retouches) := by
  induction retouches using List.reverseRecOn with
  | nil => rfl
  | append_singleton retouches last ih =>
      have hlast : o.retouched (retouches ++ [last]) = (o.retouched retouches).retouch last := by
        simp [retouched]
      rw [hlast, ih, Retouch.lastColors?_concat, Retouch.lastMultiplier?_concat]
      cases last with
      | recolor base tip => exact (recolor_inScale _ _ _ _).trans (by rw [recolor_inColors]; rfl)
      | rescale multiplier => exact rescale_inScale _ _ _

/-- A tube has one colour for each vertex. -/
def Colored (o : Output α) : Prop :=
  ∀ mesh, o.geometry = .tube mesh → mesh.colors.size = mesh.positions.size

theorem colored_recolor (o : Output α) (base tip : Vec3 α) : (o.recolor base tip).Colored := by
  obtain ⟨geometry, foliage, extent, branchColors, leafColor, stats, seed⟩ := o
  intro mesh hmesh
  cases geometry with
  | tube grown =>
      obtain rfl : grown.recolor _ = mesh := Geometry.tube.inj hmesh
      exact Array.size_map
  | instances list => cases hmesh

/-- `o` is the plant `fresh` as it was grown, in the colours `colors?` if there are any and with
its leaves shown with `multiplier`. -/
structure Retouches (o fresh : Output α) (colors? : Option (Vec3 α × Vec3 α)) (multiplier : α) :
    Prop where
  built : o.geometry.uncolored = fresh.geometry.uncolored
  extent : o.extent = fresh.extent
  stats : o.stats = fresh.stats
  seed : o.seed = fresh.seed
  leafColor : o.leafColor = fresh.leafColor
  bases : o.foliage.bases = fresh.foliage.bases
  geometry : o.geometry = (fresh.inColors colors?).geometry
  branchColors : o.branchColors = (fresh.inColors colors?).branchColors
  colored : o.Colored
  current : ∀ leaf ∈ o.foliage.leaves,
    leaf.current = { leaf.base with scale := leaf.base.scale * multiplier }

theorem inColors_retouches {fresh : Output α} (hcolored : fresh.Colored)
    (hshown : fresh.foliage.Shown) (colors? : Option (Vec3 α × Vec3 α)) :
    (fresh.inColors colors?).Retouches fresh colors? fresh.foliage.multiplier := by
  cases colors? with
  | none => exact ⟨rfl, rfl, rfl, rfl, rfl, rfl, rfl, rfl, hcolored, fun _ => hshown.current_eq⟩
  | some colors =>
      have hrecolored := fresh.colored_recolor colors.1 colors.2
      obtain ⟨geometry, foliage, extent, branchColors, leafColor, stats, seed⟩ := fresh
      cases geometry <;>
        exact ⟨rfl, rfl, rfl, rfl, rfl, rfl, rfl, rfl, hrecolored, fun _ => hshown.current_eq⟩

theorem Retouches.rescale {o fresh : Output α} {colors? : Option (Vec3 α × Vec3 α)}
    {first : α} (h : o.Retouches fresh colors? first) (multiplier : α) :
    (o.rescale multiplier).Retouches fresh colors? multiplier where
  built := h.built
  extent := h.extent
  stats := h.stats
  seed := h.seed
  leafColor := h.leafColor
  bases := (o.foliage.bases_rescale multiplier).trans h.bases
  geometry := h.geometry
  branchColors := h.branchColors
  colored := h.colored
  current := fun _ => (o.foliage.shown_rescale multiplier).current_eq

theorem retouched_retouches {fresh : Output α} (hcolored : fresh.Colored)
    (hshown : fresh.foliage.Shown) (retouches : List (Retouch α)) :
    (fresh.retouched retouches).Retouches fresh (Retouch.lastColors? retouches)
      ((Retouch.lastMultiplier? retouches).getD fresh.foliage.multiplier) := by
  have hcolors := inColors_retouches hcolored hshown (Retouch.lastColors? retouches)
  rw [retouched_eq]
  cases Retouch.lastMultiplier? retouches with
  | none => exact hcolors
  | some multiplier => exact hcolors.rescale multiplier

end Output

namespace Request

variable (r : Request α) (source : Source α σ) (s : σ)

theorem output_colored : (r.generation source s).output.Colored := Output.colored_recolor _ _ _

theorem output_foliage :
    (r.generation source s).output.foliage =
      (r.setting source s).leaves.foldl Foliage.push (Foliage.empty r.habit.leafScale) := by
  rw [(r.generation source s).output_foliage_extent.1, generation_tour]
  exact Setting.tour_foliage (S := r.setting source s)

theorem output_shown : (r.generation source s).output.foliage.Shown := by
  rw [output_foliage]
  exact (Foliage.shown_empty _).foldl_push _

theorem output_multiplier :
    (r.generation source s).output.foliage.multiplier = r.habit.leafScale := by
  rw [output_foliage, Foliage.multiplier_foldl_push]
  rfl

/-- A plant of a finished run shows the last recolouring and the last rescaling and is otherwise as
it was grown, whatever other retouches there were and in whatever order.  A foliage that is
rescaled while it is made ends up as if it had been rescaled once at the end. -/
theorem last_retouches_decide :
    (∀ (r : Request α) (source : Source α σ) (s : σ) (seed : Option UInt64),
      let fresh := { (r.generation source s).output with seed }
      (∀ retouches, (fresh.retouched retouches).Retouches fresh
        (Retouch.lastColors? retouches)
        ((Retouch.lastMultiplier? retouches).getD r.habit.leafScale)) ∧
      ∀ retouches retouches',
        Retouch.lastColors? retouches = Retouch.lastColors? retouches' →
          Retouch.lastMultiplier? retouches = Retouch.lastMultiplier? retouches' →
            fresh.retouched retouches = fresh.retouched retouches') ∧
      ∀ (multiplier : α) (edits : List (Foliage.Edit α)),
        edits.foldl Foliage.Edit.apply (Foliage.empty multiplier) =
          ((edits.filterMap Foliage.Edit.base?).foldl Foliage.push
            (Foliage.empty multiplier)).rescale
              ((edits.filterMap Foliage.Edit.multiplier?).getLast?.getD multiplier) := by
  constructor
  · intro r source s seed fresh
    have hshown : fresh.foliage.Shown := r.output_shown source s
    have hcolored : fresh.Colored := r.output_colored source s
    constructor
    · intro retouches
      rw [← r.output_multiplier source s]
      exact Output.retouched_retouches hcolored hshown retouches
    · intro retouches retouches' hcolors hmultiplier
      rw [Output.retouched_eq, Output.retouched_eq, hcolors, hmultiplier]
  · intro multiplier edits
    exact (Foliage.shown_empty multiplier).foldl_apply edits

def sprig : Request Float32 :=
  { Request.ofGrammar ⟨"F[+FL]L".toList, []⟩ 0 with mode := .discrete .cuboid }

theorem last_retouches_decide_sprig :
    let fresh :=
      { (sprig.generation (Source.constant Scalar.half) ()).output with seed := some 7 }
    let dark := Vec3.splat (1 : Float32)
    let light := Vec3.splat (2 : Float32)
    let retouches := [Retouch.rescale 3, .recolor light dark, .recolor dark light, .rescale 2]
    let retouches' := [Retouch.rescale 2, .recolor dark light]
    Retouch.lastColors? retouches = Retouch.lastColors? retouches' ∧
      Retouch.lastMultiplier? retouches = Retouch.lastMultiplier? retouches' ∧
      fresh.retouched retouches = fresh.retouched retouches' ∧
      (fresh.retouched retouches).foliage.count = 2 ∧
      ∀ leaf ∈ (fresh.retouched retouches).foliage.leaves,
        leaf.current = { leaf.base with scale := leaf.base.scale * 2 } := by
  intro fresh dark light retouches retouches'
  have hcolors : Retouch.lastColors? retouches = Retouch.lastColors? retouches' := by
    simp [retouches, retouches', Retouch.lastColors?, Retouch.colors?, List.findSome?_cons]
  have hmultiplier : Retouch.lastMultiplier? retouches = Retouch.lastMultiplier? retouches' := by
    simp [retouches, retouches', Retouch.lastMultiplier?, Retouch.multiplier?, List.filterMap_cons]
  obtain ⟨hretouches, hsame⟩ :=
    last_retouches_decide.1 sprig (Source.constant Scalar.half) () (some 7)
  have hlast : Retouch.lastMultiplier? retouches = some 2 := by
    simp [retouches, Retouch.lastMultiplier?, Retouch.multiplier?, List.filterMap_cons]
  have hcurrent := (hretouches retouches).current
  rw [hlast] at hcurrent
  exact ⟨hcolors, hmultiplier, hsame retouches retouches' hcolors hmultiplier, by decide +kernel,
    hcurrent⟩

end Request

end PlantGrowth
