import PlantGrowth.Config.Printer
import PlantGrowth.Config.Reader
import PlantGrowth.Proofs.QuotedText
import PlantGrowth.Proofs.RecordText

/-!
# Configurations read back

What a configuration is written as is read as that configuration, whatever characters its texts
hold and whatever its numbers are, as long as they are numbers.  With something that is not a
number in it, a configuration is not even equal to itself.
-/

namespace PlantGrowth

open Document

/-! ## Numbers and words -/

theorem readsBack_word32 (n : UInt32) : ReadsBack word32? (naturalOf n.toNat) n := by
  have h := (readsBack_natural 32 n.toNat_lt).map UInt32.ofNat
  rwa [UInt32.ofNat_toNat] at h

theorem readsBack_word64 (n : UInt64) : ReadsBack word64? (naturalOf n.toNat) n := by
  have h := (readsBack_natural 64 n.toNat_lt).map UInt64.ofNat
  rwa [UInt64.ofNat_toNat] at h

theorem readsBack_mode (m : RenderMode) :
    ReadsBack (variant? RenderMode.named) m.name.toList m := by
  cases m with
  | continuous => exact .of_ends ⟨rfl, by decide⟩ (fun _ => rfl) fun _ => rfl
  | discrete => exact .of_ends ⟨rfl, by decide⟩ (fun _ => rfl) fun _ => rfl

theorem readsBack_shape (m : Shape) : ReadsBack (variant? Shape.named) m.name.toList m := by
  cases m with
  | cylinder => exact .of_ends ⟨rfl, by decide⟩ (fun _ => rfl) fun _ => rfl
  | cuboid => exact .of_ends ⟨rfl, by decide⟩ (fun _ => rfl) fun _ => rfl

/-! ## Sections -/

theorem GrammarSettings.kind_lawful : GrammarSettings.kind.Lawful := by
  constructor <;> decide

theorem TurtleSettings.kind_lawful : TurtleSettings.kind.Lawful := by
  constructor <;> decide

theorem RenderSettings.kind_lawful : RenderSettings.kind.Lawful := by
  constructor <;> decide

theorem Limits.kind_lawful : Limits.kind.Lawful := by
  constructor <;> decide

theorem DebugSettings.kind_lawful : DebugSettings.kind.Lawful := by
  constructor <;> decide

theorem Config.kind_lawful : Config.kind.Lawful := by
  constructor <;> decide

/-- The numbers of a configuration that may be none. -/
def TurtleSettings.numbers (t : TurtleSettings) : List Binary32 :=
  [t.angle, t.variance, t.stepLength, t.baseWidth, t.taper, t.leafScale]

def RenderSettings.numbers (r : RenderSettings) : List Binary32 := [r.targetHeight, r.fieldOfView]

theorem GrammarSettings.readsBack (g : GrammarSettings) :
    GrammarSettings.kind.ReadsBack g.entries g :=
  ⟨_, .cons (readsBack_field (readsBack_text g.start) _ _) <|
    .cons (readsBack_field (readsBack_text g.rules) _ _) <|
    .cons (readsBack_field (readsBack_word32 g.iterations) _ _) .nil, fun _ => rfl⟩

theorem TurtleSettings.readsBack {t : TurtleSettings} (ht : ∀ x ∈ t.numbers, x.isNaN = false) :
    TurtleSettings.kind.ReadsBack t.entries t := by
  simp only [numbers, List.forall_mem_cons] at ht
  obtain ⟨hangle, hvariance, hstep, hwidth, htaper, hleaf, -⟩ := ht
  exact ⟨_, .cons (readsBack_field (readsBack_float hangle) _ _) <|
    .cons (readsBack_field (readsBack_float hvariance) _ _) <|
    .cons (readsBack_field (readsBack_float hstep) _ _) <|
    .cons (readsBack_field (readsBack_float hwidth) _ _) <|
    .cons (readsBack_field (readsBack_float htaper) _ _) <|
    .cons (readsBack_field (readsBack_float hleaf) _ _) <|
    .cons (readsBack_field (readsBack_bool t.tipsOnly) _ _) <|
    .cons (readsBack_fieldOption (readsBack_option fun n _ => readsBack_word64 n) _ _) .nil,
    fun _ => rfl⟩

theorem RenderSettings.readsBack {r : RenderSettings} (hr : ∀ x ∈ r.numbers, x.isNaN = false) :
    RenderSettings.kind.ReadsBack r.entries r := by
  simp only [numbers, List.forall_mem_cons] at hr
  obtain ⟨hheight, hview, -⟩ := hr
  exact ⟨_, .cons (readsBack_field (readsBack_mode r.mode) _ _) <|
    .cons (readsBack_field (readsBack_shape r.shape) _ _) <|
    .cons (readsBack_field (readsBack_word32 r.radialSegments) _ _) <|
    .cons (readsBack_field (readsBack_text r.baseColor) _ _) <|
    .cons (readsBack_field (readsBack_text r.tipColor) _ _) <|
    .cons (readsBack_field (readsBack_text r.leafColor) _ _) <|
    .cons (readsBack_field (readsBack_bool r.autoScale) _ _) <|
    .cons (readsBack_field (readsBack_float hheight) _ _) <|
    .cons (readsBack_field (readsBack_float hview) _ _) .nil, fun _ => rfl⟩

theorem Limits.readsBack (l : Limits) : Limits.kind.ReadsBack l.entries l :=
  ⟨_, .cons (readsBack_field (readsBack_word64 l.stringLength) _ _) <|
    .cons (readsBack_field (readsBack_word64 l.segments) _ _) <|
    .cons (readsBack_field (readsBack_word64 l.vertices) _ _) .nil, fun _ => rfl⟩

theorem DebugSettings.readsBack (d : DebugSettings) : DebugSettings.kind.ReadsBack d.entries d :=
  ⟨_, .cons (readsBack_field (readsBack_text d.logLevel) _ _) .nil, fun _ => rfl⟩

/-! ## Configurations -/

namespace Config

def numbers (c : Config) : List Binary32 := c.turtle.numbers ++ c.render.numbers

/-- Whether every number of a configuration is one. -/
def IsNumeric (c : Config) : Prop := ∀ x ∈ c.numbers, x.isNaN = false

instance (c : Config) : Decidable c.IsNumeric := inferInstanceAs (Decidable (∀ x ∈ _, _))

variable {c : Config}

theorem readsBack (hc : c.IsNumeric) : kind.ReadsBack c.entries c := by
  have hturtle := TurtleSettings.readsBack fun x hx => hc x (List.mem_append_left _ hx)
  have hrender := RenderSettings.readsBack fun x hx => hc x (List.mem_append_right _ hx)
  exact ⟨_, .cons (readsBack_fieldRecord GrammarSettings.kind_lawful c.grammar.readsBack _ _ _ 4) <|
    .cons (readsBack_fieldRecord TurtleSettings.kind_lawful hturtle _ _ _ 4) <|
    .cons (readsBack_fieldRecord RenderSettings.kind_lawful hrender _ _ _ 4) <|
    .cons (readsBack_fieldRecord Limits.kind_lawful c.limits.readsBack _ _ _ 4) <|
    .cons (readsBack_fieldRecord DebugSettings.kind_lawful c.debug.readsBack _ _ _ 4) .nil,
    fun _ => rfl⟩

/-- What is written for a configuration without anything that is not a number is read as it. -/
theorem parse_print (hc : c.IsNumeric) : parse c.print = .ok c := by
  rw [parse, print, document?_recordText kind_lawful (readsBack hc)]

end Config

/-! ## Equality -/

theorem Binary32.beq_self (x : Binary32) : (x == x) = !x.isNaN := by
  change (!x.isNaN && !x.isNaN && (x.bits == x.bits || _)) = _
  rw [beq_self_eq_true, Bool.true_or, Bool.and_true, Bool.and_self]

theorem GrammarSettings.beq_self (g : GrammarSettings) : (g == g) = true := by
  change (g.start == g.start && (g.rules == g.rules && g.iterations == g.iterations)) = true
  simp

theorem TurtleSettings.beq_self (t : TurtleSettings) :
    (t == t) = t.numbers.all fun x => !x.isNaN := by
  change (t.angle == t.angle && (t.variance == t.variance && (t.stepLength == t.stepLength &&
    (t.baseWidth == t.baseWidth && (t.taper == t.taper && (t.leafScale == t.leafScale &&
      (t.tipsOnly == t.tipsOnly && t.seed == t.seed))))))) = _
  simp [Binary32.beq_self, numbers]

theorem RenderSettings.beq_self (r : RenderSettings) :
    (r == r) = r.numbers.all fun x => !x.isNaN := by
  change (r.mode == r.mode && (r.shape == r.shape && (r.radialSegments == r.radialSegments &&
    (r.baseColor == r.baseColor && (r.tipColor == r.tipColor && (r.leafColor == r.leafColor &&
      (r.autoScale == r.autoScale && (r.targetHeight == r.targetHeight &&
        r.fieldOfView == r.fieldOfView)))))))) = _
  simp [Binary32.beq_self, numbers]

theorem DebugSettings.beq_self (d : DebugSettings) : (d == d) = true := by
  change (d.logLevel == d.logLevel) = true
  rw [beq_self_eq_true]

/-- A configuration is equal to itself if every number in it is one. -/
theorem Config.beq_self_iff (c : Config) : (c == c) = true ↔ c.IsNumeric := by
  have hbeq : (c == c) = (c.grammar == c.grammar && (c.turtle == c.turtle &&
      (c.render == c.render && (c.limits == c.limits && c.debug == c.debug)))) := rfl
  rw [hbeq, GrammarSettings.beq_self, TurtleSettings.beq_self, RenderSettings.beq_self,
    DebugSettings.beq_self, beq_self_eq_true, IsNumeric, numbers, Bool.true_and, Bool.true_and,
    Bool.and_true, ← List.all_append, List.all_eq_true]
  simp only [Bool.not_eq_true']

end PlantGrowth
