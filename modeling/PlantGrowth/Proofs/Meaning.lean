import PlantGrowth.Proofs.BuilderIndependence
import PlantGrowth.Proofs.Insertion
import PlantGrowth.Proofs.Symbols

/-!
# What a word means

A symbol that is no command means nothing to the turtle, wherever it stands.  Leaving one out is an
insertion read backwards: positions and noted marks move, and everything the walk does stays.  So
two words with the same commands in the same order are the same plant, whatever stands between
these commands.
-/

namespace PlantGrowth

variable {α β σ : Type} [Scalar α]

def Command.essential (commands : List Command) : List Command := commands.filter (· ≠ .noop)

namespace Visit

variable (S : Setting α β σ) (v : Visit α β σ)

/-- How many branches are open behind a `push`. -/
def depth? : Option Nat :=
  if v.command = .push then some (v.walk.stack.length + 1) else none

/-- The commands that are left unread when the builder is full. -/
def ending? : Option (List Command) :=
  if v.ends S = true then some (Command.essential v.rest) else none

theorem after_maxDepth :
    (v.after S).maxDepth = v.depth?.elim v.walk.maxDepth (max v.walk.maxDepth) := by
  cases hcommand : v.command <;>
    simp [after, depth?, hcommand, Walk.step, Walk.sprout_eq, Walk.mark_eq, Walk.pop_eq,
      Walk.draw, Walk.turn, Walk.turnAround, Walk.push]

end Visit

namespace Setting

variable (S : Setting α β σ)

def depths : List Nat := S.course.filterMap Visit.depth?

def endings : List (List Command) := S.course.filterMap (Visit.ending? S)

theorem tour_maxDepth : S.tour.walk.maxDepth = S.depths.foldl max 0 :=
  view_tour Walk.maxDepth _ _ (Visit.after_maxDepth S)

end Setting

/-- All that two walks do is the same, if not where in their words they do it. -/
structure SameDoings (S S' : Setting α β σ) : Prop where
  calls : S'.calls = S.calls
  leaves : S'.leaves = S.leaves
  sampleCount : S'.sampleCount = S.sampleCount
  depths : S'.depths = S.depths
  endings : S'.endings = S.endings

namespace SameDoings

variable {S S' S'' : Setting α β σ}

theorem refl (S : Setting α β σ) : SameDoings S S := ⟨rfl, rfl, rfl, rfl, rfl⟩

theorem symm (h : SameDoings S S') : SameDoings S' S :=
  ⟨h.calls.symm, h.leaves.symm, h.sampleCount.symm, h.depths.symm, h.endings.symm⟩

theorem trans (h : SameDoings S S') (h' : SameDoings S' S'') : SameDoings S S'' :=
  ⟨h'.calls.trans h.calls, h'.leaves.trans h.leaves, h'.sampleCount.trans h.sampleCount,
    h'.depths.trans h.depths, h'.endings.trans h.endings⟩

end SameDoings

/-! ## One symbol that means nothing -/

/-- The walks stand alike, have built the same and have the same chances left. -/
structure Walk.DoesLike (f : Nat → Nat) (w w' : Walk α β σ) : Prop
    extends w.StandsLike f w' where
  builder : w'.builder = w.builder
  source : w'.source = w.source

theorem growsOn_append_noop (front behind : List Command) :
    growsOn (front ++ ([.noop] ++ behind)) = growsOn (front ++ behind) := by
  induction front with
  | nil => rfl
  | cons c front ih => cases c <;> first | rfl | exact ih

theorem MarkedRun.readsOver_noop : ReadsOver [.noop] := fun _ _ _ _ => rfl

namespace Visit.Corresponds

variable {S : Setting α β σ} {v v' : Visit α β σ} {place : Nat}

omit [Scalar α] in
theorem growsOn_rest (h : v.Corresponds [.noop] place v') : growsOn v'.rest = growsOn v.rest := by
  cases h with
  | before => exact growsOn_append_noop _ _
  | behind => rfl

omit [Scalar α] in
theorem essential_rest (h : v.Corresponds [.noop] place v') :
    Command.essential v'.rest = Command.essential v.rest := by
  cases h with
  | before => simp [Command.essential]
  | behind => rfl

omit [Scalar α] in
theorem origin_eq (hwalk : v.walk.DoesLike (moved place ([.noop] : List Command).length) v'.walk) :
    v'.origin = v.origin := by
  rw [Visit.origin, hwalk.turtle]
  rfl

omit [Scalar α] in
theorem sampleCount_eq (h : v.Corresponds [.noop] place v') :
    v'.sampleCount S = v.sampleCount S := by
  unfold Visit.sampleCount leafAllowed
  rw [h.command, h.growsOn_rest]

variable (h : v.Corresponds [.noop] place v')
  (hwalk : v.walk.DoesLike (moved place ([.noop] : List Command).length) v'.walk)

include h hwalk

omit [Scalar α] in
theorem depth?_eq : v'.depth? = v.depth? := by
  rw [Visit.depth?, Visit.depth?, h.command, hwalk.stack, List.length_map]

theorem answer_eq : v'.answer S = v.answer S := by
  have hsegment := h.segment (S := S) MarkedRun.readsOver_noop hwalk.toStandsLike rfl
  rw [Visit.answer, Visit.answer, hsegment, origin_eq hwalk, hwalk.builder]

theorem call?_eq : v'.call? S = v.call? S := by
  have hsegment := h.segment (S := S) MarkedRun.readsOver_noop hwalk.toStandsLike rfl
  rw [Visit.call?, Visit.call?, h.command, hsegment, origin_eq hwalk]

theorem leaf?_eq : v'.leaf? S = v.leaf? S := by
  rw [Visit.leaf?, Visit.leaf?, h.command]
  unfold placeLeaf? leafAllowed
  rw [h.growsOn_rest, hwalk.turtle, hwalk.source]
  rfl

theorem ends_eq : v'.ends S = v.ends S := by
  rw [Bool.eq_iff_iff, Setting.ends_eq_true_iff, Setting.ends_eq_true_iff, h.command,
    h.answer_eq hwalk]

theorem ending?_eq : v'.ending? S = v.ending? S := by
  rw [Visit.ending?, Visit.ending?, h.ends_eq hwalk, h.essential_rest]

theorem after_doesLike :
    (v.after S).DoesLike (moved place ([.noop] : List Command).length) (v'.after S) := by
  refine ⟨?_, ?_, ?_⟩
  · apply h.after_standsLike MarkedRun.readsOver_noop hwalk.toStandsLike rfl
    · intro _
      rw [h.answer_eq hwalk]
    · rw [hwalk.source]
  · rw [Visit.after_builder, Visit.after_builder, h.call?_eq hwalk, hwalk.builder]
  · rw [Visit.after_source, Visit.after_source, h.sampleCount_eq, hwalk.source]

end Visit.Corresponds

namespace Setting

theorem goesAlong_noop (S : Setting α β σ) (commands commands' : List Command) (place : Nat) :
    GoesAlong (S.withCommands commands) (S.withCommands commands') [.noop] place
      (Walk.DoesLike (moved place ([.noop] : List Command).length)) := by
  constructor
  · intro v v' h hwalk
    exact ⟨h.ends_eq hwalk, h.after_doesLike hwalk⟩
  · intro w w' rest hwalk
    exact GetsOver.cons rfl (GetsOver.nil hwalk)

variable (S : Setting α β σ) (front behind : List Command)

/-- The visit to the inserted symbol is the only one that is left out. -/
theorem command_of_not_isOutside {v : Visit α β σ}
    (hv : v ∈ (S.withCommands (front ++ ([.noop] ++ behind))).course)
    (hinside : v.isOutside front.length ([.noop] : List Command).length = false) :
    v.command = .noop := by
  have hindex : v.index = front.length := by
    simp only [Visit.isOutside, Bool.or_eq_false_iff, decide_eq_false_iff_not,
      List.length_singleton] at hinside
    omega
  have hcommand := command_at_index hv
  rw [hindex] at hcommand
  simpa [withCommands] using hcommand.symm

private theorem filterMap_course_noop {δ : Type} {part : Visit α β σ → Option δ}
    (hpart : ∀ {v v' : Visit α β σ}, v.Corresponds [.noop] front.length v' →
      v.walk.DoesLike (moved front.length ([.noop] : List Command).length) v'.walk →
      part v' = part v)
    (hnoop : ∀ v : Visit α β σ, v.command = .noop → part v = none) :
    (S.withCommands (front ++ ([.noop] ++ behind))).course.filterMap part =
      (S.withCommands (front ++ behind)).course.filterMap part := by
  have hfilter : (S.withCommands (front ++ ([.noop] ++ behind))).course.filterMap part =
      ((S.withCommands (front ++ ([.noop] ++ behind))).course.filter
        (Visit.isOutside front.length ([.noop] : List Command).length)).filterMap part := by
    rw [List.filterMap_filter]
    apply List.filterMap_congr
    intro v hv
    split
    · rfl
    · rename_i hinside
      exact hnoop v (command_of_not_isOutside S front behind hv (by simpa using hinside))
  rw [hfilter]
  have hgoes := goesAlong_noop S (front ++ behind) (front ++ ([.noop] ++ behind)) front.length
  exact hgoes.filterMap_course rfl rfl ⟨⟨rfl, rfl⟩, rfl, rfl⟩ hpart

omit [Scalar α] in
theorem sum_sampleCount_eq (visits : List (Visit α β σ)) :
    (visits.map (Visit.sampleCount S)).sum =
      (visits.filterMap fun v =>
        if v.command = .noop then none else some (v.sampleCount S)).sum := by
  induction visits with
  | nil => rfl
  | cons v visits ih =>
      by_cases hnoop : v.command = .noop
      · simp [hnoop, ih, Visit.sampleCount]
      · simp [hnoop, ih]

theorem sameDoings_insert_noop :
    SameDoings (S.withCommands (front ++ behind))
      (S.withCommands (front ++ ([.noop] ++ behind))) where
  calls := by
    apply filterMap_course_noop S front behind
    · exact fun h hwalk => h.call?_eq hwalk
    · exact fun v hnoop => by simp [Visit.call?, hnoop]
  leaves := by
    apply filterMap_course_noop S front behind
    · exact fun h hwalk => h.leaf?_eq hwalk
    · exact fun v hnoop => by simp [Visit.leaf?, hnoop]
  sampleCount := by
    unfold sampleCount
    rw [sum_sampleCount_eq, sum_sampleCount_eq]
    apply congrArg List.sum
    apply filterMap_course_noop S front behind
    · intro v v' h _
      rw [h.command, h.sampleCount_eq]
    · exact fun v hnoop => by simp [hnoop]
  depths := by
    apply filterMap_course_noop S front behind
    · exact fun h hwalk => h.depth?_eq hwalk
    · exact fun v hnoop => by simp [Visit.depth?, hnoop]
  endings := by
    apply filterMap_course_noop S front behind
    · exact fun h hwalk => h.ending?_eq hwalk
    · exact fun v hnoop => by simp [Visit.ending?, Visit.ends, Walk.ends, hnoop]

theorem sameDoings_essential :
    SameDoings (S.withCommands (front ++ Command.essential behind))
      (S.withCommands (front ++ behind)) := by
  induction behind generalizing front with
  | nil => exact SameDoings.refl _
  | cons c behind ih =>
      -- commands that have a meaning go over to the front, the others are inserted there
      have hrest := ih (front ++ [c])
      rw [List.append_assoc, List.append_assoc] at hrest
      by_cases hnoop : c = .noop
      · subst hnoop
        have hess : Command.essential (.noop :: behind) = Command.essential behind := rfl
        rw [hess]
        exact (ih front).trans (sameDoings_insert_noop S front behind)
      · have hess : Command.essential (c :: behind) = c :: Command.essential behind := by
          simp [Command.essential, hnoop]
        rw [hess]
        exact hrest

/-! ## Words of one meaning -/

/-- All that two walks ask for on their way and give in the end is the same. -/
structure SamePlant (S S' : Setting α β σ) : Prop where
  calls : S'.calls = S.calls
  leaves : S'.leaves = S.leaves
  sampleCount : S'.sampleCount = S.sampleCount
  samples : S'.samples = S.samples
  source : S'.tour.walk.source = S.tour.walk.source
  builder : S'.tour.walk.builder = S.tour.walk.builder
  foliage : S'.tour.walk.foliage = S.tour.walk.foliage
  extent : S'.tour.walk.extent = S.tour.walk.extent
  segments : S'.tour.walk.segments = S.tour.walk.segments
  maxDepth : S'.tour.walk.maxDepth = S.tour.walk.maxDepth

variable {S} {commands commands' : List Command}

theorem samePlant_of_sameDoings
    (h : SameDoings (S.withCommands commands) (S.withCommands commands')) :
    SamePlant (S.withCommands commands) (S.withCommands commands') where
  calls := h.calls
  leaves := h.leaves
  sampleCount := h.sampleCount
  samples := by
    rw [samples_eq_take, samples_eq_take, h.sampleCount]
    rfl
  source := by
    rw [tour_source, tour_source, h.sampleCount]
    rfl
  builder := by
    rw [tour_builder, tour_builder, h.calls]
    rfl
  foliage := by
    rw [tour_foliage, tour_foliage, h.leaves]
    rfl
  extent := by
    rw [tour_extent, tour_extent, Setting.segments, Setting.segments, h.calls]
  segments := by
    rw [tour_segments, tour_segments, Setting.segments, Setting.segments, h.calls]
  maxDepth := by
    rw [tour_maxDepth, tour_maxDepth, h.depths]

theorem stoppedEarly_iff_exists_ends {T : Setting α β σ} :
    T.tour.stoppedEarly = true ↔ ∃ v ∈ T.course, v.ends T = true ∧ v.rest ≠ [] := by
  simp only [stoppedEarly_iff, ends_eq_true_iff, and_assoc]

theorem mem_endings_iff {T : Setting α β σ} {left : List Command} :
    left ∈ T.endings ↔ ∃ v ∈ T.course, v.ends T = true ∧ Command.essential v.rest = left := by
  simp [endings, Visit.ending?]

/-- If only the first walk has left something unread, nothing of it has a meaning. -/
theorem noops_left_of_sameDoings {T T' : Setting α β σ} (h : SameDoings T T')
    (hstopped : T.tour.stoppedEarly = true) (hread : T'.tour.stoppedEarly = false) :
    ∃ v ∈ T.course, v.ends T = true ∧ v.rest ≠ [] ∧ ∀ c ∈ v.rest, c = .noop := by
  obtain ⟨v, hv, hends, hrest⟩ := stoppedEarly_iff_exists_ends.mp hstopped
  have hending : Command.essential v.rest ∈ T'.endings := by
    rw [h.endings]
    exact mem_endings_iff.mpr ⟨v, hv, hends, rfl⟩
  -- the other walk fills its builder too, and has nothing left behind that
  obtain ⟨v', hv', hends', hleft⟩ := mem_endings_iff.mp hending
  have hrest' : v'.rest = [] := by
    by_contra hne
    have hstopped' := stoppedEarly_iff_exists_ends.mpr ⟨v', hv', hends', hne⟩
    rw [hread] at hstopped'
    contradiction
  rw [hrest'] at hleft
  have hnone : Command.essential v.rest = [] := hleft.symm
  refine ⟨v, hv, hends, hrest, ?_⟩
  intro c hc
  by_contra hne
  have hmem : c ∈ Command.essential v.rest := List.mem_filter.mpr ⟨hc, by simpa using hne⟩
  rw [hnone] at hmem
  contradiction

variable {word word' : Word}

theorem rest_eq_ofWord {v : Visit α β σ} (hv : v ∈ (S.withWord word).course) :
    v.ahead = Command.ofWord (word.drop v.index) ∧
      v.rest = Command.ofWord (word.drop (v.index + 1)) := by
  have hdrop := drop_index hv
  have hahead : v.ahead = Command.ofWord (word.drop v.index) := by
    rw [← hdrop]
    exact List.map_drop.symm
  refine ⟨hahead, ?_⟩
  have htail := congrArg List.tail hahead
  simpa [Visit.ahead, Command.ofWord] using htail

/-- The walk fills its builder, and the symbols it has then left unread are no commands. -/
def LeavesOnlyNoops (S : Setting α β σ) (word : Word) : Prop :=
  ∃ v ∈ (S.withWord word).course,
    v.command = .forward ∧ S.builder.full (v.answer (S.withWord word)).1 = true ∧
      word.drop (v.index + 1) ≠ [] ∧
      ∀ symbol ∈ word.drop (v.index + 1), Command.ofSymbol symbol = .noop

/-- Wherever the walk looks ahead, it could as well look at the symbols themselves. -/
def LooksAtSymbols (S : Setting α β σ) (word : Word) : Prop :=
  ∀ v ∈ (S.withWord word).course,
    MarkedRun.scan v.index v.ahead =
        MarkedRun.scanSymbolsFrom 0 0 v.index (word.drop v.index) ∧
      growsOn v.rest = growsOnSymbols (word.drop (v.index + 1))

theorem looksAtSymbols (S : Setting α β σ) (word : Word) : S.LooksAtSymbols word := by
  intro v hv
  obtain ⟨hahead, hrest⟩ := rest_eq_ofWord hv
  rw [hahead, hrest, MarkedRun.scanSymbolsFrom_eq, growsOnSymbols_eq]
  exact ⟨rfl, rfl⟩

theorem leavesOnlyNoops_of_sameDoings
    (h : SameDoings (S.withWord word) (S.withWord word'))
    (hstopped : (S.withWord word).tour.stoppedEarly = true)
    (hread : (S.withWord word').tour.stoppedEarly = false) : S.LeavesOnlyNoops word := by
  obtain ⟨v, hv, hends, hne, hnoops⟩ := noops_left_of_sameDoings h hstopped hread
  obtain ⟨hforward, hfull⟩ := ends_eq_true_iff.mp hends
  obtain ⟨_, hrest⟩ := rest_eq_ofWord hv
  rw [hrest] at hne hnoops
  refine ⟨v, hv, hforward, hfull, ?_, ?_⟩
  · intro hnil
    rw [hnil] at hne
    exact hne rfl
  · intro symbol hsymbol
    exact hnoops _ (List.mem_map_of_mem hsymbol)

/-- A word means to the turtle what is left of it when everything that is no command is deleted. -/
theorem same_plant_of_essential_eq (S : Setting α β σ)
    (hwords : Command.essential (Command.ofWord word) =
      Command.essential (Command.ofWord word')) :
    SamePlant (S.withWord word) (S.withWord word') ∧
      ((S.withWord word).tour.stoppedEarly ≠ (S.withWord word').tour.stoppedEarly →
        S.LeavesOnlyNoops word ∨ S.LeavesOnlyNoops word') ∧
      S.LooksAtSymbols word ∧ S.LooksAtSymbols word' := by
  have hessential := S.sameDoings_essential [] (Command.ofWord word)
  have hessential' := S.sameDoings_essential [] (Command.ofWord word')
  rw [← hwords] at hessential'
  have hsame : SameDoings (S.withWord word) (S.withWord word') :=
    hessential.symm.trans hessential'
  refine ⟨samePlant_of_sameDoings hsame, ?_, S.looksAtSymbols word, S.looksAtSymbols word'⟩
  intro hdiffer
  cases hstopped : (S.withWord word).tour.stoppedEarly with
  | true =>
      have hread : (S.withWord word').tour.stoppedEarly = false := by
        simpa [hstopped] using hdiffer.symm
      exact Or.inl (leavesOnlyNoops_of_sameDoings hsame hstopped hread)
  | false =>
      have hstopped' : (S.withWord word').tour.stoppedEarly = true := by
        simpa [hstopped] using hdiffer.symm
      exact Or.inr (leavesOnlyNoops_of_sameDoings hsame.symm hstopped' hstopped)

theorem same_plant_of_essential_eq_shrub :
    Command.essential (Command.ofWord "FX[+L]!FY".toList) =
        Command.essential (Command.ofWord "G[Z+P]!G".toList) ∧
      ((shrub Float32 2).withWord "FX[+L]!FY".toList).tour.stoppedEarly ≠
        ((shrub Float32 2).withWord "G[Z+P]!G".toList).tour.stoppedEarly ∧
      SamePlant ((shrub Float32 2).withWord "FX[+L]!FY".toList)
        ((shrub Float32 2).withWord "G[Z+P]!G".toList) ∧
      ((shrub Float32 2).LeavesOnlyNoops "FX[+L]!FY".toList ∨
        (shrub Float32 2).LeavesOnlyNoops "G[Z+P]!G".toList) := by
  have hwords : Command.essential (Command.ofWord "FX[+L]!FY".toList) =
      Command.essential (Command.ofWord "G[Z+P]!G".toList) := by decide
  have hdiffer : ((shrub Float32 2).withWord "FX[+L]!FY".toList).tour.stoppedEarly ≠
      ((shrub Float32 2).withWord "G[Z+P]!G".toList).tour.stoppedEarly := by decide
  obtain ⟨hplant, hleft, _⟩ := same_plant_of_essential_eq (shrub Float32 2) hwords
  exact ⟨hwords, hdiffer, hplant, hleft hdiffer⟩

end Setting

end PlantGrowth
