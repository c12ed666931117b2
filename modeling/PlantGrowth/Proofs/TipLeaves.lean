import PlantGrowth.Proofs.ParallelWalks
import PlantGrowth.Proofs.SideBranches

/-!
# Leaves at tips only

Whether a leaf is allowed is asked before any sample is drawn for it, and nothing but leaves is
told of the answer.  With samples that are all the same, a plant with leaves at tips only is
therefore the plant with all leaves, less the leaves behind which the branch grows on.
-/

namespace PlantGrowth

variable {α β σ : Type}

/-- The symbols that decide whether a branch grows on: those that draw, and the brackets. -/
def decidesGrowth (symbol : Char) : Bool :=
  Command.isForwardSymbol symbol || symbol == '[' || symbol == ']'

/-- Whether position `i` is at a tip: the first symbol behind it that decides closes the branch, or
there is none. -/
def atTip (word : Word) (i : Nat) : Bool :=
  ((word.drop (i + 1)).find? decidesGrowth).all (· == ']')

theorem growsOnSymbols_eq_not_all (word : Word) :
    growsOnSymbols word = !(word.find? decidesGrowth).all (· == ']') := by
  induction word with
  | nil => rfl
  | cons symbol rest ih =>
      rw [growsOnSymbols, List.find?_cons]
      by_cases hpop : symbol = ']'
      · simp [hpop, decidesGrowth]
      by_cases hgrows : symbol = '[' ∨ Command.isForwardSymbol symbol = true
      · have hdecides : decidesGrowth symbol = true := by
          rcases hgrows with hpush | hforward
          · simp [decidesGrowth, hpush]
          · simp [decidesGrowth, hforward]
        simp [hpop, hgrows, hdecides]
      · have hpasses : decidesGrowth symbol = false := by
          rw [not_or, Bool.not_eq_true] at hgrows
          simp [decidesGrowth, hgrows, hpop]
        simp only [hpop, hgrows, hpasses, if_false, ih]

theorem leafAllowed_iff_atTip (word : Word) (i : Nat) :
    leafAllowed true (Command.ofWord (word.drop (i + 1))) = atTip word i := by
  rw [leafAllowed, ← growsOnSymbols_eq, growsOnSymbols_eq_not_all, atTip, Bool.true_and,
    Bool.not_not]

variable [Scalar α]

namespace Setting

def withTipsOnly (S : Setting α β σ) (tipsOnly : Bool) : Setting α β σ :=
  { S with habit := { S.habit with tipsOnly } }

variable {S : Setting α β σ} (hconstant : S.source.IsConstant)

include hconstant

theorem sameTurns_withTipsOnly (tipsOnly tipsOnly' : Bool) :
    (S.withTipsOnly tipsOnly).SameTurns (S.withTipsOnly tipsOnly') where
  commands := rfl
  builder := rfl
  built := rfl
  habit := ⟨tipsOnly', rfl⟩
  angle := fun s s' => congrArg (jittered S.habit.angle S.habit.variance) (hconstant.next_eq s' s)

theorem leaf?_withTipsOnly (v : Visit α β σ) {w' : Walk α β σ} (hwalk : v.walk.SameFrame w') :
    (v.withWalk w').leaf? (S.withTipsOnly true) =
      (v.leaf? (S.withTipsOnly false)).filter fun _ => leafAllowed true v.rest := by
  rw [Visit.leaf?_eq, Visit.leaf?_eq]
  have hfirst := hconstant.next_eq w'.source v.walk.source
  have hsecond := hconstant.next_eq (S.source.next w'.source).2 (S.source.next v.walk.source).2
  simp only [Visit.withWalk, withTipsOnly, hwalk.turtle, hfirst, hsecond]
  have hfree : leafAllowed false v.rest = true := rfl
  by_cases hcommand : v.command = .leaf
  · cases hallowed : leafAllowed true v.rest with
    | true => simp [hcommand, hfree, Option.filter_some]
    | false => simp [hcommand]
  · simp [hcommand]

theorem placedLeaves_withTipsOnly (word : Word) :
    ((S.withWord word).withTipsOnly true).placedLeaves =
      ((S.withWord word).withTipsOnly false).placedLeaves.filter fun leaf =>
        atTip word leaf.1 := by
  have hturns := sameTurns_withTipsOnly (S := S.withWord word) hconstant false true
  have hpruned : ((S.withWord word).withTipsOnly true).placedLeaves =
      ((S.withWord word).withTipsOnly false).course.filterMap fun v =>
        (v.placedLeaf? ((S.withWord word).withTipsOnly false)).filter fun _ =>
          leafAllowed true v.rest := by
    apply hturns.parallel.filterMap_course
    intro v w' hwalk
    have hleaf := leaf?_withTipsOnly (S := S.withWord word) hconstant v hwalk
    rw [Visit.placedLeaf?, Visit.placedLeaf?, hleaf, Option.filter_map]
    rfl
  rw [hpruned, placedLeaves, List.filter_filterMap]
  apply List.filterMap_congr
  intro v hv
  -- behind the symbol of the visit stands what the walk looks ahead at
  have hrest := (rest_eq_ofWord (S := S.withTipsOnly false) hv).2
  rw [hrest, leafAllowed_iff_atTip, Visit.placedLeaf?, Option.filter_map, Option.filter_map]
  rfl

omit hconstant in
/-- With leaves allowed everywhere, every leaf symbol that the walk gets to has its leaf. -/
theorem exists_placedLeaf (word : Word) {i : Nat}
    (hi : i < ((S.withWord word).withTipsOnly false).course.length)
    (hsymbol : word[i]? = some 'L' ∨ word[i]? = some 'P') :
    ∃ leaf, (i, leaf) ∈ ((S.withWord word).withTipsOnly false).placedLeaves := by
  have hplace := List.getElem?_eq_getElem hi
  have hv := List.getElem_mem hi
  have hindex := index_eq_of_getElem? hplace
  generalize ((S.withWord word).withTipsOnly false).course[i] = v at hplace hv hindex
  have hleaf : (Command.ofWord word)[v.index]? = some .leaf := by
    rw [Command.ofWord, List.getElem?_map, hindex]
    rcases hsymbol with hsymbol | hsymbol
    · rw [hsymbol]
      rfl
    · rw [hsymbol]
      rfl
  have hplaced : (v.leaf? ((S.withWord word).withTipsOnly false)).isSome = true := by
    rw [Visit.leaf?_isSome, command_eq hv hleaf]
    rfl
  obtain ⟨leaf, hleaf⟩ := Option.isSome_iff_exists.mp hplaced
  refine ⟨leaf, List.mem_filterMap.mpr ⟨v, hv, ?_⟩⟩
  rw [Visit.placedLeaf?, hleaf, hindex]
  rfl

/-- Leaves at tips only are some of the leaves that the plant has otherwise, and nothing else of it
changes: those are left of which the symbol stands at a tip. -/
theorem tips_only_prunes (word : Word) :
    let full := (S.withWord word).withTipsOnly false
    let tips := (S.withWord word).withTipsOnly true
    full.SameFrame tips ∧
      tips.placedLeaves = (full.placedLeaves.filter fun leaf => atTip word leaf.1) ∧
      (∀ i < full.course.length, word[i]? = some 'L' ∨ word[i]? = some 'P' →
        ∃ leaf, (i, leaf) ∈ full.placedLeaves) ∧
      full.tour.walk.foliage =
        (full.placedLeaves.map Prod.snd).foldl Foliage.push
          (Foliage.empty S.habit.leafScale) ∧
      tips.tour.walk.foliage =
        (tips.placedLeaves.map Prod.snd).foldl Foliage.push
          (Foliage.empty S.habit.leafScale) := by
  intro full tips
  refine ⟨?_, ?_, ?_, ?_, ?_⟩
  · exact (sameTurns_withTipsOnly (S := S.withWord word) hconstant false true).sameFrame
  · exact placedLeaves_withTipsOnly hconstant word
  · exact fun i hi hsymbol => exists_placedLeaf word hi hsymbol
  · exact full.tour_foliage_eq_placedLeaves
  · exact tips.tour_foliage_eq_placedLeaves

omit [Scalar α] hconstant in
/-- Of five leaf symbols two are followed by growth in their branch. -/
theorem tips_only_prunes_shrub :
    let S := (shrub Float32 9).withWord "FL[+L!]P]LXFL".toList
    (shrub Float32 9).source.IsConstant ∧
      (S.withTipsOnly false).SameFrame (S.withTipsOnly true) ∧
      (S.withTipsOnly false).placedLeaves.map Prod.fst = [1, 4, 7, 9, 12] ∧
      (S.withTipsOnly true).placedLeaves.map Prod.fst = [4, 7, 12] := by
  intro S
  have hconstant : (shrub Float32 9).source.IsConstant := ⟨Scalar.half, fun _ => rfl⟩
  obtain ⟨hframe, hpruned, _⟩ := tips_only_prunes hconstant "FL[+L!]P]LXFL".toList
  refine ⟨hconstant, hframe, by decide, ?_⟩
  rw [hpruned]
  decide

end Setting

end PlantGrowth
