import PlantGrowth.Proofs.Brackets

/-!
# Balanced words

In a balanced word every bracket has its partner within the word.  Counted by height this means
that the word comes back to where it began and is never lower.  Such a word is nested: it consists
of commands that are no brackets and of nested words in a pair of brackets, one after another.
What a walk or a look-ahead does with a balanced word is proved along that nesting.
-/

namespace PlantGrowth

namespace Brackets

structure Balanced (word : List Command) : Prop where
  closes : ∀ q, word[q]? = some .pop → ∃ p, Matched word p q
  opens : ∀ p, word[p]? = some .push → ∃ q, Matched word p q

inductive Nested : List Command → Prop where
  | nil : Nested []
  | command {c : Command} {rest : List Command} (hrise : c.rise = 0) (hrest : Nested rest) :
    Nested (c :: rest)
  | branch {inner rest : List Command} (hinner : Nested inner) (hrest : Nested rest) :
    Nested (.push :: (inner ++ .pop :: rest))

variable {word front back inner rest : List Command} {c : Command} {k : Nat}

/-! ## Heights of parts -/

theorem height_zero (word : List Command) : height word 0 = 0 := rfl

theorem height_append_left (hk : k ≤ front.length) :
    height (front ++ back) k = height front k := by
  simp only [height, List.take_append_of_le_length hk]

theorem height_append_right (front back : List Command) (k : Nat) :
    height (front ++ back) (front.length + k) =
      height front front.length + height back k := by
  simp only [height, List.take_length_add_append, List.take_length, List.map_append,
    List.sum_append]

theorem height_cons (c : Command) (rest : List Command) (k : Nat) :
    height (c :: rest) (k + 1) = c.rise + height rest k := by
  simp [height]

/-! ## Balance by height -/

theorem Balanced.height_nonneg (h : Balanced word) (hk : k ≤ word.length) :
    0 ≤ height word k := by
  induction k using Nat.strongRecOn with
  | ind k ih =>
      cases k with
      | zero => exact le_refl _
      | succ k =>
          have hbefore := ih k (Nat.lt_succ_self k) (by omega)
          rcases height_succ_cases word k with ⟨_, hup⟩ | ⟨hpop, _⟩ | hlevel
          · omega
          · obtain ⟨p, hmatched⟩ := h.closes k hpop
            have hlt := hmatched.lt
            rw [hmatched.height_succ_close]
            exact ih p (by omega) (by omega)
          · omega

theorem Balanced.height_length_le (h : Balanced word) (hk : k ≤ word.length) :
    height word word.length ≤ height word k := by
  induction hleft : word.length - k using Nat.strongRecOn generalizing k with
  | ind left ih =>
      rcases Nat.eq_or_lt_of_le hk with rfl | hlt
      · exact le_refl _
      · have hnext : height word word.length ≤ height word (k + 1) :=
          ih (word.length - (k + 1)) (by omega) hlt rfl
        rcases height_succ_cases word k with ⟨hpush, _⟩ | ⟨_, hdown⟩ | hlevel
        · obtain ⟨q, hmatched⟩ := h.opens k hpush
          have hkq := hmatched.lt
          have hq : q < word.length := (List.getElem?_eq_some_iff.mp hmatched.closes).1
          rw [← hmatched.height_succ_close]
          exact ih (word.length - (q + 1)) (by omega) hq rfl
        · omega
        · omega

theorem balanced_iff_sameScope : Balanced word ↔ SameScope word 0 word.length := by
  constructor
  · intro h
    have hend := h.height_length_le (Nat.zero_le _)
    have hlow := h.height_nonneg (le_refl _)
    rw [height_zero] at hend
    refine ⟨Nat.zero_le _, ?_, ?_⟩
    · rw [height_zero]
      omega
    · intro k _ hk
      exact h.height_nonneg hk
  · intro h
    constructor
    · intro q hpop
      have hq : q < word.length := (List.getElem?_eq_some_iff.mp hpop).1
      have habove := h.above (q + 1) (Nat.zero_le _) hq
      rw [height_succ_of_pop hpop] at habove
      obtain ⟨p, _, hmatched⟩ := exists_matched_of_pop hpop (Nat.zero_le q) (by omega)
      exact ⟨p, hmatched⟩
    · intro p hpush
      have hp : p < word.length := (List.getElem?_eq_some_iff.mp hpush).1
      have habove := h.above p (Nat.zero_le _) hp.le
      have hend := h.height_eq
      obtain ⟨q, _, hmatched⟩ := exists_matched_of_push hpush hp (by omega)
      exact ⟨q, hmatched⟩

instance (word : List Command) : Decidable (Balanced word) :=
  decidable_of_iff _ balanced_iff_sameScope.symm

/-! ## The nesting of a balanced word -/

theorem SameScope.of_cons (h : SameScope (c :: rest) 0 (rest.length + 1)) (hrise : c.rise = 0) :
    SameScope rest 0 rest.length := by
  refine ⟨Nat.zero_le _, ?_, ?_⟩
  · have hend := h.height_eq
    rw [height_cons, height_zero] at hend
    rw [height_zero]
    omega
  · intro k _ hk
    have habove := h.above (k + 1) (Nat.zero_le _) (by omega)
    rw [height_cons, height_zero] at habove
    rw [height_zero]
    omega

theorem Matched.exists_inner (h : Matched (.push :: word) 0 k) :
    ∃ inner rest, word = inner ++ .pop :: rest ∧ k = inner.length + 1 := by
  cases k with
  | zero => exact absurd h.lt (Nat.lt_irrefl 0)
  | succ k =>
      have hclose : word[k]? = some .pop := by simpa using h.closes
      obtain ⟨hk, hpop⟩ := List.getElem?_eq_some_iff.mp hclose
      refine ⟨word.take k, word.drop (k + 1), ?_, ?_⟩
      · rw [← hpop, List.cons_getElem_drop_succ, List.take_append_drop]
      · rw [List.length_take, Nat.min_eq_left hk.le]

theorem height_inner (hk : k ≤ inner.length) :
    height (.push :: (inner ++ .pop :: rest)) (k + 1) = 1 + height inner k := by
  rw [height_cons, height_append_left hk]
  rfl

theorem height_behind (hinner : height inner inner.length = 0) (k : Nat) :
    height (.push :: (inner ++ .pop :: rest)) (inner.length + 1 + k + 1) = height rest k := by
  rw [height_cons, Nat.add_assoc, height_append_right, hinner, Nat.add_comm 1 k, height_cons]
  simp only [Command.rise]
  omega

theorem nested_of_sameScope (h : SameScope word 0 word.length) : Nested word := by
  induction hlength : word.length using Nat.strongRecOn generalizing word with
  | ind length ih =>
      cases word with
      | nil => exact .nil
      | cons c rest =>
          rw [List.length_cons] at hlength h
          cases hc : c with
          | push =>
              subst hc
              have hpush : (Command.push :: rest)[0]? = some .push := rfl
              obtain ⟨q, _, hmatched⟩ :=
                exists_matched_of_push hpush (Nat.succ_pos _) h.height_eq.le
              obtain ⟨inner, rest', rfl, rfl⟩ := hmatched.exists_inner
              have hclose := hmatched.inside.height_eq
              rw [height_inner (le_refl _), height_inner (Nat.zero_le _), height_zero] at hclose
              have hzero : height inner inner.length = 0 := by omega
              simp only [List.length_append, List.length_cons] at h hlength
              refine .branch (ih inner.length (by omega) ?_ rfl) (ih rest'.length (by omega) ?_ rfl)
              · refine ⟨Nat.zero_le _, hzero, ?_⟩
                intro k _ hk
                have habove := hmatched.inside.above (k + 1) (by omega) (by omega)
                rw [height_inner hk, height_inner (Nat.zero_le _)] at habove
                omega
              · refine ⟨Nat.zero_le _, ?_, ?_⟩
                · have hend := h.height_eq
                  rw [show inner.length + (rest'.length + 1) + 1 =
                    inner.length + 1 + rest'.length + 1 by omega, height_behind hzero] at hend
                  exact hend
                · intro k _ hk
                  have habove := h.above (inner.length + 1 + k + 1) (Nat.zero_le _) (by omega)
                  rwa [height_behind hzero] at habove
          | pop =>
              subst hc
              have hlow := h.above 1 (Nat.zero_le _) (by omega)
              rw [height_cons, height_zero, height_zero] at hlow
              simp [Command.rise] at hlow
          | _ =>
              have hrise : c.rise = 0 := by
                rw [hc]
                rfl
              rw [← hc]
              exact .command hrise (ih rest.length (by omega) (h.of_cons hrise) rfl)

theorem Balanced.nested (h : Balanced word) : Nested word :=
  nested_of_sameScope (balanced_iff_sameScope.mp h)

end Brackets

end PlantGrowth
