import PlantGrowth.Proofs.NumberText

/-!
# Quoted text read back

A text in a document is written character by character, each as itself or as an escape, and every
piece is read as the character that it was written for.  No piece is taken for the closing quote,
and none for a line end that would be dropped.
-/

namespace PlantGrowth.Document

open Text

theorem quotationFrom?_escape {fuel : Nat} {s rest : List Char} {c : Char}
    (hline : nextLine? s = none) (hescape : escape? 4 s = some (c, rest)) :
    quotationFrom? (fuel + 1) ('\\' :: s) =
      (quotationFrom? fuel rest).map fun (cs, tail) => (c :: cs, tail) := by
  rw [quotationFrom?, hline]
  simp only [hescape, Option.bind_eq_bind, Option.bind_some, Option.pure_def,
    Option.map_eq_bind]
  rfl

theorem quotationFrom?_plain {fuel : Nat} {c : Char} (hquote : c ≠ '"') (hslash : c ≠ '\\')
    (s : List Char) :
    quotationFrom? (fuel + 1) (c :: s) =
      (quotationFrom? fuel s).map fun (cs, tail) => (c :: cs, tail) := by
  rw [quotationFrom?]
  · rw [Option.bind_eq_bind, Option.map_eq_bind]
    rfl
  · exact hquote
  · exact hslash

/-! ## Escapes -/

/-- The escape letter of a character is read as that character. -/
theorem escape?_letter {c letter : Char} (h : escapeLetter? c = some letter) (s : List Char) :
    nextLine? (letter :: s) = none ∧ escape? 4 (letter :: s) = some (c, s) := by
  unfold escapeLetter? at h
  split at h
  · exact Option.some.inj h ▸ ⟨rfl, rfl⟩
  · exact Option.some.inj h ▸ ⟨rfl, rfl⟩
  · exact Option.some.inj h ▸ ⟨rfl, rfl⟩
  · exact Option.some.inj h ▸ ⟨rfl, rfl⟩
  · exact Option.some.inj h ▸ ⟨rfl, rfl⟩
  · split at h
    next hzero =>
      have hc : c = Char.ofNat 0 := by
        rw [← beq_iff_eq.mp hzero, Char.ofNat_toNat]
      rw [← Option.some.inj h, hc]
      exact ⟨rfl, rfl⟩
    next => cases h

theorem mem_toDigits {base n : Nat} {c : Char} (hone : 1 < base) (h : c ∈ Nat.toDigits base n) :
    ∃ d < base, c = Nat.digitChar d := by
  induction n using Nat.strongRecOn with
  | ind n ih =>
      rw [Nat.toDigits_eq_if hone] at h
      split at h
      next hlt => exact ⟨n, hlt, List.mem_singleton.mp h⟩
      next hge =>
        rcases List.mem_append.mp h with h | h
        · exact ih _ (Nat.div_lt_self (by omega) hone) h
        · exact ⟨n % base, Nat.mod_lt n (by omega), List.mem_singleton.mp h⟩

theorem toNat_lt (c : Char) : c.toNat < 16 ^ 6 := by
  have hvalid : c.toNat.isValidChar := c.valid
  rcases hvalid with h | h <;> omega

theorem codePoint?_toDigits (c : Char) (rest : List Char) :
    codePoint? (Nat.toDigits 16 c.toNat ++ '}' :: rest) = some (c, rest) := by
  have hmem : ∀ d ∈ Nat.toDigits 16 c.toNat, d ≠ '}' ∧ d ≠ '_' := by
    intro d hd
    obtain ⟨k, hk, rfl⟩ := mem_toDigits (by omega) hd
    obtain ⟨-, hunderscore, hclose⟩ := digitChar_cases hk
    exact ⟨hclose, hunderscore⟩
  have hlength : (Nat.toDigits 16 c.toNat).length ≤ 6 :=
    (Nat.length_toDigits_le_iff (by omega) (by omega)).mpr (toNat_lt c)
  have htake : ((Nat.toDigits 16 c.toNat ++ '}' :: rest).takeWhile (· != '}')).take 7 =
      Nat.toDigits 16 c.toNat := by
    rw [List.takeWhile_append_of_pos fun d hd => bne_iff_ne.mpr (hmem d hd).1,
      List.takeWhile_cons_of_neg (by decide), List.append_nil, List.take_of_length_le (by omega)]
  have hempty : (Nat.toDigits 16 c.toNat).isEmpty = false :=
    List.isEmpty_eq_false_iff.mpr Nat.toDigits_ne_nil
  have hlong : decide (6 < (Nat.toDigits 16 c.toNat).length) = false :=
    decide_eq_false (Nat.not_lt.mpr hlength)
  have hunderscore : (Nat.toDigits 16 c.toNat).contains '_' = false := by
    rw [Bool.eq_false_iff, ne_eq, List.contains_iff_mem]
    exact fun h => (hmem '_' h).2 rfl
  have hvalid : decide c.toNat.isValidChar = true := decide_eq_true c.valid
  have hvalue : digitsIn? 16 (Nat.toDigits 16 c.toNat) = some c.toNat :=
    digitsIn?_toDigits (by omega) le_rfl c.toNat
  rw [codePoint?]
  simp only [htake, List.drop_left, expect_self, hvalue, hempty, hlong, hunderscore, hvalid,
    Bool.or_self, Bool.not_true, Bool.false_eq_true, if_false, Option.bind_eq_bind,
    Option.bind_some, Option.pure_def, Char.ofNat_toNat]

/-! ## Texts -/

/-- What a character is written as takes one turn and is read as that character. -/
theorem quotationFrom?_escapeChar (c : Char) (fuel : Nat) (s : List Char) :
    quotationFrom? (fuel + 1) (escapeChar true c ++ s) =
      (quotationFrom? fuel s).map fun (cs, tail) => (c :: cs, tail) := by
  unfold escapeChar
  split
  next letter hletter =>
    obtain ⟨hline, hescape⟩ := escape?_letter hletter s
    exact quotationFrom?_escape hline hescape
  next hletter =>
    split
    next hapostrophe =>
      have hc : c = Char.ofNat 0x27 := by
        rw [← beq_iff_eq.mp ((Bool.true_and _).symm.trans hapostrophe), Char.ofNat_toNat]
      subst hc
      exact quotationFrom?_escape rfl rfl
    next =>
      split
      next =>
        refine quotationFrom?_plain ?_ ?_ s
        · rintro rfl
          cases hletter
        · rintro rfl
          cases hletter
      next =>
        have htext : (['\\', 'u', '{'] ++ Nat.toDigits 16 c.toNat ++ ['}']) ++ s =
            '\\' :: 'u' :: '{' :: (Nat.toDigits 16 c.toNat ++ '}' :: s) := by simp
        rw [htext]
        exact quotationFrom?_escape rfl (codePoint?_toDigits c s)

theorem quotationFrom?_quoted (cs : List Char) {fuel : Nat} (hfuel : cs.length < fuel)
    (s : List Char) :
    quotationFrom? fuel (cs.flatMap (escapeChar true) ++ '"' :: s) = some (cs, s) := by
  induction cs generalizing fuel with
  | nil =>
      cases fuel with
      | zero => cases hfuel
      | succ fuel => rfl
  | cons c cs ih =>
      cases fuel with
      | zero => cases hfuel
      | succ fuel =>
          rw [List.flatMap_cons, List.append_assoc, quotationFrom?_escapeChar,
            ih (Nat.lt_of_succ_lt_succ hfuel)]
          rfl

theorem escapeChar_ne_nil (c : Char) : escapeChar true c ≠ [] := by
  unfold escapeChar
  split
  · exact List.cons_ne_nil _ _
  · split
    · exact List.cons_ne_nil _ _
    · split <;> exact List.cons_ne_nil _ _

/-- Every character is written as one character at least. -/
theorem length_le_escaped (cs : List Char) : cs.length ≤ (cs.flatMap (escapeChar true)).length := by
  induction cs with
  | nil => exact le_rfl
  | cons c cs ih =>
      have hpos := List.length_pos_iff.mpr (escapeChar_ne_nil c)
      rw [List.flatMap_cons, List.length_append, List.length_cons]
      omega

/-- Every text reads back from between its quotes. -/
theorem readsBack_text (s : String) : ReadsBack string? (textOf s) s := by
  refine ⟨⟨rfl, by decide⟩, fun rest _ => ?_⟩
  have htext : textOf s ++ rest = '"' :: (s.toList.flatMap (escapeChar true) ++ '"' :: rest) := by
    simp [textOf, quotedChars]
  have hfuel : s.toList.length <
      (s.toList.flatMap (escapeChar true) ++ '"' :: rest).length + 1 := by
    have hle := length_le_escaped s.toList
    rw [List.length_append]
    omega
  rw [htext, string?, text?, quotationFrom?_quoted s.toList hfuel, Option.map_some]
  simp only [String.ofList_toList]

end PlantGrowth.Document
