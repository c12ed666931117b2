import Mathlib.Tactic.NormNum
import PlantGrowth.Proofs.NumberLayout
import PlantGrowth.Proofs.ValueText

/-!
# Numbers read back from a document

Behind a number in a document stands a comma or a parenthesis, and neither is taken for a part of
it.  A number with a fraction is read from the digits of its shortest decimal, so it comes back
with every bit, the sign of zero among them; infinity is read from its word.
-/

namespace PlantGrowth

/-! ## The sign -/

namespace Binary32

theorem isNegative_iff (x : Binary32) : x.isNegative = true ↔ x.bits.toNat / 2 ^ 31 = 1 := by
  rw [isNegative, beq_iff_eq, ← UInt32.toNat_inj, UInt32.toNat_shiftRight,
    Nat.shiftRight_eq_div_pow]
  rfl

/-- A number is its magnitude with its sign. -/
theorem signed_magnitude (x : Binary32) : Decimal.signed x.isNegative ⟨x.magnitude⟩ = x := by
  have hlt : x.bits.toNat < 2 ^ 32 := x.bits.toNat_lt
  have hmagnitude : x.magnitude.toNat = x.bits.toNat % 2 ^ 31 := Decimal.Dyadic.magnitudeBits x
  have hbits : (Decimal.signed x.isNegative ⟨x.magnitude⟩).bits.toNat = x.bits.toNat := by
    cases hsign : x.isNegative with
    | false =>
        have hdiv := (isNegative_iff x).not.mp (by rw [hsign]; exact Bool.false_ne_true)
        change x.magnitude.toNat = _
        omega
    | true =>
        have hdiv := (isNegative_iff x).mp hsign
        change (x.magnitude ^^^ 0x80000000).toNat = _
        rw [UInt32.toNat_xor]
        have hlow : (x.magnitude.toNat ^^^ 2 ^ 31) % 2 ^ 31 = x.magnitude.toNat := by
          rw [Nat.xor_mod_two_pow, Nat.mod_self, Nat.xor_zero]
          omega
        have hhigh : (x.magnitude.toNat ^^^ 2 ^ 31) / 2 ^ 31 = 1 := by
          rw [Nat.xor_div_two_pow, Nat.div_self (by norm_num), Nat.div_eq_of_lt (by omega)]
          rfl
        change x.magnitude.toNat ^^^ 2 ^ 31 = _
        omega
  cases x with
  | mk bits => exact congrArg Binary32.mk (UInt32.toNat_inj.mp hbits)

end Binary32

/-! ## Reading a number with a fraction -/

namespace Document

open Decimal

/-- What a number as text is made of besides points. -/
def IsNumberPart (c : Char) : Prop := c.isDigit = true ∨ c = 'e' ∨ c = '-'

theorem IsNumberPart.of_isDigit {c : Char} (h : c.isDigit = true) : IsNumberPart c := Or.inl h

theorem IsNumberPart.ne_point {c : Char} (h : IsNumberPart c) : c ≠ '.' := by
  rintro rfl
  exact absurd h (by unfold IsNumberPart; decide)

theorem IsNumberPart.ne_underscore {c : Char} (h : IsNumberPart c) : c ≠ '_' := by
  rintro rfl
  exact absurd h (by unfold IsNumberPart; decide)

theorem IsNumberPart.isFloatPart {c : Char} (h : IsNumberPart c) : isFloatPart c = true := by
  rcases h with h | rfl | rfl
  · rw [Document.isFloatPart, h]
    rfl
  · rfl
  · rfl

theorem isNumberPart_of_mem_powerText {e : Int} {c : Char} (h : c ∈ Numeral.powerText e) :
    IsNumberPart c := by
  rw [Numeral.powerText, Int.toString_eq_repr, List.mem_cons] at h
  rcases h with rfl | h
  · exact Or.inr (Or.inl rfl)
  · cases e with
    | ofNat n =>
        rw [Int.repr, Nat.repr, String.toList_ofList] at h
        exact Or.inl (isDigit_of_mem_toDigits h)
    | negSucc n =>
        rw [Int.repr, Nat.repr, String.toList_append, String.toList_ofList, String.toList_ofList,
          List.mem_append, List.mem_singleton] at h
        rcases h with rfl | h
        · exact Or.inr (Or.inr rfl)
        · exact Or.inl (isDigit_of_mem_toDigits h)

theorem floatText_cons {c : Char} (h : IsNumberPart c) (s : List Char) :
    floatText (c :: s) = c :: floatText s := by
  have hpoint := h.ne_point
  rw [floatText.eq_def]
  split
  next heq => cases heq
  next heq => exact absurd (List.cons.inj heq).1 hpoint
  next heq =>
    obtain ⟨rfl, rfl⟩ := List.cons.inj heq
    rw [if_pos h.isFloatPart]

theorem floatText_append {s : List Char} (hs : ∀ c ∈ s, IsNumberPart c) (t : List Char) :
    floatText (s ++ t) = s ++ floatText t := by
  induction s with
  | nil => rfl
  | cons c s ih =>
      rw [List.cons_append, floatText_cons (hs c List.mem_cons_self),
        ih fun d hd => hs d (List.mem_cons_of_mem c hd), List.cons_append]

theorem floatText_point {c : Char} (hc : c ≠ '.') (s : List Char) :
    floatText ('.' :: c :: s) = '.' :: floatText (c :: s) := by
  rw [floatText]
  · rfl
  · intro _ _ heq
    exact hc (List.cons.inj heq).1

theorem floatText_ends {s : List Char} (hs : EndsValue s) : floatText s = [] := by
  obtain ⟨rest, rfl | rfl⟩ := hs.cases <;> rfl

theorem isNumberPart_of_mem_power {power : Option Int} {c : Char}
    (h : c ∈ power.elim [] Numeral.powerText) : IsNumberPart c := by
  cases power with
  | none => cases h
  | some e => exact isNumberPart_of_mem_powerText h

/-- All of a number is taken for a part of it, and nothing behind it. -/
theorem floatText_text {n : Numeral} (hn : n.WellFormed) {s : List Char} (hs : EndsValue s) :
    floatText (n.text ++ s) = n.text := by
  have hwhole : ∀ c ∈ n.whole, IsNumberPart c := fun c hc => .of_isDigit (hn.whole_digits c hc)
  have hpart : ∀ c ∈ n.part, IsNumberPart c := fun c hc => .of_isDigit (hn.part_digits c hc)
  have hpower : floatText (n.power.elim [] Numeral.powerText ++ s) =
      n.power.elim [] Numeral.powerText := by
    rw [floatText_append (fun _ => isNumberPart_of_mem_power), floatText_ends hs, List.append_nil]
  rw [Numeral.text, List.append_assoc, floatText_append hwhole, List.append_assoc]
  cases hp : n.part with
  | nil => rw [List.isEmpty_nil, if_pos rfl, List.nil_append, hpower, List.nil_append]
  | cons c part =>
      have hparts : floatText (c :: part ++ (n.power.elim [] Numeral.powerText ++ s)) =
          c :: part ++ n.power.elim [] Numeral.powerText := by
        rw [floatText_append (hp ▸ hpart), hpower]
      have hc : c ≠ '.' := (hpart c (hp ▸ List.mem_cons_self)).ne_point
      rw [List.isEmpty_cons, if_neg Bool.false_ne_true, List.cons_append, List.cons_append,
        floatText_point hc, ← List.cons_append, hparts, List.cons_append, List.cons_append,
        List.cons_append]

theorem ungroup?_eq {s : List Char} (hs : ∀ c ∈ s, c ≠ '_') (allowed : Bool) :
    ungroup? allowed s = some s := by
  induction s generalizing allowed with
  | nil => rfl
  | cons c s ih =>
      have hc : ¬(c == '_') = true := by
        rw [beq_iff_eq]
        exact hs c List.mem_cons_self
      rw [ungroup?, if_neg hc]
      dsimp only
      rw [ih fun d hd => hs d (List.mem_cons_of_mem c hd)]
      rfl

theorem ne_underscore_of_mem_text {n : Numeral} (hn : n.WellFormed) {c : Char} (h : c ∈ n.text) :
    c ≠ '_' := by
  rcases List.mem_append.mp h with h | h
  · exact (IsNumberPart.of_isDigit (hn.whole_digits c h)).ne_underscore
  rcases List.mem_append.mp h with h | h
  · cases hp : n.part with
    | nil =>
        rw [hp] at h
        cases h
    | cons d part =>
        rw [hp, List.isEmpty_cons, if_neg Bool.false_ne_true, List.mem_cons, ← hp] at h
        rcases h with rfl | h
        · decide
        · exact (IsNumberPart.of_isDigit (hn.part_digits c h)).ne_underscore
  · exact (isNumberPart_of_mem_power h).ne_underscore

/-- The minus of a number below zero. -/
def signText (negative : Bool) : List Char := if negative then ['-'] else []

/-- A number as text begins with a digit, behind its sign. -/
theorem text_cons {n : Numeral} (hn : n.WellFormed) :
    ∃ c rest, n.text = c :: rest ∧ c.isDigit = true := by
  obtain ⟨c, rest, heq⟩ := List.exists_cons_of_ne_nil hn.whole_ne_nil
  have hc : c.isDigit = true := hn.whole_digits c (heq ▸ List.mem_cons_self)
  rw [Numeral.text, heq, List.cons_append]
  exact ⟨c, _, rfl, hc⟩

theorem toNat_of_isDigit {c : Char} (hc : c.isDigit = true) : 48 ≤ c.toNat ∧ c.toNat ≤ 57 := by
  rw [Char.isDigit, Bool.and_eq_true, decide_eq_true_eq, decide_eq_true_eq] at hc
  exact ⟨UInt32.le_iff_toNat_le.mp hc.1, UInt32.le_iff_toNat_le.mp hc.2⟩

theorem toLower_of_isDigit {c : Char} (hc : c.isDigit = true) : c.toLower = c := by
  refine dif_neg ?_
  rintro ⟨hge, -⟩
  have hge' : 65 ≤ c.toNat := UInt32.le_iff_toNat_le.mp hge
  have hle := (toNat_of_isDigit hc).2
  omega

theorem ne_of_isDigit {c : Char} (hc : c.isDigit = true) :
    c ≠ 'i' ∧ c ≠ 'n' ∧ c ≠ 'N' ∧ c ≠ '+' ∧ c ≠ '-' := by
  refine ⟨?_, ?_, ?_, ?_, ?_⟩ <;>
    (rintro rfl
     exact absurd hc (by decide))

theorem float?_text {n : Numeral} (hn : n.WellFormed) (negative : Bool) :
    Decimal.float? (signText negative ++ n.text) = some (signed negative n.decimal.toBinary32) := by
  obtain ⟨c, rest, heq, hc⟩ := text_cons hn
  obtain ⟨hi, hn', -⟩ := ne_of_isDigit hc
  have hsign : splitSign (signText negative ++ n.text) = (negative, n.text) := by
    cases negative with
    | true => rfl
    | false => exact heq ▸ splitSign_of_isDigit hc rest
  have hword : ∀ d word, c ≠ d → (n.text.map Char.toLower == d :: word) = false := by
    intro d word hd
    rw [beq_eq_false_iff_ne, heq, List.map_cons, toLower_of_isDigit hc]
    exact fun h => hd (List.cons.inj h).1
  have hinf : (n.text.map Char.toLower == "inf".toList) = false := hword 'i' _ hi
  have hinfinity : (n.text.map Char.toLower == "infinity".toList) = false := hword 'i' _ hi
  have hnan : (n.text.map Char.toLower == "nan".toList) = false := hword 'n' _ hn'
  rw [Decimal.float?, hsign]
  simp only [hinf, hinfinity, hnan, Bool.or_self, Bool.false_eq_true, if_false,
    Numeral.unsigned?_text hn, Option.map_some]

theorem floatWord?_text {n : Numeral} (hn : n.WellFormed) (negative : Bool) (s : List Char) :
    floatWord? ["f32"] (signText negative ++ n.text ++ s) = none := by
  obtain ⟨c, rest, heq, hc⟩ := text_cons hn
  obtain ⟨hi, -, hN, hplus, hminus⟩ := ne_of_isDigit hc
  cases negative <;>
    simp [floatWord?, floatWords, dropWord?, signText, heq, hi.symm, hN.symm, hplus.symm,
      hminus.symm]

theorem beginsBare_digit {c : Char} (hc : c.isDigit = true) (s : List Char) :
    BeginsBare (c :: s) := by
  obtain ⟨hge, hle⟩ := toNat_of_isDigit hc
  have hblank : c ≠ ' ' := by
    rintro rfl
    exact absurd hc (by decide)
  refine ⟨?_, ?_⟩
  · simp [isSpace, hblank]
    omega
  · rintro rfl
    exact absurd hc (by decide)

theorem beginsBare_text {n : Numeral} (hn : n.WellFormed) (negative : Bool) :
    BeginsBare (signText negative ++ n.text) := by
  cases negative with
  | true => exact ⟨rfl, by decide⟩
  | false =>
      obtain ⟨c, rest, heq, hc⟩ := text_cons hn
      exact heq ▸ beginsBare_digit hc rest

theorem readsBack_numeral {n : Numeral} (hn : n.WellFormed) (negative : Bool) :
    ReadsBack (float? ["f32"]) (signText negative ++ n.text)
      (signed negative n.decimal.toBinary32) := by
  refine ⟨beginsBare_text hn negative, fun rest hrest => ?_⟩
  have hbody : floatText (signText negative ++ n.text ++ rest) = signText negative ++ n.text := by
    rw [List.append_assoc]
    cases negative with
    | true =>
        have hminus : IsNumberPart '-' := Or.inr (Or.inr rfl)
        exact (floatText_cons hminus _).trans (congrArg _ (floatText_text hn hrest))
    | false => exact floatText_text hn hrest
  have hungroup : ungroup? false (signText negative ++ n.text) =
      some (signText negative ++ n.text) := by
    refine ungroup?_eq (fun c hc => ?_) false
    rcases List.mem_append.mp hc with hc | hc
    · cases negative with
      | true =>
          rw [List.mem_singleton.mp hc]
          decide
      | false => cases hc
    · exact ne_underscore_of_mem_text hn hc
  have htype : (["f32"].findSome? fun type => dropWord? type.toList rest).getD rest = rest := by
    obtain ⟨rest', rfl | rfl⟩ := hrest.cases <;> rfl
  rw [float?, floatWord?_text hn negative rest]
  simp only [hbody, hungroup, float?_text hn negative, Option.bind_eq_bind, Option.bind_some,
    Option.pure_def, List.drop_left, htype]

/-- The text of a number that is one reads back to it, the sign of zero included. -/
theorem readsBack_float {x : Binary32} (hx : x.isNaN = false) :
    ReadsBack (float? ["f32"]) (floatOf x) x := by
  have hsign : (if x.isNegative then "-" else "").toList = signText x.isNegative := by
    cases x.isNegative <;> rfl
  cases hfin : x.isFinite with
  | true =>
      obtain ⟨n, hn, htext, hvalue⟩ := (Dyadic.ofBinary32 x).shortest.writtenAs_layout
      have hread := readsBack_numeral hn x.isNegative
      rw [toBinary32_of_value_eq hfin hvalue, Binary32.signed_magnitude, htext] at hread
      have hfloat : floatOf x = signText x.isNegative ++
          (Dyadic.ofBinary32 x).shortest.layout := by
        rw [floatOf, Binary32.text, hx, hfin, String.toList_append, hsign]
        simp
      exact hfloat ▸ hread
  | false =>
      have hmagnitude : x.magnitude = Binary32.infinity.bits := by
        have hle : ¬Binary32.infinity.bits < x.magnitude := of_decide_eq_false hx
        have hge : ¬x.magnitude < Binary32.infinity.bits := of_decide_eq_false hfin
        rw [UInt32.lt_iff_toNat_lt] at hle hge
        rw [← UInt32.toNat_inj]
        omega
      have hinf := Binary32.signed_magnitude x
      rw [hmagnitude] at hinf
      have hfloat : floatOf x = signText x.isNegative ++ "inf".toList := by
        rw [floatOf, Binary32.text, hx, hfin, String.toList_append, hsign]
        rfl
      rw [hfloat, ← hinf]
      cases x.isNegative with
      | true => exact .of_ends ⟨rfl, by decide⟩ (fun _ => rfl) fun _ => rfl
      | false => exact .of_ends ⟨rfl, by decide⟩ (fun _ => rfl) fun _ => rfl

/-! ## Reading a whole number -/

theorem isIntegerPart_of_isDigit {c : Char} (hc : c.isDigit = true) : isIntegerPart c = true := by
  rw [isIntegerPart, Text.hexDigit?, if_pos hc]
  rfl

theorem digitChar_cases {d : Nat} (hd : d < 16) :
    Text.hexDigit? (Nat.digitChar d) = some d ∧ Nat.digitChar d ≠ '_' ∧ Nat.digitChar d ≠ '}' := by
  revert d
  decide

theorem digitsIn?_append {base d : Nat} (hd : d < base) (hbase : base ≤ 16) (ds : List Char) :
    digitsIn? base (ds ++ [Nat.digitChar d]) = (digitsIn? base ds).map (· * base + d) := by
  obtain ⟨hvalue, hunderscore, -⟩ := digitChar_cases (hd.trans_le hbase)
  rw [digitsIn?, digitsIn?, List.foldlM_append]
  simp only [List.foldlM_cons, List.foldlM_nil, hvalue, beq_eq_false_iff_ne.mpr hunderscore, hd,
    Bool.false_eq_true, if_false, if_true, Option.bind_eq_bind, Option.bind_some, Option.pure_def,
    Option.map_eq_bind]
  rfl

/-- The digits of a number in a base are read as that number. -/
theorem digitsIn?_toDigits {base : Nat} (hone : 1 < base) (hbase : base ≤ 16) (n : Nat) :
    digitsIn? base (Nat.toDigits base n) = some n := by
  induction n using Nat.strongRecOn with
  | ind n ih =>
      rw [Nat.toDigits_eq_if hone]
      split
      next hlt =>
        have h := digitsIn?_append hlt hbase []
        rw [List.nil_append] at h
        rw [h]
        change some (0 * base + n) = some n
        rw [Nat.zero_mul, Nat.zero_add]
      next hge =>
        have hdiv : n / base < n := Nat.div_lt_self (by omega) hone
        have hmod : n % base < base := Nat.mod_lt n (by omega)
        rw [digitsIn?_append hmod hbase, ih _ hdiv, Option.map_some, Nat.div_add_mod']

/-- Digits name no other base than ten. -/
theorem splitBase_digits {ds s : List Char} (hds : ∀ c ∈ ds, c.isDigit = true) (hne : ds ≠ [])
    (hs : EndsValue s) : splitBase (ds ++ s) = (10, ds ++ s) := by
  have hsecond : ∀ {d rest}, ds ++ s = '0' :: d :: rest → d.isDigit = true ∨ d = ',' ∨ d = ')' := by
    intro d rest heq
    match ds with
    | [] => exact absurd rfl hne
    | [_] =>
        have hend : s = d :: rest := (List.cons.inj heq).2
        rw [hend] at hs
        exact Or.inr hs
    | _ :: e :: _ =>
        have htail := (List.cons.inj heq).2
        exact Or.inl ((List.cons.inj htail).1 ▸ hds e (by simp))
  unfold splitBase
  split
  next heq => exact absurd (hsecond heq) (by decide)
  next heq => exact absurd (hsecond heq) (by decide)
  next heq => exact absurd (hsecond heq) (by decide)
  next => rfl

theorem natural?_digits {n : Nat} {s : List Char} (hs : EndsValue s) :
    natural? (naturalOf n ++ s) = some (n, s) := by
  have hdigit : ∀ c ∈ naturalOf n, c.isDigit = true := fun _ => isDigit_of_mem_toDigits
  have hpart : ∀ c ∈ naturalOf n, isIntegerPart c = true := fun c hc =>
    isIntegerPart_of_isDigit (hdigit c hc)
  obtain ⟨c, ds, heq, hc⟩ : ∃ c ds, naturalOf n = c :: ds ∧ c.isDigit = true := toDigits_cons n
  have hhead : ((naturalOf n).head? == some '_') = false := by
    rw [heq, List.head?_cons, beq_eq_false_iff_ne]
    exact fun h => (IsNumberPart.of_isDigit hc).ne_underscore (Option.some.inj h)
  have hempty : (naturalOf n).isEmpty = false := by rw [heq, List.isEmpty_cons]
  have htake : (naturalOf n ++ s).takeWhile isIntegerPart = naturalOf n := by
    rw [List.takeWhile_append_of_pos hpart]
    obtain ⟨rest, rfl | rfl⟩ := hs.cases <;> exact List.append_nil _
  have hdrop : (naturalOf n ++ s).dropWhile isIntegerPart = s := by
    rw [List.dropWhile_append_of_pos hpart]
    obtain ⟨rest, rfl | rfl⟩ := hs.cases <;> rfl
  rw [natural?, splitBase_digits hdigit Nat.toDigits_ne_nil hs]
  have hvalue : digitsIn? 10 (naturalOf n) = some n :=
    digitsIn?_toDigits (by norm_num) (by norm_num) n
  simp only [htake, hdrop, hempty, hhead, hvalue, Bool.or_self, Bool.false_eq_true, if_false,
    Option.bind_eq_bind, Option.bind_some, Option.pure_def]

/-- A natural number that is in the range of a type reads back as one of that type. -/
theorem readsBack_natural (bits : Nat) {n : Nat} (hn : n < 2 ^ bits) :
    ReadsBack (integer? ⟨false, bits⟩) (naturalOf n) n := by
  obtain ⟨c, ds, heq, hc⟩ : ∃ c ds, naturalOf n = c :: ds ∧ c.isDigit = true := toDigits_cons n
  refine ⟨?_, fun rest hrest => ?_⟩
  · rw [heq]
    exact beginsBare_digit hc ds
  · have hsign : splitSign (naturalOf n ++ rest) = (false, naturalOf n ++ rest) := by
      rw [heq]
      exact splitSign_of_isDigit hc _
    have htype : namedType? rest = none := by
      obtain ⟨rest', rfl | rfl⟩ := hrest.cases <;> rfl
    have hholds : IntegerType.holds ⟨false, bits⟩ false n = true := by
      simpa [IntegerType.holds] using hn
    rw [integer?, hsign]
    simp only [natural?_digits hrest, htype, Option.getD_none, beq_self_eq_true, hholds,
      Bool.and_self, if_true, Option.bind_eq_bind, Option.bind_some, Option.pure_def]

end Document

end PlantGrowth
