import Mathlib.Algebra.Order.Field.Power
import Mathlib.Algebra.Order.Ring.Rat
import Mathlib.Tactic.NormNum
import Mathlib.Tactic.Ring
import PlantGrowth.Decimal.Notation
import PlantGrowth.Decimal.Reading
import PlantGrowth.Proofs.DecimalRounding

/-!
# The layout of a number

A number as text has digits before a point, digits behind it and an exponent, the last two of
which may be left out.  Every decimal is laid out as such a text, and what is read from the text
has the value of the decimal, with other digits perhaps.
-/

namespace PlantGrowth

namespace Decimal

/-! ## Digits -/

theorem digitsValue_eq (ds : List Char) : digitsValue ds = Nat.ofDigitChars 10 ds 0 := by
  rw [digitsValue, Nat.ofDigitChars]
  congr 1
  funext n c
  rw [Nat.mul_comm]

theorem digitsValue_toDigits (n : Nat) : digitsValue (Nat.toDigits 10 n) = n := by
  rw [digitsValue_eq, Nat.ofDigitChars_toDigits (by norm_num) le_rfl]

theorem isDigit_of_mem_toDigits {n : Nat} {c : Char} (h : c ∈ Nat.toDigits 10 n) :
    c.isDigit = true :=
  Nat.isDigit_of_mem_toDigits (by norm_num) le_rfl h

theorem toDigits_cons (n : Nat) :
    ∃ c rest, Nat.toDigits 10 n = c :: rest ∧ c.isDigit = true := by
  obtain ⟨c, rest, heq⟩ := List.exists_cons_of_ne_nil (Nat.toDigits_ne_nil (n := n) (b := 10))
  exact ⟨c, rest, heq, isDigit_of_mem_toDigits (heq ▸ List.mem_cons_self)⟩

theorem digitsValue_padded (width n : Nat) : digitsValue (padded width n) = n := by
  rw [padded, digitsValue_eq, Nat.ofDigitChars_append, Nat.ofDigitChars_replicate_zero,
    Nat.mul_zero, Nat.ofDigitChars_toDigits (by norm_num) le_rfl]

theorem isDigit_of_mem_padded {width n : Nat} {c : Char} (h : c ∈ padded width n) :
    c.isDigit = true := by
  rcases List.mem_append.mp h with hzero | hdigit
  · rw [List.eq_of_mem_replicate hzero]
    rfl
  · exact isDigit_of_mem_toDigits hdigit

theorem le_length_padded (width n : Nat) : width ≤ (padded width n).length := by
  rw [padded, List.length_append, List.length_replicate]
  omega

/-! ## The parts of a number -/

/-- The parts of a number as text: the digits before the point, those behind it, without which
there is no point, and the exponent. -/
structure Numeral where
  whole : List Char
  part : List Char
  power : Option Int

namespace Numeral

def powerText (e : Int) : List Char := 'e' :: (toString e).toList

def text (n : Numeral) : List Char :=
  n.whole ++ ((if n.part.isEmpty then [] else '.' :: n.part) ++ n.power.elim [] powerText)

def decimal (n : Numeral) : Decimal :=
  ⟨digitsValue (n.whole ++ n.part), n.power.getD 0 - n.part.length⟩

structure WellFormed (n : Numeral) : Prop where
  whole_digits : ∀ c ∈ n.whole, c.isDigit = true
  part_digits : ∀ c ∈ n.part, c.isDigit = true
  whole_ne_nil : n.whole ≠ []

end Numeral

theorem natural?_toDigits (n : Nat) : natural? (Nat.toDigits 10 n) = some n := by
  have hne : (Nat.toDigits 10 n).isEmpty = false := by
    rw [List.isEmpty_eq_false_iff, ← List.length_pos_iff]
    exact Nat.length_toDigits_pos
  have hall : (Nat.toDigits 10 n).all Char.isDigit = true :=
    List.all_eq_true.mpr fun c => isDigit_of_mem_toDigits
  rw [natural?, hne, hall, digitsValue_toDigits]
  rfl

/-- A digit is no sign. -/
theorem splitSign_of_isDigit {c : Char} (hc : c.isDigit = true) (s : List Char) :
    splitSign (c :: s) = (false, c :: s) := by
  unfold splitSign
  split
  next heq =>
    rw [(List.cons.inj heq).1] at hc
    exact absurd hc (by decide)
  next heq =>
    rw [(List.cons.inj heq).1] at hc
    exact absurd hc (by decide)
  next => rfl

theorem splitSign_toDigits (n : Nat) :
    splitSign (Nat.toDigits 10 n) = (false, Nat.toDigits 10 n) := by
  obtain ⟨c, rest, heq, hc⟩ := toDigits_cons n
  rw [heq, splitSign_of_isDigit hc]

theorem exponent?_of_splitSign {s ds : List Char} {negative : Bool} {n : Nat}
    (hsign : splitSign s = (negative, ds)) (hds : natural? ds = some n) :
    exponent? ('e' :: s) = some (if negative then -(n : Int) else n) := by
  rw [exponent?, if_pos (by rfl), hsign]
  simp only [hds, Option.bind_eq_bind, Option.bind_some, Option.pure_def, Option.map_some]

theorem exponent?_powerText (e : Int) : exponent? (Numeral.powerText e) = some e := by
  rw [Numeral.powerText, Int.toString_eq_repr]
  cases e with
  | ofNat n =>
      have htext : (Int.repr (Int.ofNat n)).toList = Nat.toDigits 10 n := by
        rw [Int.repr, Nat.repr, String.toList_ofList]
      rw [htext, exponent?_of_splitSign (splitSign_toDigits n) (natural?_toDigits n)]
      rfl
  | negSucc n =>
      have htext : (Int.repr (Int.negSucc n)).toList = '-' :: Nat.toDigits 10 (n + 1) := by
        rw [Int.repr, Nat.repr, String.toList_append, String.toList_ofList, String.toList_ofList]
        rfl
      have hsign : splitSign ('-' :: Nat.toDigits 10 (n + 1)) = (true, Nat.toDigits 10 (n + 1)) :=
        rfl
      rw [htext, exponent?_of_splitSign hsign (natural?_toDigits (n + 1))]
      rfl

namespace Numeral

variable {n : Numeral}

/-- What stands behind the digits of a number does not begin with another one. -/
theorem span_digits {ds rest : List Char} (hds : ∀ c ∈ ds, c.isDigit = true)
    (hrest : ∀ c ∈ rest.head?, c.isDigit = false) :
    (ds ++ rest).takeWhile Char.isDigit = ds ∧ (ds ++ rest).dropWhile Char.isDigit = rest := by
  rw [List.takeWhile_append_of_pos hds, List.dropWhile_append_of_pos hds]
  cases rest with
  | nil => exact ⟨List.append_nil ds, rfl⟩
  | cons c rest =>
      have hc := hrest c rfl
      rw [List.takeWhile_cons_of_neg (by simp [hc]), List.dropWhile_cons_of_neg (by simp [hc])]
      exact ⟨List.append_nil ds, rfl⟩

theorem unsigned?_of_point {whole part tail s : List Char} (hwhole : whole ≠ [])
    (hs : s.takeWhile Char.isDigit = whole ∧ s.dropWhile Char.isDigit = '.' :: (part ++ tail))
    (hpart : (part ++ tail).takeWhile Char.isDigit = part ∧
      (part ++ tail).dropWhile Char.isDigit = tail) :
    unsigned? s =
      (exponent? tail).map fun e => ⟨digitsValue (whole ++ part), e - part.length⟩ := by
  have hempty : whole.isEmpty = false := List.isEmpty_eq_false_iff.mpr hwhole
  rw [unsigned?, hs.1, hs.2]
  simp only [hpart.1, hpart.2, hempty, Bool.false_and, Bool.false_eq_true, if_false]

theorem unsigned?_of_no_point {whole tail s : List Char} (hwhole : whole ≠ [])
    (hs : s.takeWhile Char.isDigit = whole ∧ s.dropWhile Char.isDigit = tail)
    (htail : tail.head? ≠ some '.') :
    unsigned? s = (exponent? tail).map fun e => ⟨digitsValue (whole ++ []), e - (0 : Nat)⟩ := by
  have hempty : whole.isEmpty = false := List.isEmpty_eq_false_iff.mpr hwhole
  rw [unsigned?, hs.1, hs.2]
  simp only [hempty, Bool.false_and, Bool.false_eq_true, if_false]
  split
  next rest => exact absurd rfl htail
  next => rfl

theorem exponent?_power (power : Option Int) :
    exponent? (power.elim [] powerText) = some (power.getD 0) := by
  cases power with
  | none => rfl
  | some e => exact exponent?_powerText e

theorem head?_power {power : Option Int} {c : Char} (h : c ∈ (power.elim [] powerText).head?) :
    c = 'e' := by
  cases power with
  | none => cases h
  | some e => exact (Option.some.inj h).symm

theorem unsigned?_text (hn : n.WellFormed) : unsigned? n.text = some n.decimal := by
  obtain ⟨whole, part, power⟩ := n
  have hwhole : ∀ c ∈ whole, c.isDigit = true := hn.whole_digits
  have hpart : ∀ c ∈ part, c.isDigit = true := hn.part_digits
  have hpower : ∀ c ∈ (power.elim [] powerText).head?, c.isDigit = false := by
    intro c hc
    rw [head?_power hc]
    rfl
  cases part with
  | nil =>
      have hpoint : (power.elim [] powerText).head? ≠ some '.' := fun h =>
        absurd (head?_power h) (by decide)
      have htext : text ⟨whole, [], power⟩ = whole ++ power.elim [] powerText := rfl
      rw [htext, unsigned?_of_no_point hn.whole_ne_nil (span_digits hwhole hpower) hpoint,
        exponent?_power]
      rfl
  | cons c part =>
      have htext : text ⟨whole, c :: part, power⟩ =
          whole ++ '.' :: (c :: part ++ power.elim [] powerText) := rfl
      have hpoint : ∀ d ∈ ('.' :: (c :: part ++ power.elim [] powerText)).head?,
          d.isDigit = false := by
        intro d hd
        rw [← Option.some.inj hd]
        rfl
      rw [htext, unsigned?_of_point hn.whole_ne_nil (span_digits hwhole hpoint)
        (span_digits hpart hpower), exponent?_power]
      rfl

end Numeral

/-! ## The layout of a decimal -/

/-- Whether `s` is the text of a number whose value is that of `d`. -/
def WrittenAs (d : Decimal) (s : List Char) : Prop :=
  ∃ n : Numeral, n.WellFormed ∧ n.text = s ∧ n.decimal.value = d.value

theorem isDigit_of_mem_zero : ∀ c ∈ ['0'], c.isDigit = true := by
  intro c hc
  rw [List.mem_singleton.mp hc]
  rfl

theorem writtenAs_positional (d : Decimal) : d.WrittenAs d.positional := by
  rw [positional]
  split
  next hexp =>
    refine ⟨⟨Nat.toDigits 10 (d.digits * Nat.pow 10 d.exponent.toNat), ['0'], none⟩,
      ⟨fun _ => isDigit_of_mem_toDigits, isDigit_of_mem_zero, Nat.toDigits_ne_nil⟩, rfl, ?_⟩
    have hpow : (10 : ℚ) ^ d.exponent.toNat = 10 ^ d.exponent := by
      rw [← zpow_natCast, Int.toNat_of_nonneg hexp]
    have hdigits : digitsValue (Nat.toDigits 10 (d.digits * 10 ^ d.exponent.toNat) ++ ['0']) =
        d.digits * 10 ^ d.exponent.toNat * 10 := by
      rw [digitsValue_eq, Nat.ofDigitChars_append, Nat.ofDigitChars_toDigits (by norm_num) le_rfl,
        Nat.ofDigitChars_cons, Nat.ofDigitChars_nil, Nat.mul_comm]
      rfl
    simp only [Numeral.decimal, value, Nat.pow_eq, hdigits, Option.getD_none,
      List.length_singleton, Nat.cast_mul, Nat.cast_pow, Nat.cast_ofNat, hpow]
    norm_num
    ring
  next hexp =>
    have hlength := le_length_padded (d.exponent.natAbs + 1) d.digits
    set ds := padded (d.exponent.natAbs + 1) d.digits with hds
    have hdigit : ∀ c ∈ ds, c.isDigit = true := fun _ => isDigit_of_mem_padded
    have hpart : (ds.drop (ds.length - d.exponent.natAbs)).length = d.exponent.natAbs := by
      rw [List.length_drop]
      omega
    refine ⟨⟨ds.take (ds.length - d.exponent.natAbs), ds.drop (ds.length - d.exponent.natAbs),
      none⟩, ⟨fun c hc => hdigit c (List.mem_of_mem_take hc),
        fun c hc => hdigit c (List.mem_of_mem_drop hc), ?_⟩, ?_, ?_⟩
    · refine List.ne_nil_of_length_pos ?_
      rw [List.length_take]
      omega
    · have hpoint : (ds.drop (ds.length - d.exponent.natAbs)).isEmpty = false := by
        rw [List.isEmpty_eq_false_iff, ← List.length_pos_iff, hpart]
        omega
      simp only [Numeral.text, hpoint, Option.elim_none, List.append_nil]
      rfl
    · have hpower : (none : Option Int).getD 0 - (d.exponent.natAbs : Int) = d.exponent := by
        rw [Option.getD_none]
        omega
      have hdigits : digitsValue ds = d.digits := digitsValue_padded _ _
      simp only [Numeral.decimal, List.take_append_drop, hpart, hpower, hdigits]

theorem writtenAs_scientific (d : Decimal) : d.WrittenAs d.scientific := by
  obtain ⟨first, rest, heq, -⟩ := toDigits_cons d.digits
  have hdigit : ∀ c ∈ first :: rest, c.isDigit = true := heq ▸ fun _ => isDigit_of_mem_toDigits
  refine ⟨⟨[first], rest, some (d.exponent + (((first :: rest).length : Int) - 1))⟩,
    ⟨?_, fun c hc => hdigit c (List.mem_cons_of_mem first hc), List.cons_ne_nil _ _⟩, ?_, ?_⟩
  · intro c hc
    exact hdigit c (List.mem_cons.mpr (Or.inl (List.mem_singleton.mp hc)))
  · rw [scientific, heq]
    cases rest with
    | nil => rfl
    | cons second rest => simp [Numeral.text, Numeral.powerText]
  · have hpower : d.exponent + (((first :: rest).length : Int) - 1) - (rest.length : Int) =
        d.exponent := by
      rw [List.length_cons]
      omega
    have hdigits : digitsValue (first :: rest) = d.digits := heq ▸ digitsValue_toDigits d.digits
    simp only [Numeral.decimal, Option.getD_some, hpower, List.singleton_append, hdigits]

theorem writtenAs_layout (d : Decimal) : d.WrittenAs d.layout := by
  rw [layout]
  split
  next hzero =>
    refine ⟨⟨['0'], ['0'], none⟩, ⟨isDigit_of_mem_zero, isDigit_of_mem_zero, List.cons_ne_nil _ _⟩,
      rfl, ?_⟩
    rw [beq_iff_eq] at hzero
    simp [value, hzero, Numeral.decimal, digitsValue]
  next =>
    split
    · exact d.writtenAs_positional
    · exact d.writtenAs_scientific

end Decimal

end PlantGrowth
