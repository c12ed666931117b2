import Mathlib.Algebra.Order.Field.Power
import Mathlib.Algebra.Order.Ring.Rat
import Mathlib.Tactic.FieldSimp
import Mathlib.Tactic.Linarith
import Mathlib.Tactic.NormNum
import Mathlib.Tactic.Positivity
import Mathlib.Tactic.Ring
import PlantGrowth.Decimal.Basic

/-!
# Rounding to binary32 numbers

Around every finite binary32 number lies an interval of the numbers that are rounded to it: up to
half way to its neighbours, and the ends too if its significand is even.  Whether a decimal lies
there depends on its value alone, and so does what it is rounded to: a decimal from the interval
comes back as the pattern of the number in the middle.  The shortest decimal of a number is chosen
from its interval, so it always reads back.
-/

namespace PlantGrowth

namespace Decimal

/-- The number that a decimal stands for. -/
def value (d : Decimal) : ℚ := d.digits * 10 ^ d.exponent

theorem zpow_mul_pow_neg {b : ℚ} (hb : b ≠ 0) (z : ℤ) : b ^ z * b ^ (-z).toNat = b ^ z.toNat := by
  rw [← zpow_natCast, ← zpow_natCast, ← zpow_add₀ hb]
  congr 1
  omega

/-- A natural number under a scale is compared as the numbers without it. -/
theorem compare_of_scaled {a b : Nat} {x y c : ℚ} (hc : 0 < c) (ha : (a : ℚ) = x * c)
    (hb : (b : ℚ) = y * c) : compare a b = compare x y := by
  have hlt : a < b ↔ x < y := by rw [← Nat.cast_lt (α := ℚ), ha, hb, mul_lt_mul_iff_left₀ hc]
  have hgt : b < a ↔ y < x := by rw [← Nat.cast_lt (α := ℚ), ha, hb, mul_lt_mul_iff_left₀ hc]
  rcases lt_trichotomy x y with h | h | h
  · rw [compare_lt_iff_lt.mpr h, compare_lt_iff_lt.mpr (hlt.mpr h)]
  · rw [compare_eq_iff_eq.mpr h, compare_eq_iff_eq]
    have hnlt := hlt.not.mpr h.not_lt
    have hngt := hgt.not.mpr h.not_gt
    omega
  · rw [compare_gt_iff_gt.mpr h, compare_gt_iff_gt.mpr (hgt.mpr h)]

theorem compareWith_eq (d : Decimal) (n : Nat) (q : Int) :
    d.compareWith n q = compare d.value (n * 2 ^ q) := by
  have h2 := zpow_mul_pow_neg (b := 2) two_ne_zero q
  have h10 := zpow_mul_pow_neg (b := 10) (by norm_num) d.exponent
  refine compare_of_scaled (c := 2 ^ (-q).toNat * 10 ^ (-d.exponent).toNat) (by positivity) ?_ ?_
  · simp only [Nat.pow_eq, value, Nat.cast_mul, Nat.cast_pow, Nat.cast_ofNat]
    rw [← h10]
    ring
  · simp only [Nat.pow_eq, Nat.cast_mul, Nat.cast_pow, Nat.cast_ofNat]
    rw [← h2]
    ring

/-! ## Rounding to a whole number -/

/-- Whether `n` is the whole number nearest to `w`, and the even one of two. -/
def RoundsTo (w : ℚ) (n : Nat) : Prop :=
  ((n : ℚ) - 1 / 2 < w ∨ n % 2 = 0 ∧ w = n - 1 / 2) ∧
    (w < (n : ℚ) + 1 / 2 ∨ n % 2 = 0 ∧ w = n + 1 / 2)

/-- A fraction that is rounded, with the denominators cleared. -/
theorem RoundsTo.cleared {a b n : Nat} (hb : 0 < b) (h : RoundsTo ((a : ℚ) / b) n) :
    (2 * n * b < 2 * a + b ∨ n % 2 = 0 ∧ 2 * n * b = 2 * a + b) ∧
      (2 * a < 2 * n * b + b ∨ n % 2 = 0 ∧ 2 * a = 2 * n * b + b) := by
  have hpos : (0 : ℚ) < b := by exact_mod_cast hb
  obtain ⟨hlo, hhi⟩ := h
  rw [lt_div_iff₀ hpos, div_eq_iff hpos.ne'] at hlo
  rw [div_lt_iff₀ hpos, div_eq_iff hpos.ne'] at hhi
  refine ⟨hlo.imp (fun hlt => ?_) (And.imp_right fun heq => ?_),
    hhi.imp (fun hlt => ?_) (And.imp_right fun heq => ?_)⟩
  · have hcast : (2 * n * b : ℚ) < 2 * a + b := by linarith
    exact_mod_cast hcast
  · have hcast : (2 * n * b : ℚ) = 2 * a + b := by linarith
    exact_mod_cast hcast
  · have hcast : (2 * a : ℚ) < 2 * n * b + b := by linarith
    exact_mod_cast hcast
  · have hcast : (2 * a : ℚ) = 2 * n * b + b := by linarith
    exact_mod_cast hcast

/-- The quotient `q` with the remainder `r`, rounded, a half to even. -/
theorem roundsTo_quotient {b n q r : Nat} (hr : r < b)
    (hlo : 2 * n * b < 2 * (b * q + r) + b ∨ n % 2 = 0 ∧ 2 * n * b = 2 * (b * q + r) + b)
    (hhi : 2 * (b * q + r) < 2 * n * b + b ∨ n % 2 = 0 ∧ 2 * (b * q + r) = 2 * n * b + b) :
    (if 2 * r < b then q else if b < 2 * r then q + 1 else if q % 2 == 0 then q else q + 1) =
      n := by
  -- the rounded number is the quotient or the next one
  have hle : q ≤ n := by
    by_contra hlt
    have hmul : b * (n + 1) ≤ b * q := Nat.mul_le_mul_left b (Nat.lt_of_not_le hlt)
    rcases hhi with h | ⟨-, h⟩ <;> linarith
  have hge : n ≤ q + 1 := by
    by_contra hlt
    have hmul : b * (q + 2) ≤ b * n := Nat.mul_le_mul_left b (Nat.lt_of_not_le hlt)
    rcases hlo with h | ⟨-, h⟩ <;> linarith
  rcases (show n = q ∨ n = q + 1 by omega) with rfl | rfl
  · rcases hhi with h | ⟨heven, h⟩
    · rw [if_pos (by linarith)]
    · rw [if_neg (by linarith), if_neg (by linarith), if_pos (beq_iff_eq.mpr heven)]
  · rcases hlo with h | ⟨heven, h⟩
    · rw [if_neg (by linarith), if_pos (by linarith)]
    · have hodd : ¬(q % 2 == 0) = true := by
        rw [beq_iff_eq]
        omega
      rw [if_neg (by linarith), if_neg (by linarith), if_neg hodd]

theorem roundIn_eq {base num den n : Nat} {unit : Int} (hbase : 0 < base) (hden : 0 < den)
    (h : RoundsTo ((num : ℚ) / den / (base : ℚ) ^ unit) n) : roundIn base num den unit = n := by
  have hbase' : (base : ℚ) ≠ 0 := Nat.cast_ne_zero.mpr hbase.ne'
  have hpos : 0 < den * base ^ unit.toNat := by positivity
  have hquot : (num : ℚ) / den / (base : ℚ) ^ unit =
      ((num * base ^ (-unit).toNat : Nat) : ℚ) / ((den * base ^ unit.toNat : Nat) : ℚ) := by
    simp only [Nat.cast_mul, Nat.cast_pow]
    rw [← zpow_mul_pow_neg hbase' unit]
    field_simp
  rw [hquot] at h
  obtain ⟨hlo, hhi⟩ := h.cleared hpos
  rw [← Nat.div_add_mod (num * base ^ (-unit).toNat) (den * base ^ unit.toNat)] at hlo hhi
  exact roundsTo_quotient (Nat.mod_lt _ hpos) hlo hhi

/-! ## The size of a fraction -/

theorem bitCount_bounds {n : Nat} (hn : 0 < n) : 2 ^ (bitCount n - 1) ≤ n ∧ n < 2 ^ bitCount n := by
  have hcount : bitCount n = n.log2 + 1 := by simp [bitCount, hn.ne']
  rw [hcount, Nat.add_sub_cancel]
  exact ⟨Nat.log2_self_le hn.ne', Nat.lt_log2_self⟩

theorem bitCount_pos {n : Nat} (hn : 0 < n) : 0 < bitCount n := by
  simp [bitCount, hn.ne']

theorem binaryMagnitude_bounds {num den : Nat} (hnum : 0 < num) (hden : 0 < den) :
    (2 : ℚ) ^ (binaryMagnitude num den - 1) ≤ (num : ℚ) / den ∧
      (num : ℚ) / den < 2 ^ binaryMagnitude num den := by
  have hnum' : (0 : ℚ) < num := Nat.cast_pos.mpr hnum
  have hden' : (0 : ℚ) < den := Nat.cast_pos.mpr hden
  rw [le_div_iff₀ hden', div_lt_iff₀ hden']
  by_cases hle : den ≤ num
  · have hquot : 0 < num / den := Nat.div_pos hle hden
    obtain ⟨hlo, hhi⟩ := bitCount_bounds hquot
    have hcount := bitCount_pos hquot
    rw [Nat.le_div_iff_mul_le hden] at hlo
    rw [Nat.div_lt_iff_lt_mul hden] at hhi
    rw [binaryMagnitude, if_pos hle,
      show (bitCount (num / den) : ℤ) - 1 = (bitCount (num / den) - 1 : Nat) by omega]
    simp only [zpow_natCast]
    exact ⟨by exact_mod_cast hlo, by exact_mod_cast hhi⟩
  · have hquot : 0 < (den - 1) / num := Nat.div_pos (by omega) hnum
    obtain ⟨hlo, hhi⟩ := bitCount_bounds hquot
    have hcount := bitCount_pos hquot
    rw [Nat.le_div_iff_mul_le hnum] at hlo
    rw [Nat.div_lt_iff_lt_mul hnum] at hhi
    rw [binaryMagnitude, if_neg hle]
    generalize bitCount ((den - 1) / num) = k at hlo hhi hcount ⊢
    have hlo' : (2 ^ (k - 1) * num : ℚ) < den := by
      have hlt : 2 ^ (k - 1) * num < den := by omega
      exact_mod_cast hlt
    have hhi' : (den : ℚ) ≤ 2 ^ k * num := by
      have hle : den ≤ 2 ^ k * num := by omega
      exact_mod_cast hle
    constructor
    · rw [show (1 - (k : ℤ) - 1) = -(k : ℤ) by omega, zpow_neg, zpow_natCast,
        inv_mul_le_iff₀ (by positivity)]
      exact hhi'
    · rw [show (1 - (k : ℤ)) = -((k - 1 : Nat) : ℤ) by omega, zpow_neg, zpow_natCast,
        lt_inv_mul_iff₀ (by positivity)]
      exact hlo'

theorem two_zpow_add (q : ℤ) (k : Nat) : (2 : ℚ) ^ (q + k) = 2 ^ k * 2 ^ q := by
  rw [zpow_add₀ two_ne_zero, zpow_natCast, mul_comm]

theorem binaryMagnitude_le_add {num den : Nat} (hnum : 0 < num) (hden : 0 < den) {k : Nat} {q : Int}
    (h : (num : ℚ) / den < 2 ^ k * 2 ^ q) : binaryMagnitude num den ≤ q + k := by
  have hlt : (2 : ℚ) ^ (binaryMagnitude num den - 1) < 2 ^ (q + k) := by
    rw [two_zpow_add]
    exact (binaryMagnitude_bounds hnum hden).1.trans_lt h
  have := (zpow_lt_zpow_iff_right₀ one_lt_two).mp hlt
  omega

theorem binaryMagnitude_eq_add {num den : Nat} (hnum : 0 < num) (hden : 0 < den) {k : Nat} {q : Int}
    (hlo : 2 ^ k * 2 ^ q ≤ (num : ℚ) / den) (hhi : (num : ℚ) / den < 2 ^ (k + 1) * 2 ^ q) :
    binaryMagnitude num den = q + (k + 1 : Nat) := by
  refine le_antisymm (binaryMagnitude_le_add hnum hden hhi) ?_
  have hlt : (2 : ℚ) ^ (q + k) < 2 ^ binaryMagnitude num den := by
    rw [two_zpow_add]
    exact hlo.trans_lt (binaryMagnitude_bounds hnum hden).2
  have := (zpow_lt_zpow_iff_right₀ one_lt_two).mp hlt
  omega

/-! ## The interval of a number -/

namespace Dyadic

def lower (x : Dyadic) : ℚ :=
  (4 * (x.m : ℚ) - if x.narrowBelow then 1 else 2) * 2 ^ (x.q - 2)

def upper (x : Dyadic) : ℚ := (4 * x.m + 2) * 2 ^ (x.q - 2)

/-- Whether `v` lies among the numbers that are rounded to `x`. -/
def Attracts (x : Dyadic) (v : ℚ) : Prop :=
  (x.lower < v ∨ x.m % 2 = 0 ∧ v = x.lower) ∧ (v < x.upper ∨ x.m % 2 = 0 ∧ v = x.upper)

theorem readsBack_iff {x : Dyadic} (hm : 0 < x.m) (d : Decimal) :
    x.readsBack d = true ↔ x.Attracts d.value := by
  have hlower : ((if x.narrowBelow then 4 * x.m - 1 else 4 * x.m - 2 : Nat) : ℚ) * 2 ^ (x.q - 2) =
      x.lower := by
    rw [lower]
    split
    · rw [Nat.cast_sub (by omega), Nat.cast_mul, Nat.cast_ofNat, Nat.cast_one]
    · rw [Nat.cast_sub (by omega), Nat.cast_mul, Nat.cast_ofNat, Nat.cast_ofNat]
  have hupper : ((4 * x.m + 2 : Nat) : ℚ) * 2 ^ (x.q - 2) = x.upper := by
    rw [upper]
    push_cast
    rfl
  simp only [readsBack, compareWith_eq, hlower, hupper, Attracts, Bool.and_eq_true,
    Bool.or_eq_true, beq_iff_eq, compare_gt_iff_gt, compare_lt_iff_lt, compare_eq_iff_eq]

/-- What is true of the magnitude of every finite number: its significand has 24 bits, or fewer
with the least exponent, and the gap below it is narrow where the exponent changes. -/
structure Lawful (x : Dyadic) : Prop where
  m_lt : x.m < 2 ^ 24
  q_ge : -149 ≤ x.q
  q_le : x.q ≤ 104
  normal : 2 ^ 23 ≤ x.m ∨ x.q = -149
  narrow_iff : x.narrowBelow = true ↔ x.m = 2 ^ 23 ∧ -149 < x.q

/-- The pattern of a number without its sign. -/
def pattern (x : Dyadic) : Nat := (x.q + 149).toNat * 2 ^ 23 + x.m

theorem exponentBits (x : Binary32) :
    ((x.bits >>> 23) &&& 0xff).toNat = x.bits.toNat / 2 ^ 23 % 2 ^ 8 := by
  rw [UInt32.toNat_and, UInt32.toNat_shiftRight, Nat.shiftRight_eq_div_pow]
  exact Nat.and_two_pow_sub_one_eq_mod _ 8

theorem fractionBits (x : Binary32) : (x.bits &&& 0x7fffff).toNat = x.bits.toNat % 2 ^ 23 := by
  rw [UInt32.toNat_and]
  exact Nat.and_two_pow_sub_one_eq_mod _ 23

theorem magnitudeBits (x : Binary32) : x.magnitude.toNat = x.bits.toNat % 2 ^ 31 := by
  rw [Binary32.magnitude, UInt32.toNat_and]
  exact Nat.and_two_pow_sub_one_eq_mod _ 31

theorem ofBinary32_eq (x : Binary32) :
    ofBinary32 x =
      if x.magnitude.toNat < 2 ^ 23 then ⟨x.magnitude.toNat, -149, false⟩
      else ⟨2 ^ 23 + x.magnitude.toNat % 2 ^ 23, (x.magnitude.toNat / 2 ^ 23 : Nat) - 150,
        x.magnitude.toNat % 2 ^ 23 == 0 && x.magnitude.toNat / 2 ^ 23 > 1⟩ := by
  have hexp : ((x.bits >>> 23) &&& 0xff).toNat = x.magnitude.toNat / 2 ^ 23 := by
    rw [exponentBits, magnitudeBits]
    omega
  have hfrac : (x.bits &&& 0x7fffff).toNat = x.magnitude.toNat % 2 ^ 23 := by
    rw [fractionBits, magnitudeBits]
    omega
  rw [ofBinary32, hexp, hfrac]
  by_cases h : x.magnitude.toNat < 2 ^ 23
  · rw [if_pos h, if_pos (beq_iff_eq.mpr (Nat.div_eq_of_lt h)), Nat.mod_eq_of_lt h]
  · have hne : ¬(x.magnitude.toNat / 2 ^ 23 == 0) = true := by
      rw [beq_iff_eq]
      omega
    rw [if_neg h, if_neg hne]
    rfl

theorem pattern_ofBinary32 (x : Binary32) : (ofBinary32 x).pattern = x.magnitude.toNat := by
  rw [ofBinary32_eq, pattern]
  by_cases h : x.magnitude.toNat < 2 ^ 23
  · rw [if_pos h]
    simp only
    omega
  · rw [if_neg h]
    simp only
    omega

theorem ofBinary32_lawful {x : Binary32} (hfin : x.isFinite = true) : (ofBinary32 x).Lawful := by
  have hlt : x.magnitude.toNat < 0x7f800000 := UInt32.lt_iff_toNat_lt.mp (of_decide_eq_true hfin)
  rw [ofBinary32_eq]
  by_cases h : x.magnitude.toNat < 2 ^ 23
  · rw [if_pos h]
    exact ⟨by simp only; omega, le_refl _, by simp, Or.inr rfl, by simp⟩
  · rw [if_neg h]
    refine ⟨?_, ?_, ?_, Or.inl (Nat.le_add_right _ _), ?_⟩
    · simp only
      omega
    · simp only
      omega
    · simp only
      omega
    · simp only [Bool.and_eq_true, beq_iff_eq, decide_eq_true_eq]
      omega

variable {x : Dyadic} {v : ℚ}

theorem zpow_sub_two (q : ℤ) : (2 : ℚ) ^ (q - 2) = 2 ^ q / 4 := by
  rw [zpow_sub₀ two_ne_zero]
  norm_num

theorem lower_ge (x : Dyadic) : ((x.m : ℚ) - 1 / 2) * 2 ^ x.q ≤ x.lower := by
  have hpos : (0 : ℚ) < 2 ^ x.q := by positivity
  rw [lower, zpow_sub_two]
  split <;> linarith

theorem lower_of_narrow (h : x.narrowBelow = true) :
    x.lower = ((x.m : ℚ) - 1 / 4) * 2 ^ x.q := by
  rw [lower, if_pos h, zpow_sub_two]
  ring

theorem upper_eq (x : Dyadic) : x.upper = ((x.m : ℚ) + 1 / 2) * 2 ^ x.q := by
  rw [upper, zpow_sub_two]
  ring

theorem Attracts.le (h : x.Attracts v) : x.lower ≤ v ∧ v ≤ x.upper :=
  ⟨h.1.elim le_of_lt fun heq => heq.2.ge, h.2.elim le_of_lt fun heq => heq.2.le⟩

theorem Attracts.lt (hx : x.Lawful) (h : x.Attracts v) : v < 2 ^ 24 * 2 ^ x.q := by
  have hpos : (0 : ℚ) < 2 ^ x.q := by positivity
  have hm : (x.m : ℚ) + 1 / 2 < 2 ^ 24 := by
    have hle : (x.m : ℚ) + 1 ≤ 2 ^ 24 := by exact_mod_cast hx.m_lt
    linarith
  calc v ≤ ((x.m : ℚ) + 1 / 2) * 2 ^ x.q := x.upper_eq ▸ h.le.2
    _ < 2 ^ 24 * 2 ^ x.q := mul_lt_mul_of_pos_right hm hpos

theorem Attracts.le_of_significand (h : x.Attracts v) (hm : x.m = 2 ^ 23) :
    2 ^ 22 * 2 ^ x.q ≤ v := by
  have hpos : (0 : ℚ) < 2 ^ x.q := by positivity
  calc (2 : ℚ) ^ 22 * 2 ^ x.q ≤ ((x.m : ℚ) - 1 / 2) * 2 ^ x.q := by
        rw [hm]
        push_cast
        linarith
    _ ≤ v := x.lower_ge.trans h.le.1

/-- In units of its own exponent, what a number attracts is rounded to its significand. -/
theorem Attracts.roundsTo (h : x.Attracts v) : RoundsTo (v / 2 ^ x.q) x.m := by
  have hpos : (0 : ℚ) < 2 ^ x.q := by positivity
  have hlower := x.lower_ge
  obtain ⟨hlo, hhi⟩ := h
  rw [upper_eq] at hhi
  rw [RoundsTo, lt_div_iff₀ hpos, div_eq_iff hpos.ne', div_lt_iff₀ hpos, div_eq_iff hpos.ne']
  refine ⟨?_, hhi⟩
  rcases hlo with hlt | ⟨heven, heq⟩
  · exact Or.inl (hlower.trans_lt hlt)
  · rcases (heq ▸ hlower).lt_or_eq with hlt | heq'
    · exact Or.inl hlt
    · exact Or.inr ⟨heven, heq'.symm⟩

/-- Below a power of two the units are half as large, and what the power attracts from there is
rounded up to it. -/
theorem Attracts.roundsTo_below (hx : x.Lawful) (h : x.Attracts v) (hq : -149 < x.q)
    (hv : v < 2 ^ 23 * 2 ^ x.q) : x.m = 2 ^ 23 ∧ RoundsTo (v / 2 ^ (x.q - 1)) (2 ^ 24) := by
  have hpos : (0 : ℚ) < 2 ^ x.q := by positivity
  have hm : x.m = 2 ^ 23 := by
    have hnormal : 2 ^ 23 ≤ x.m := hx.normal.resolve_right hq.ne'
    have hlt : ((x.m : ℚ) - 1 / 2) * 2 ^ x.q < 2 ^ 23 * 2 ^ x.q :=
      (x.lower_ge.trans h.le.1).trans_lt hv
    have hcast : (x.m : ℚ) < 2 ^ 23 + 1 := by linarith [lt_of_mul_lt_mul_right hlt hpos.le]
    have hlt' : x.m < 2 ^ 23 + 1 := by exact_mod_cast hcast
    omega
  have hlower := h.le.1
  rw [lower_of_narrow (hx.narrow_iff.mpr ⟨hm, hq⟩), hm] at hlower
  push_cast at hlower
  refine ⟨hm, ?_⟩
  rw [RoundsTo, zpow_sub_one₀ two_ne_zero, lt_div_iff₀ (by positivity),
    div_eq_iff (by positivity), div_lt_iff₀ (by positivity)]
  push_cast
  constructor
  · rcases hlower.lt_or_eq with hlt | heq
    · left
      linarith
    · right
      refine ⟨by norm_num, ?_⟩
      linarith
  · left
    linarith

end Dyadic

theorem nearest_of_roundsTo {num den n : Nat} {q : Int} (hden : 0 < den)
    (hunit : max (binaryMagnitude num den - 24) (-149) = q)
    (hround : RoundsTo ((num : ℚ) / den / 2 ^ q) n)
    (hfin : (q + 149).toNat * 2 ^ 23 + n < Binary32.infinity.bits.toNat) :
    nearest num den = ⟨UInt32.ofNat ((q + 149).toNat * 2 ^ 23 + n)⟩ := by
  have hn : roundIn 2 num den q = n := roundIn_eq two_pos hden (by exact_mod_cast hround)
  simp only [nearest, hunit, hn, Nat.pow_eq]
  rw [if_pos hfin]

/-- What a number attracts is rounded to it. -/
theorem nearest_of_attracts {x : Dyadic} (hx : x.Lawful) {num den : Nat} (hnum : 0 < num)
    (hden : 0 < den) (h : x.Attracts ((num : ℚ) / den))
    (hfin : x.pattern < Binary32.infinity.bits.toNat) :
    nearest num den = ⟨UInt32.ofNat x.pattern⟩ := by
  rcases le_or_gt (2 ^ 23 * 2 ^ x.q) ((num : ℚ) / den) with hge | hlt
  · have hsize : binaryMagnitude num den = x.q + 24 :=
      binaryMagnitude_eq_add hnum hden hge (h.lt hx)
    have hunit : max (binaryMagnitude num den - 24) (-149) = x.q := by
      have := hx.q_ge
      omega
    exact nearest_of_roundsTo hden hunit h.roundsTo hfin
  · have hsize : binaryMagnitude num den ≤ x.q + 23 := binaryMagnitude_le_add hnum hden hlt
    rcases hx.q_ge.eq_or_lt with hq | hq
    · have hunit : max (binaryMagnitude num den - 24) (-149) = x.q := by omega
      exact nearest_of_roundsTo hden hunit h.roundsTo hfin
    · obtain ⟨hm, hround⟩ := h.roundsTo_below hx hq hlt
      have hsize : binaryMagnitude num den = x.q + 23 :=
        binaryMagnitude_eq_add hnum hden (h.le_of_significand hm) hlt
      have hunit : max (binaryMagnitude num den - 24) (-149) = x.q - 1 := by omega
      -- the significand carries into the exponent
      have hcarry : (x.q - 1 + 149).toNat * 2 ^ 23 + 2 ^ 24 = x.pattern := by
        rw [Dyadic.pattern, hm]
        omega
      rw [← hcarry] at hfin ⊢
      exact nearest_of_roundsTo hden hunit hround hfin

/-! ## The number nearest to a decimal -/

theorem digitCount_bounds {n : Nat} (hn : 0 < n) :
    10 ^ (digitCount n - 1) ≤ n ∧ n < 10 ^ digitCount n := by
  have hpos : 0 < digitCount n := Nat.length_toDigits_pos
  refine ⟨?_, (Nat.length_toDigits_le_iff (by norm_num) hpos).mp le_rfl⟩
  rcases Nat.eq_zero_or_pos (digitCount n - 1) with hone | hmore
  · rw [hone, pow_zero]
    exact hn
  · rw [← not_lt, ← Nat.length_toDigits_le_iff (by norm_num) hmore]
    change ¬digitCount n ≤ digitCount n - 1
    omega

theorem value_bounds {d : Decimal} (hd : 0 < d.digits) :
    (10 : ℚ) ^ (digitCount d.digits + d.exponent - 1) ≤ d.value ∧
      d.value < 10 ^ (digitCount d.digits + d.exponent) := by
  have hpos : 0 < digitCount d.digits := Nat.length_toDigits_pos
  have hten : (10 : ℚ) ≠ 0 := by norm_num
  obtain ⟨hlo, hhi⟩ := digitCount_bounds hd
  have hlo' : (10 : ℚ) ^ (digitCount d.digits - 1) ≤ d.digits := by exact_mod_cast hlo
  have hhi' : (d.digits : ℚ) < 10 ^ digitCount d.digits := by exact_mod_cast hhi
  rw [show (digitCount d.digits : ℤ) + d.exponent - 1 =
      ((digitCount d.digits - 1 : Nat) : ℤ) + d.exponent by omega,
    zpow_add₀ hten, zpow_add₀ hten, zpow_natCast, zpow_natCast]
  exact ⟨mul_le_mul_of_nonneg_right hlo' (by positivity),
    mul_lt_mul_of_pos_right hhi' (by positivity)⟩

theorem value_eq_fraction (d : Decimal) :
    ((d.digits * 10 ^ d.exponent.toNat : Nat) : ℚ) / ((10 ^ (-d.exponent).toNat : Nat) : ℚ) =
      d.value := by
  simp only [Nat.cast_mul, Nat.cast_pow, Nat.cast_ofNat, value]
  rw [← zpow_mul_pow_neg (b := 10) (by norm_num) d.exponent]
  field_simp

/-- Finite numbers are far away from the sizes that are decided without looking at the digits. -/
theorem Dyadic.Attracts.bounds {x : Dyadic} {v : ℚ} (hx : x.Lawful) (hm : 0 < x.m)
    (h : x.Attracts v) : (10 : ℚ) ^ (-60 : ℤ) < v ∧ v < 10 ^ (60 : ℤ) := by
  have hm' : (1 : ℚ) ≤ x.m := by exact_mod_cast hm
  have hsmall : (2 : ℚ) ^ (-149 : ℤ) ≤ 2 ^ x.q := zpow_le_zpow_right₀ one_le_two hx.q_ge
  have hlarge : (2 : ℚ) ^ x.q ≤ 2 ^ (104 : ℤ) := zpow_le_zpow_right₀ one_le_two hx.q_le
  constructor
  · calc (10 : ℚ) ^ (-60 : ℤ) < 1 / 2 * 2 ^ (-149 : ℤ) := by norm_num
      _ ≤ ((x.m : ℚ) - 1 / 2) * 2 ^ x.q := by
          exact mul_le_mul (by linarith) hsmall (by positivity) (by linarith)
      _ ≤ v := x.lower_ge.trans h.le.1
  · calc v < 2 ^ 24 * 2 ^ x.q := h.lt hx
      _ ≤ 2 ^ 24 * 2 ^ (104 : ℤ) := mul_le_mul_of_nonneg_left hlarge (by positivity)
      _ < 10 ^ (60 : ℤ) := by norm_num

/-- Every decimal in the interval of a number is rounded to it. -/
theorem toBinary32_of_attracts {x : Binary32} (hfin : x.isFinite = true)
    (hm : 0 < (Dyadic.ofBinary32 x).m) {d : Decimal}
    (h : (Dyadic.ofBinary32 x).Attracts d.value) : d.toBinary32 = ⟨x.magnitude⟩ := by
  have hx := Dyadic.ofBinary32_lawful hfin
  have hten : (1 : ℚ) < 10 := by norm_num
  obtain ⟨hsmall, hlarge⟩ := h.bounds hx hm
  have hpos : 0 < d.digits := by
    rw [Nat.pos_iff_ne_zero]
    intro hzero
    rw [value, hzero, Nat.cast_zero, zero_mul] at hsmall
    exact absurd hsmall (not_lt.mpr (by positivity))
  obtain ⟨hlo, hhi⟩ := value_bounds hpos
  have hbottom : -60 < (digitCount d.digits : ℤ) + d.exponent :=
    (zpow_lt_zpow_iff_right₀ hten).mp (hsmall.trans hhi)
  have htop : (digitCount d.digits : ℤ) + d.exponent - 1 < 60 :=
    (zpow_lt_zpow_iff_right₀ hten).mp (hlo.trans_lt hlarge)
  rw [← value_eq_fraction] at h
  have hbits : (Dyadic.ofBinary32 x).pattern < Binary32.infinity.bits.toNat := by
    rw [Dyadic.pattern_ofBinary32]
    exact UInt32.lt_iff_toNat_lt.mp (of_decide_eq_true hfin)
  have hnearest := Dyadic.pattern_ofBinary32 x ▸
    nearest_of_attracts hx (by positivity) (by positivity) h hbits
  have hsome : ¬((d.digits == 0) = true ∨
      decide ((digitCount d.digits : ℤ) + d.exponent < -60) = true) := by
    rw [beq_iff_eq, decide_eq_true_eq]
    omega
  rw [toBinary32, if_neg (by simpa using hsome), if_neg (by omega)]
  simpa using hnearest

/-! ## The shortest decimal -/

theorem stripZeros_value (fuel : Nat) (d : Decimal) : (stripZeros fuel d).value = d.value := by
  induction fuel generalizing d with
  | zero => rfl
  | succ fuel ih =>
      rw [stripZeros]
      split
      next hzero =>
        rw [ih]
        have hdigits : d.digits = 10 * (d.digits / 10) := by
          rw [Bool.and_eq_true, beq_iff_eq] at hzero
          omega
        have hcast : (d.digits : ℚ) = 10 * ((d.digits / 10 : Nat) : ℚ) := by exact_mod_cast hdigits
        rw [value, value, hcast, zpow_add_one₀ (by norm_num)]
        ring
      next => rfl

theorem normal_value (d : Decimal) : d.normal.value = d.value := by
  rw [normal]
  split
  next hzero =>
    rw [beq_iff_eq] at hzero
    simp [value, hzero]
  next => exact stripZeros_value _ d

namespace Dyadic

variable {x : Dyadic}

theorem onGrid?_readsBack {n : Nat} {d : Decimal} (h : x.onGrid? n = some d) :
    x.readsBack d = true := by
  rw [onGrid?] at h
  split at h
  next hdown hup =>
    split at h
    · rwa [← Option.some.inj h]
    · rwa [← Option.some.inj h]
  next hdown _ => rwa [← Option.some.inj h]
  next _ hup => rwa [← Option.some.inj h]
  next => cases h

theorem exact_value (x : Dyadic) : x.exact.value = x.m * 2 ^ x.q := by
  rw [exact]
  split
  next hq =>
    simp only [value, num, Nat.pow_eq, Nat.cast_mul, Nat.cast_pow, Nat.cast_ofNat, zpow_zero,
      mul_one]
    rw [← zpow_natCast, Int.toNat_of_nonneg hq]
  next hq =>
    have hneg : (5 : ℚ) ^ (-x.q).toNat * 5 ^ x.q = 1 := by
      rw [← zpow_natCast, Int.toNat_of_nonneg (by omega), ← zpow_add₀ (by norm_num), neg_add_cancel,
        zpow_zero]
    simp only [value, Nat.pow_eq, Nat.cast_mul, Nat.cast_pow, Nat.cast_ofNat]
    rw [show (10 : ℚ) = 5 * 2 by norm_num, mul_zpow, mul_assoc, ← mul_assoc _ _ ((2 : ℚ) ^ x.q),
      hneg, one_mul]

theorem attracts_self (x : Dyadic) : x.Attracts (x.m * 2 ^ x.q) := by
  have hpos : (0 : ℚ) < 2 ^ x.q := by positivity
  constructor
  · left
    rw [lower, zpow_sub_two]
    split <;> linarith
  · left
    rw [upper_eq]
    linarith

/-- The shortest decimal of a number lies in its interval. -/
theorem shortest_attracts (hm : 0 < x.m) : x.Attracts x.shortest.value := by
  have hne : ¬(x.m == 0) = true := by
    rw [beq_iff_eq]
    omega
  rw [shortest, if_neg hne, normal_value]
  cases hfound : (List.range 9).findSome? fun n => x.onGrid? (n + 1) with
  | none =>
      rw [Option.getD_none, exact_value]
      exact x.attracts_self
  | some d =>
      obtain ⟨n, _, hn⟩ := List.exists_of_findSome?_eq_some hfound
      exact (readsBack_iff hm d).mp (onGrid?_readsBack hn)

end Dyadic

/-- What has the value of the shortest decimal of a finite number is rounded to that number, its
sign apart. -/
theorem toBinary32_of_value_eq {x : Binary32} (hfin : x.isFinite = true) {d : Decimal}
    (hd : d.value = (Dyadic.ofBinary32 x).shortest.value) : d.toBinary32 = ⟨x.magnitude⟩ := by
  rcases Nat.eq_zero_or_pos (Dyadic.ofBinary32 x).m with hzero | hpos
  · have hq := (Dyadic.ofBinary32_lawful hfin).normal.resolve_left (by omega)
    have hbits : x.magnitude = 0 := by
      rw [← UInt32.toNat_inj, ← Dyadic.pattern_ofBinary32, Dyadic.pattern, hzero, hq]
      rfl
    have hdigits : d.digits = 0 := by
      have hten : (10 : ℚ) ^ d.exponent ≠ 0 := zpow_ne_zero _ (by norm_num)
      rw [Dyadic.shortest, if_pos (beq_iff_eq.mpr hzero)] at hd
      simpa [value, hten] using hd
    simp [toBinary32, hdigits, hbits]
  · exact toBinary32_of_attracts hfin hpos (hd ▸ Dyadic.shortest_attracts hpos)

end Decimal

end PlantGrowth
