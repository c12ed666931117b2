import Mathlib.Data.Prod.Lex
import PlantGrowth.Proofs.ExactArithmetic

/-!
# The order of numbers

Scalars are compared, and the lesser or greater of two is taken, but some of them are not numbers
and compare with nothing, not even with themselves.  The numbers among the scalars are the ones
that do.  Their order is total, and taking the lesser or the greater picks one of the operands: a
number if there is one, and the one that comes first if both are.

Binary32 numbers are compared by sign, exponent and mantissa, in this order, so they are ordered
as such triples are.  Zeros have no sign there: two numbers may be equal in the order and still be
different.
-/

namespace PlantGrowth

namespace Scalar

variable {α : Type} [Scalar α]

def IsNumber (x : α) : Prop := le x x = true

instance (x : α) : Decidable (IsNumber x) := inferInstanceAs (Decidable (_ = true))

/-- Equal as numbers, or both not a number. -/
def Alike (x y : α) : Prop :=
  le x y = true ∧ le y x = true ∨ ¬IsNumber x ∧ ¬IsNumber y

/-- The laws of comparison, as far as something is a number. -/
class LawfulOrder (α : Type) [Scalar α] : Prop where
  number_of_le : ∀ x y : α, le x y = true → IsNumber x ∧ IsNumber y
  le_total : ∀ x y : α, IsNumber x → IsNumber y → le x y = true ∨ le y x = true
  le_trans : ∀ x y z : α, le x y = true → le y z = true → le x z = true
  lesser_eq : ∀ x y : α, lesser x y =
    if IsNumber x ∧ (le x y = true ∨ ¬IsNumber y) then x else y
  greater_eq : ∀ x y : α, greater x y =
    if IsNumber x ∧ (le y x = true ∨ ¬IsNumber y) then x else y

instance : LawfulOrder ℝ where
  number_of_le x y _ := by simp [IsNumber, le]
  le_total x y _ _ := by simpa [le] using le_total x y
  le_trans x y z := by simpa [le] using le_trans
  lesser_eq x y := by simp [IsNumber, le, lesser, min_def]
  greater_eq x y := by simp [IsNumber, le, greater, max_def']

end Scalar

namespace Binary32

open Float.Model (UnpackedFloat)

/-- Where a number stands: its sign or whether it is infinite, then its exponent, then its
mantissa. -/
def rank? : UnpackedFloat → Option (ℤ ×ₗ ℤ ×ₗ ℤ)
  | .notANumber => none
  | .infinity .negative => some (toLex (-2, toLex (0, 0)))
  | .finite .negative mantissa exponent _ => some (toLex (-1, toLex (-exponent, -mantissa)))
  | .zero _ => some (toLex (0, toLex (0, 0)))
  | .finite .positive mantissa exponent _ => some (toLex (1, toLex (exponent, mantissa)))
  | .infinity .positive => some (toLex (2, toLex (0, 0)))

theorem compare_eq_lt_iff (a b : UnpackedFloat) :
    a.compare b = some .lt ↔ ∃ r s, rank? a = some r ∧ rank? b = some s ∧ r < s := by
  rcases a with (_ | _) | _ | _ | ⟨_ | _, _, _, _⟩ <;>
    rcases b with (_ | _) | _ | _ | ⟨_ | _, _, _, _⟩ <;>
      dsimp only [UnpackedFloat.compare, rank?] <;>
        simp [Prod.Lex.toLex_lt_toLex, Ordering.then_eq_lt, Ordering.then_eq_gt,
          compare_lt_iff_lt, compare_gt_iff_gt]
  -- two infinities of different sign
  decide

theorem compare_eq_eq_iff (a b : UnpackedFloat) :
    a.compare b = some .eq ↔ ∃ r, rank? b = some r ∧ rank? a = some r := by
  rcases a with (_ | _) | _ | _ | ⟨_ | _, _, _, _⟩ <;>
    rcases b with (_ | _) | _ | _ | ⟨_ | _, _, _, _⟩ <;>
      dsimp only [UnpackedFloat.compare, rank?] <;> simp
  -- an infinity and itself
  all_goals decide

theorem le_eq_true_iff (a b : UnpackedFloat) :
    a.le b = true ↔ a.compare b = some .lt ∨ a.compare b = some .eq := by
  unfold UnpackedFloat.le
  cases a.compare b with
  | none => simp
  | some o => cases o <;> simp

/-- The rank of a binary32 number; what is not a number has none. -/
def rank (x : Float32) : Option (ℤ ×ₗ ℤ ×ₗ ℤ) := rank? x.toModel.unpack

variable {x y : Float32}

theorem lt_iff_rank : x < y ↔ ∃ r s, rank x = some r ∧ rank y = some s ∧ r < s := by
  have hmodel : x < y ↔ x.toModel.unpack.lt y.toModel.unpack = true := decide_eq_true_iff
  rw [hmodel, UnpackedFloat.lt, beq_iff_eq, compare_eq_lt_iff]
  rfl

theorem le_iff_rank :
    Scalar.le x y = true ↔ ∃ r s, rank x = some r ∧ rank y = some s ∧ r ≤ s := by
  have hmodel : x ≤ y ↔ x.toModel.unpack.le y.toModel.unpack = true := decide_eq_true_iff
  rw [show Scalar.le x y = true ↔ x ≤ y from decide_eq_true_iff, hmodel, le_eq_true_iff,
    compare_eq_lt_iff, compare_eq_eq_iff]
  constructor
  · rintro (⟨r, s, hr, hs, hlt⟩ | ⟨r, hs, hr⟩)
    · exact ⟨r, s, hr, hs, hlt.le⟩
    · exact ⟨r, r, hr, hs, le_refl r⟩
  · rintro ⟨r, s, hr, hs, hle⟩
    rcases hle.lt_or_eq with hlt | rfl
    · exact Or.inl ⟨r, s, hr, hs, hlt⟩
    · exact Or.inr ⟨r, hs, hr⟩

theorem isNaN_iff_rank : x.isNaN = true ↔ rank x = none := by
  change x.toModel.unpack.isNaN = true ↔ rank? x.toModel.unpack = none
  cases x.toModel.unpack with
  | notANumber => exact iff_of_true rfl rfl
  | infinity sign => cases sign <;> exact iff_of_false Bool.false_ne_true (Option.some_ne_none _)
  | finite sign => cases sign <;> exact iff_of_false Bool.false_ne_true (Option.some_ne_none _)
  | zero => exact iff_of_false Bool.false_ne_true (Option.some_ne_none _)

theorem isNumber_iff_rank : Scalar.IsNumber x ↔ ∃ r, rank x = some r := by
  rw [Scalar.IsNumber, le_iff_rank]
  constructor
  · rintro ⟨r, _, hr, _⟩
    exact ⟨r, hr⟩
  · rintro ⟨r, hr⟩
    exact ⟨r, r, hr, hr, le_refl r⟩

theorem isNumber_iff_isNaN : Scalar.IsNumber x ↔ x.isNaN = false := by
  rw [isNumber_iff_rank, ← Bool.not_eq_true, isNaN_iff_rank, ← Option.ne_none_iff_exists']

theorem not_lt_of_not_isNumber (h : ¬Scalar.IsNumber x ∨ ¬Scalar.IsNumber y) : ¬x < y := by
  rw [lt_iff_rank]
  rintro ⟨r, s, hr, hs, _⟩
  rcases h with hx | hy
  · exact hx (isNumber_iff_rank.mpr ⟨r, hr⟩)
  · exact hy (isNumber_iff_rank.mpr ⟨s, hs⟩)

theorem lt_iff_not_le (hx : Scalar.IsNumber x) (hy : Scalar.IsNumber y) :
    x < y ↔ ¬Scalar.le y x = true := by
  obtain ⟨r, hr⟩ := isNumber_iff_rank.mp hx
  obtain ⟨s, hs⟩ := isNumber_iff_rank.mp hy
  have hlt : x < y ↔ r < s := by simp [lt_iff_rank, hr, hs]
  have hle : Scalar.le y x = true ↔ s ≤ r := by simp [le_iff_rank, hr, hs]
  rw [hlt, hle, not_le]

/-- What is picked by a strict comparison that only numbers pass. -/
theorem pick_eq_of_lt {lt le : Prop} [Decidable lt] [Decidable le]
    (hnumbers : Scalar.IsNumber x → Scalar.IsNumber y → (lt ↔ ¬le))
    (hother : ¬Scalar.IsNumber y → ¬lt) :
    (if x.isNaN then y else if lt then y else x) =
      if Scalar.IsNumber x ∧ (le ∨ ¬Scalar.IsNumber y) then x else y := by
  by_cases hx : Scalar.IsNumber x
  · rw [if_neg (Bool.eq_false_iff.mp (isNumber_iff_isNaN.mp hx))]
    by_cases hlt : lt
    · have hy : Scalar.IsNumber y := by
        by_contra hy
        exact hother hy hlt
      rw [if_pos hlt, if_neg]
      rintro ⟨_, hle | hy'⟩
      · exact (hnumbers hx hy).mp hlt hle
      · exact hy' hy
    · rw [if_neg hlt, if_pos]
      refine ⟨hx, ?_⟩
      by_cases hy : Scalar.IsNumber y
      · exact Or.inl (not_not.mp ((hnumbers hx hy).not.mp hlt))
      · exact Or.inr hy
  · have hnan : x.isNaN = true := Bool.not_eq_false _ ▸ isNumber_iff_isNaN.not.mp hx
    rw [if_pos hnan, if_neg]
    rintro ⟨hx', _⟩
    exact hx hx'

instance : Scalar.LawfulOrder Float32 where
  number_of_le x y h := by
    obtain ⟨r, s, hr, hs, _⟩ := le_iff_rank.mp h
    exact ⟨isNumber_iff_rank.mpr ⟨r, hr⟩, isNumber_iff_rank.mpr ⟨s, hs⟩⟩
  le_total x y hx hy := by
    obtain ⟨r, hr⟩ := isNumber_iff_rank.mp hx
    obtain ⟨s, hs⟩ := isNumber_iff_rank.mp hy
    simpa [le_iff_rank, hr, hs] using le_total r s
  le_trans x y z hxy hyz := by
    obtain ⟨r, s, hr, hs, hrs⟩ := le_iff_rank.mp hxy
    obtain ⟨s', t, hs', ht, hst⟩ := le_iff_rank.mp hyz
    rw [hs, Option.some.injEq] at hs'
    subst s'
    exact le_iff_rank.mpr ⟨r, t, hr, ht, hrs.trans hst⟩
  lesser_eq x y :=
    pick_eq_of_lt (fun hx hy => lt_iff_not_le hy hx) fun hy => not_lt_of_not_isNumber (Or.inl hy)
  greater_eq x y :=
    pick_eq_of_lt lt_iff_not_le fun hy => not_lt_of_not_isNumber (Or.inr hy)

end Binary32

end PlantGrowth
