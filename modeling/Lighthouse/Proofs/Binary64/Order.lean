import Lighthouse.Binary64
import Mathlib
/-!
# The order of floats

A comparison of floats unpacks both operands and compares them as IEEE 754 says: a NaN is
unordered with everything, the two zeros are equal, and otherwise the order is that of the
numbers. `UnpackedFloat.compare` does it by sign, then exponent, then significand, the last two
reversed below zero. `rank` places every unpacked value but the NaN on that scale, so that `<`
is the lexicographic order of ranks (`unpacked_lt_iff`) and `≤` that order or equal ranks
(`unpacked_le_iff`). Whatever the representation of the operands, `<` on floats is therefore a
strict order, and `≤` holds between a float that is no NaN and itself.
-/
namespace Lighthouse.Binary64

open Float.Model UnpackedFloat

/-- The place of an unpacked float on the extended real line: its class (negative infinity,
negative numbers, zero, positive numbers, positive infinity), then exponent and significand,
negated below zero. The NaN, which no comparison orders, is given the place of zero. -/
def rank : UnpackedFloat → Int × Int × Int
  | .infinity .negative => (0, 0, 0)
  | .finite .negative m e _ => (1, -e, -m)
  | .zero _ => (2, 0, 0)
  | .finite .positive m e _ => (3, e, m)
  | .infinity .positive => (4, 0, 0)
  | .notANumber => (2, 0, 0)

/-- The lexicographic order of ranks. -/
def RankLt (a b : Int × Int × Int) : Prop :=
  a.1 < b.1 ∨ a.1 = b.1 ∧ (a.2.1 < b.2.1 ∨ a.2.1 = b.2.1 ∧ a.2.2 < b.2.2)

@[simp] theorem compare_negative_positive : compare Sign.negative Sign.positive = .lt := rfl

@[simp] theorem compare_positive_negative : compare Sign.positive Sign.negative = .gt := rfl

theorem rankLt_irrefl (a : Int × Int × Int) : ¬RankLt a a := by
  unfold RankLt
  omega

theorem rankLt_trans {a b c : Int × Int × Int} (hab : RankLt a b) (hbc : RankLt b c) :
    RankLt a c := by
  unfold RankLt at *
  omega

/-- Strict comparison of unpacked floats is the order of their ranks, NaNs apart. -/
theorem unpacked_lt_iff (a b : UnpackedFloat) :
    a.lt b = true ↔ a ≠ .notANumber ∧ b ≠ .notANumber ∧ RankLt (rank a) (rank b) := by
  rcases a with ⟨_ | _⟩ | _ | ⟨_ | _⟩ | ⟨_ | _, m₁, e₁, h₁⟩ <;>
    rcases b with ⟨_ | _⟩ | _ | ⟨_ | _⟩ | ⟨_ | _, m₂, e₂, h₂⟩ <;>
    simp [UnpackedFloat.lt, UnpackedFloat.compare, rank, RankLt, Ordering.then_eq_lt,
      Ordering.then_eq_gt, Int.compare_eq_lt, Int.compare_eq_gt, Nat.compare_eq_lt,
      Nat.compare_eq_gt]

/-- Weak comparison of unpacked floats is the order of their ranks or their equality, NaNs
apart. -/
theorem unpacked_le_iff (a b : UnpackedFloat) :
    a.le b = true ↔ a ≠ .notANumber ∧ b ≠ .notANumber ∧
      (RankLt (rank a) (rank b) ∨ rank a = rank b) := by
  rcases a with ⟨_ | _⟩ | _ | ⟨_ | _⟩ | ⟨_ | _, m₁, e₁, h₁⟩ <;>
    rcases b with ⟨_ | _⟩ | _ | ⟨_ | _⟩ | ⟨_ | _, m₂, e₂, h₂⟩ <;>
    simp [UnpackedFloat.le, UnpackedFloat.compare, rank, RankLt, Ordering.isLE_iff_ne_gt,
      Ordering.isGE_iff_ne_lt, Ordering.then_eq_lt, Ordering.then_eq_gt, Int.compare_eq_lt,
      Int.compare_eq_gt, Nat.compare_eq_lt, Nat.compare_eq_gt] <;>
    omega

theorem float_lt_iff (a b : Float) :
    a < b ↔ a.toModel.unpack ≠ .notANumber ∧ b.toModel.unpack ≠ .notANumber ∧
      RankLt (rank a.toModel.unpack) (rank b.toModel.unpack) :=
  (decide_eq_true_iff).trans (unpacked_lt_iff _ _)

theorem float_le_iff (a b : Float) :
    a ≤ b ↔ a.toModel.unpack ≠ .notANumber ∧ b.toModel.unpack ≠ .notANumber ∧
      (RankLt (rank a.toModel.unpack) (rank b.toModel.unpack) ∨
        rank a.toModel.unpack = rank b.toModel.unpack) :=
  (decide_eq_true_iff).trans (unpacked_le_iff _ _)

theorem float_isNaN_iff (a : Float) : a.isNaN = true ↔ a.toModel.unpack = .notANumber := by
  change a.toModel.unpack.isNaN = true ↔ _
  cases a.toModel.unpack <;> simp [UnpackedFloat.isNaN]

theorem float_lt_irrefl (a : Float) : ¬a < a := fun h =>
  rankLt_irrefl _ ((float_lt_iff a a).mp h).2.2

theorem float_lt_trans {a b c : Float} (hab : a < b) (hbc : b < c) : a < c := by
  obtain ⟨ha, -, hab⟩ := (float_lt_iff a b).mp hab
  obtain ⟨-, hc, hbc⟩ := (float_lt_iff b c).mp hbc
  exact (float_lt_iff a c).mpr ⟨ha, hc, rankLt_trans hab hbc⟩

theorem float_le_of_lt {a b : Float} (h : a < b) : a ≤ b := by
  obtain ⟨ha, hb, hab⟩ := (float_lt_iff a b).mp h
  exact (float_le_iff a b).mpr ⟨ha, hb, .inl hab⟩

theorem unpack_ne_of_isNaN_eq_false {a : Float} (h : a.isNaN = false) :
    a.toModel.unpack ≠ .notANumber := fun hu => by
  rw [(float_isNaN_iff a).mpr hu] at h
  cases h

theorem float_le_refl {a : Float} (h : a.isNaN = false) : a ≤ a :=
  have hn := unpack_ne_of_isNaN_eq_false h
  (float_le_iff a a).mpr ⟨hn, hn, .inr rfl⟩

theorem rankLt_of_rankLt_of_le {a b c : Int × Int × Int} (hab : RankLt a b)
    (hbc : RankLt b c ∨ b = c) : RankLt a c := by
  rcases hbc with hbc | rfl
  · exact rankLt_trans hab hbc
  · exact hab

theorem float_lt_of_lt_of_le {a b c : Float} (hab : a < b) (hbc : b ≤ c) : a < c := by
  obtain ⟨ha, -, hab⟩ := (float_lt_iff a b).mp hab
  obtain ⟨-, hc, hbc⟩ := (float_le_iff b c).mp hbc
  exact (float_lt_iff a c).mpr ⟨ha, hc, rankLt_of_rankLt_of_le hab hbc⟩

theorem float_le_of_not_lt {a b : Float} (ha : a.isNaN = false) (hb : b.isNaN = false)
    (h : ¬b < a) : a ≤ b := by
  have ha' := unpack_ne_of_isNaN_eq_false ha
  have hb' := unpack_ne_of_isNaN_eq_false hb
  have hr : ¬RankLt (rank b.toModel.unpack) (rank a.toModel.unpack) :=
    fun hr => h ((float_lt_iff b a).mpr ⟨hb', ha', hr⟩)
  refine (float_le_iff a b).mpr ⟨ha', hb', ?_⟩
  -- ranks are triples of integers, ordered lexicographically: a total order
  generalize rank a.toModel.unpack = ra at hr ⊢
  generalize rank b.toModel.unpack = rb at hr ⊢
  obtain ⟨a₁, a₂, a₃⟩ := ra
  obtain ⟨b₁, b₂, b₃⟩ := rb
  unfold RankLt at hr ⊢
  simp only [Prod.mk.injEq] at hr ⊢
  omega

end Lighthouse.Binary64
