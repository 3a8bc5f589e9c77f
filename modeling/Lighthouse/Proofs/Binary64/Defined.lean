import Lighthouse.Proofs.Binary64.Growth
import Lighthouse.Proofs.Binary64.Rounding
/-!
# Equal floats and results that are numbers

`==` on floats compares the operands as numbers: a NaN equals nothing, the two zeros are equal,
and otherwise two floats are equal exactly when their ranks are (`float_beq_iff`). So `==` is
symmetric and transitive, and reflexive away from the NaNs.

No rounding of a ratio gives a NaN (`ofRatio_isNaN`), and a number times a finite nonzero float
is a number (`mul_isNaN_of_finite`).

Every value but the NaN keeps its sign through packing and unpacking (`signOf_unpack_pack`), and
a rounded root has the positive sign, so no square root is below zero (`sqrt_not_lt_zero`).
-/
namespace Lighthouse.Binary64

open Float.Model UnpackedFloat

/-! ### Equality -/

@[simp] theorem compare_negative_negative : compare Sign.negative Sign.negative = .eq := rfl

@[simp] theorem compare_positive_positive : compare Sign.positive Sign.positive = .eq := rfl

theorem unpacked_beq_iff (a b : UnpackedFloat) :
    a.beq b = true ↔ a ≠ .notANumber ∧ b ≠ .notANumber ∧ rank a = rank b := by
  rcases a with ⟨_ | _⟩ | _ | ⟨_ | _⟩ | ⟨_ | _, m₁, e₁, h₁⟩ <;>
    rcases b with ⟨_ | _⟩ | _ | ⟨_ | _⟩ | ⟨_ | _, m₂, e₂, h₂⟩ <;>
    simp [UnpackedFloat.beq, UnpackedFloat.compare, rank, Ordering.then_eq_eq, Ordering.swap_eq_eq]

theorem float_beq_iff (a b : Float) :
    (a == b) = true ↔ a.toModel.unpack ≠ .notANumber ∧ b.toModel.unpack ≠ .notANumber ∧
      rank a.toModel.unpack = rank b.toModel.unpack :=
  unpacked_beq_iff _ _

theorem float_beq_comm (a b : Float) : (a == b) = (b == a) := by
  apply Bool.eq_iff_iff.mpr
  rw [float_beq_iff, float_beq_iff]
  exact ⟨fun ⟨ha, hb, h⟩ => ⟨hb, ha, h.symm⟩, fun ⟨hb, ha, h⟩ => ⟨ha, hb, h.symm⟩⟩

theorem float_beq_trans {a b c : Float} (hab : (a == b) = true) (hbc : (b == c) = true) :
    (a == c) = true := by
  obtain ⟨ha, -, hab⟩ := (float_beq_iff a b).mp hab
  obtain ⟨-, hc, hbc⟩ := (float_beq_iff b c).mp hbc
  exact (float_beq_iff a c).mpr ⟨ha, hc, hab.trans hbc⟩

theorem float_beq_self {a : Float} (h : a.isNaN = false) : (a == a) = true :=
  have hn := unpack_ne_of_isNaN_eq_false h
  (float_beq_iff a a).mpr ⟨hn, hn, rfl⟩

theorem float_eq_of_toBits {a b : Float} (h : a.toModel.toBits = b.toModel.toBits) : a = b := by
  obtain ⟨⟨x, hx⟩⟩ := a
  obtain ⟨⟨y, hy⟩⟩ := b
  cases h
  rfl

theorem beq_zero_of_pos {a : Float} (h : 0 < a) : (a == 0.0) = false := by
  rw [Bool.eq_false_iff]
  intro hbeq
  obtain ⟨-, -, hr⟩ := (float_beq_iff a 0.0).mp hbeq
  obtain ⟨-, -, hlt⟩ := (float_lt_iff 0 a).mp h
  rw [hr] at hlt
  exact rankLt_irrefl _ hlt

theorem float_not_le_of_lt {a b : Float} (h : a < b) : ¬b ≤ a := fun hle => by
  obtain ⟨-, -, hab⟩ := (float_lt_iff a b).mp h
  obtain ⟨-, -, hba⟩ := (float_le_iff b a).mp hle
  exact rankLt_irrefl _ (rankLt_of_rankLt_of_le hab hba)

theorem float_lt_of_le_of_lt {a b c : Float} (hab : a ≤ b) (hbc : b < c) : a < c := by
  obtain ⟨ha, -, hab⟩ := (float_le_iff a b).mp hab
  obtain ⟨-, hc, hbc⟩ := (float_lt_iff b c).mp hbc
  refine (float_lt_iff a c).mpr ⟨ha, hc, ?_⟩
  rcases hab with hab | hab
  · exact rankLt_trans hab hbc
  · rwa [hab]

/-! ### Results that are numbers -/

theorem isNaN_eq_false_of_bits (x : Float) (h : ¬Interchange.binary64.IsNaN x.toBits.toNat) :
    x.isNaN = false := by
  rw [Bool.eq_false_iff, ne_eq, float_isNaN_iff]
  change UnpackedFloat.unpack Format.binary64 x.toBits.toBitVec ≠ _
  by_cases he : @unpackExponent Format.binary64 x.toBits.toBitVec = -1#11
  · -- the exponent field of all ones holds the infinities, with no fraction, and the NaNs
    have hf : x.toBits.toBitVec.toNat / 2 ^ 52 % 2 ^ 11 = 2047 := by
      rw [← unpackExponent_toNat, he]
      rfl
    have hm : x.toBits.toBitVec.toNat % 2 ^ 52 = 0 := by
      by_contra hm
      exact h ⟨hf, hm⟩
    unfold UnpackedFloat.unpack
    dsimp only
    rw [if_pos he, if_pos (BitVec.eq_of_toNat_eq (by rw [unpackMantissa_toNat]; exact hm))]
    simp
  · exact unpack_ne_notANumber_of_exponent he

theorem bitsOfRatio_bounds (num den : Nat) :
    bitsOfRatio num den < 2 ^ 63 ∧ ¬Interchange.binary64.IsNaN (bitsOfRatio num den) := by
  rcases Nat.eq_zero_or_pos num with rfl | hn
  · rw [bitsOfRatio, if_pos (.inl rfl)]
    decide
  rcases Nat.eq_zero_or_pos den with rfl | hd
  · rw [bitsOfRatio, if_pos (.inr rfl)]
    decide
  have hr := bitsOfRatio_rounding hn hd
  by_cases hov : (num / den : ℚ) < Interchange.binary64.overflowBound
  · obtain ⟨hlt, hnear⟩ := hr.nearest hov
    exact ⟨hlt, hnear.finite.not_isNaN⟩
  · rw [hr.eq_infinity (not_lt.mp hov)]
    exact ⟨by decide, Interchange.isInf_infinity.not_isNaN⟩

/-- No rounding of a ratio gives a NaN. -/
theorem ofRatio_isNaN (neg : Bool) (num den : Nat) : (ofRatio neg num den).isNaN = false := by
  obtain ⟨hlt, hnan⟩ := bitsOfRatio_bounds num den
  apply isNaN_eq_false_of_bits
  rw [ofRatio_toBits neg hlt hnan]
  split
  · exact Interchange.isNaN_negate.not.mpr hnan
  · exact hnan

theorem ofInt_isNaN (n : Int) : (ofInt n).isNaN = false := ofRatio_isNaN _ _ _

theorem isFinite_eq_true_of_bits (x : Float) (h : Interchange.binary64.IsFinite x.toBits.toNat) :
    x.isFinite = true := by
  have he : @unpackExponent Format.binary64 x.toBits.toBitVec ≠ -1#11 := by
    intro he
    apply h
    change x.toBits.toBitVec.toNat / 2 ^ 52 % 2 ^ 11 = 2047
    rw [← unpackExponent_toNat, he]
    rfl
  change (UnpackedFloat.unpack Format.binary64 x.toBits.toBitVec).isFinite = true
  unfold UnpackedFloat.unpack
  dsimp only
  rw [if_neg he]
  split
  · split <;> rfl
  · rfl

theorem ofRatio_isFinite (neg : Bool) {num den : Nat} (h : overflows num den = false) :
    (ofRatio neg num den).isFinite = true := by
  obtain ⟨hlt, hnan⟩ := bitsOfRatio_bounds num den
  -- below the sign bit, the one infinite pattern is the positive infinity, which overflows
  have hfin : Interchange.binary64.IsFinite (bitsOfRatio num den) := by
    intro hf
    have hm : bitsOfRatio num den % 2 ^ 52 = 0 := by
      by_contra hm
      exact hnan ⟨hf, hm⟩
    have hf' : bitsOfRatio num den / 2 ^ 52 % 2 ^ 11 = 2047 := hf
    have hinf : bitsOfRatio num den = 0x7FF0000000000000 := by omega
    simp [overflows, hinf] at h
  apply isFinite_eq_true_of_bits
  rw [ofRatio_toBits neg hlt hnan]
  split
  · exact Interchange.isFinite_negate.mpr hfin
  · exact hfin

/-- A number times a finite nonzero float is a number: only a NaN operand, or zero times an
infinity, gives a NaN. -/
theorem mul_isNaN_of_finite {a b : Float} (ha : a.isNaN = false) {s : Sign} {m : Nat} {e : Int}
    {h : 0 < m} (hb : b.toModel.unpack = .finite s m e h) : (a * b).isNaN = false := by
  rw [Bool.eq_false_iff, ne_eq, float_isNaN_iff]
  change ¬(pack (UnpackedFloat.mul _ a.toModel.unpack b.toModel.unpack)).unpack = _
  apply unpack_pack_ne_notANumber
  rw [hb]
  have ha' := unpack_ne_of_isNaN_eq_false ha
  cases hu : a.toModel.unpack with
  | notANumber => exact absurd hu ha'
  | infinity s' => simp [UnpackedFloat.mul]
  | zero s' => simp [UnpackedFloat.mul]
  | finite s' m' e' h' => exact roundWithAccuracy_ne_notANumber _ _ _ _ _

/-! ### Signs -/

/-- The sign of an unpacked float; the NaN has none. -/
def signOf : UnpackedFloat → Option Sign
  | .notANumber => none
  | .infinity s => some s
  | .zero s => some s
  | .finite s .. => some s

theorem signOf_unpack (bv : BitVec 64) :
    UnpackedFloat.unpack Format.binary64 bv = .notANumber ∨
      signOf (UnpackedFloat.unpack Format.binary64 bv) =
        some (Sign.ofBitVec (@unpackSign Format.binary64 bv)) := by
  unfold UnpackedFloat.unpack
  dsimp only
  split
  · split <;> simp [signOf]
  · split
    · split <;> simp [signOf]
    · simp [signOf]

theorem pack_eq_packComponents {u : UnpackedFloat} {s : Sign} (hu : signOf u = some s) :
    ∃ E M, UnpackedFloat.pack Format.binary64 u = packComponents Format.binary64 s E M := by
  cases u with
  | notANumber => cases hu
  | infinity s' => cases hu; exact ⟨_, _, rfl⟩
  | zero s' => cases hu; exact ⟨_, _, rfl⟩
  | finite s' m e h =>
    cases hu
    rw [pack_finite]
    split_ifs
    · exact ⟨_, _, rfl⟩
    · exact ⟨_, _, rfl⟩
    · exact ⟨_, _, rfl⟩

/-- A value that is no NaN keeps its sign through packing and unpacking. -/
theorem signOf_unpack_pack {u : UnpackedFloat} {s : Sign} (hu : signOf u = some s) :
    signOf (pack u).unpack = some s := by
  obtain ⟨E, M, hp⟩ := pack_eq_packComponents hu
  have hne : (pack u).unpack ≠ .notANumber := unpack_pack_ne_notANumber (by rintro rfl; cases hu)
  change signOf (UnpackedFloat.unpack Format.binary64 (UnpackedFloat.pack Format.binary64 u)) = _
  change UnpackedFloat.unpack Format.binary64 (UnpackedFloat.pack Format.binary64 u) ≠ _ at hne
  rw [hp] at hne ⊢
  rcases signOf_unpack (packComponents Format.binary64 s E M) with h | h
  · exact absurd h hne
  · rw [h, sign_packComponents]

theorem signOf_roundWithAccuracy (s : Sign) (M : Nat) (E : Int) (acc : Accuracy) :
    signOf (roundWithAccuracy Format.binary64 s M E acc) = some s := by
  unfold roundWithAccuracy
  split
  dsimp only
  split <;> rfl

theorem unpack_pack_zero (s : Sign) : (pack (.zero s)).unpack = .zero s := by
  change UnpackedFloat.unpack Format.binary64 (packComponents Format.binary64 s 0 0) = _
  unfold UnpackedFloat.unpack
  simp only [unpackExponent_packComponents, unpackMantissa_packComponents, sign_packComponents]
  rfl

theorem not_rankLt_zero {u : UnpackedFloat} (hu : signOf u = some .positive) :
    ¬RankLt (rank u) (rank (.zero .positive)) := by
  cases u <;> simp_all [signOf, rank, RankLt]

theorem sqrt_cases (u : UnpackedFloat) :
    UnpackedFloat.sqrt Format.binary64 u = .notANumber ∨
      (∃ s, UnpackedFloat.sqrt Format.binary64 u = .zero s) ∨
      signOf (UnpackedFloat.sqrt Format.binary64 u) = some .positive := by
  cases u with
  | notANumber => exact .inl rfl
  | infinity s => cases s <;> simp [UnpackedFloat.sqrt, signOf]
  | zero s => exact .inr (.inl ⟨s, rfl⟩)
  | finite s m e h =>
    cases s
    · exact .inl rfl
    refine .inr (.inr ?_)
    simp only [UnpackedFloat.sqrt]
    obtain ⟨m', e', acc⟩ := sqrtCore Format.binary64 m e
    exact signOf_roundWithAccuracy _ _ _ _

/-- No square root is below zero. -/
theorem sqrt_not_lt_zero (x : Float) : ¬x.sqrt < 0 := by
  intro hlt
  obtain ⟨hs, -, hr⟩ := (float_lt_iff _ _).mp hlt
  change (pack (UnpackedFloat.sqrt Format.binary64 x.toModel.unpack)).unpack ≠ _ at hs
  change RankLt (rank (pack (UnpackedFloat.sqrt Format.binary64 x.toModel.unpack)).unpack)
    (rank (.zero .positive)) at hr
  rcases sqrt_cases x.toModel.unpack with h | ⟨s, h⟩ | h
  · rw [h] at hs
    exact hs rfl
  · rw [h, unpack_pack_zero] at hr
    exact rankLt_irrefl _ hr
  · exact not_rankLt_zero (signOf_unpack_pack h) hr

end Lighthouse.Binary64
