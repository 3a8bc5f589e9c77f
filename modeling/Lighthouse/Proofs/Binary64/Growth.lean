import Lighthouse.Proofs.Binary64.Interchange
import Lighthouse.Proofs.Binary64.Order
import Mathlib
/-!
# Rounded results and growth by ten

A finite unpacked float is *placed* when its significand and exponent are those `unpack` gives:
at most 53 bits, all 53 of them unless the exponent is the least one (`placed_of_unpack`).
Rounding a positive significand that is not yet below its target exponent gives a placed finite
value whose leading bit is no lower than the one it started from (`roundWithAccuracy_placed`):
the first shift keeps the leading bit, rounding up adds at most one bit, and the second shift
only takes back that bit. Packing a placed value and unpacking it again gives it back, or the
infinity of its sign once the exponent passes the largest one (`unpack_pack_placed`,
`unpack_pack_overflow`).

The multiplier `10 = 5 · 2⁵⁰ · 2⁻⁴⁹` has a 53-bit significand of which the leading three bits
carry the value: multiplying a positive float by ten raises the place of its leading bit
(`totalExponent`) by three at least, or overflows to infinity (`unpack_mul_ten`).
-/
namespace Lighthouse.Binary64

open Float.Model UnpackedFloat

/-- A significand and exponent as `unpack` gives them for a finite binary64 value. -/
structure Placed (m : Nat) (e : Int) : Prop where
  lt : m < 2 ^ 53
  ge : -1074 ≤ e
  full : 2 ^ 52 ≤ m ∨ e = -1074

section Rounding

theorem mantissa_shiftRight (em : ExtendedMantissa) (n : Nat) :
    (em >>> n).mantissa = em.mantissa / 2 ^ n := by
  show (Nat.repeat ExtendedMantissa.shiftRightOne n em).mantissa = _
  induction n with
  | zero => simp [Nat.repeat]
  | succ n ih =>
    simp only [Nat.repeat, ExtendedMantissa.shiftRightOne, ih, Nat.div_div_eq_div_mul,
      Nat.pow_succ]

theorem mantissa_ofMantissaAndAccuracy (m : Nat) (acc : Accuracy) :
    (ExtendedMantissa.ofMantissaAndAccuracy m acc).mantissa = m := by
  cases acc with
  | exact => rfl
  | inexact o => cases o <;> rfl

theorem roundedMantissa_bounds (em : ExtendedMantissa) :
    em.mantissa ≤ em.roundedMantissa ∧ em.roundedMantissa ≤ em.mantissa + 1 := by
  obtain ⟨m, r, s⟩ := em
  cases r <;> cases s <;>
    simp only [ExtendedMantissa.roundedMantissa, ExtendedMantissa.accuracy,
      Accuracy.roundToNearestEven] <;> omega

theorem div_pow_ne_zero {M s : Nat} (hM : M ≠ 0) (hs : s ≤ M.log2) : M / 2 ^ s ≠ 0 :=
  Nat.pos_iff_ne_zero.mp
    (Nat.div_pos ((Nat.pow_le_pow_right (by omega) hs).trans (Nat.log2_self_le hM))
      (Nat.two_pow_pos s))

theorem log2_div_pow (M s : Nat) : (M / 2 ^ s).log2 = M.log2 - s := by
  simp only [Nat.log2_eq_log_two, Nat.log_div_base_pow]

theorem log2_le_log2 {a b : Nat} (h : a ≤ b) : a.log2 ≤ b.log2 := by
  simp only [Nat.log2_eq_log_two]
  exact Nat.log_mono_right h

theorem log2_succ_le (a : Nat) : (a + 1).log2 ≤ a.log2 + 1 := by
  have h := Nat.lt_log2_self (n := a)
  have hp : 2 ^ (a.log2 + 1) < 2 ^ (a.log2 + 2) := Nat.pow_lt_pow_right (by omega) (by omega)
  exact Nat.lt_succ_iff.mp ((Nat.log2_lt (by omega)).mpr (by omega))

/-- A positive significand whose exponent is not above its target and whose leading bit sits at
`-1073` or higher rounds to a placed finite value, with its leading bit no lower. -/
theorem roundWithAccuracy_placed {s : Sign} {M : Nat} {E : Int} (acc : Accuracy) (hM : M ≠ 0)
    (hT : -1073 ≤ totalExponent M E)
    (hE : E ≤ Format.binary64.targetExponent (totalExponent M E)) :
    ∃ m e h, roundWithAccuracy .binary64 s M E acc = .finite s m e h ∧ Placed m e ∧
      totalExponent M E ≤ totalExponent m e := by
  obtain ⟨t₁, ht₁⟩ : ∃ t, Format.binary64.targetExponent (totalExponent M E) = t := ⟨_, rfl⟩
  obtain ⟨R, hR⟩ : ∃ R,
      (ExtendedMantissa.ofMantissaAndAccuracy M acc >>> (t₁ - E).toNat).roundedMantissa = R :=
    ⟨_, rfl⟩
  obtain ⟨hR₁, hR₂⟩ :=
    roundedMantissa_bounds (ExtendedMantissa.ofMantissaAndAccuracy M acc >>> (t₁ - E).toNat)
  rw [mantissa_shiftRight, mantissa_ofMantissaAndAccuracy, hR] at hR₁ hR₂
  obtain ⟨t₂, ht₂⟩ : ∃ t,
      Format.binary64.targetExponent (totalExponent R (E + (t₁ - E).toNat)) = t := ⟨_, rfl⟩
  simp only [roundWithAccuracy, shiftToTargetExponent, shiftToExponent, mantissa_shiftRight,
    mantissa_ofMantissaAndAccuracy, ht₁, hR, ht₂]
  rw [ht₁] at hE
  simp only [Format.targetExponent, totalExponent, show Format.binary64.mantissaBits = 53 from rfl,
    show Format.binary64.minExponent = -1074 from rfl] at ht₁ ht₂ hT ⊢
  -- the first shift drops fewer bits than the significand has, so its leading bit survives
  have hs₁ : (t₁ - E).toNat ≤ M.log2 := by omega
  have hM₁ := div_pow_ne_zero hM hs₁
  have hlog₁ := log2_div_pow M (t₁ - E).toNat
  have hR0 : R ≠ 0 := fun h => hM₁ (Nat.le_zero.mp (h ▸ hR₁))
  -- rounding up moves the leading bit by one place at most
  have hRlo := log2_le_log2 hR₁
  have hRhi := (log2_le_log2 hR₂).trans (log2_succ_le _)
  have hs₂ : (t₂ - (E + (t₁ - E).toNat)).toNat ≤ R.log2 := by omega
  have hF := div_pow_ne_zero hR0 hs₂
  have hlogF := log2_div_pow R (t₂ - (E + (t₁ - E).toNat)).toNat
  refine ⟨_, _, Nat.pos_of_ne_zero hF, dif_neg hF, ⟨?_, ?_, ?_⟩, ?_⟩
  · exact (Nat.log2_lt hF).mp (by omega)
  · omega
  · by_cases h : 52 ≤ (R / 2 ^ (t₂ - (E + (t₁ - E).toNat)).toNat).log2
    · exact .inl ((Nat.le_log2 hF).mp h)
    · right
      omega
  · omega

theorem roundWithAccuracy_ne_notANumber (spec : Format) (s : Sign) (M : Nat) (E : Int)
    (acc : Accuracy) : roundWithAccuracy spec s M E acc ≠ .notANumber := by
  unfold roundWithAccuracy
  split
  dsimp only
  split <;> simp

end Rounding

section Packing

theorem sign_packComponents (s : Sign) (e : BitVec 11) (m : BitVec 52) :
    Sign.ofBitVec (@unpackSign Format.binary64 (packComponents Format.binary64 s e m)) = s := by
  have key : (Sign.ofBitVec (@unpackSign Format.binary64
      (packComponents Format.binary64 s e m))).toBitVec.toNat = s.toBitVec.toNat := by
    rw [unpackSign_sign, packComponents_toNat]
    have := s.toBitVec.isLt
    have := e.isLt
    have := m.isLt
    omega
  revert key
  cases Sign.ofBitVec (@unpackSign Format.binary64 (packComponents Format.binary64 s e m)) <;>
    cases s <;> simp [Sign.toBitVec]

theorem unpack_packedInfinity (s : Sign) :
    UnpackedFloat.unpack Format.binary64 (packedInfinity Format.binary64 s) = .infinity s := by
  unfold UnpackedFloat.unpack packedInfinity
  simp only [unpackExponent_packComponents, unpackMantissa_packComponents, sign_packComponents]
  rw [if_pos trivial]
  exact if_pos rfl

/-- A placed value within the exponent range comes back from packing unchanged. -/
theorem unpack_pack_placed {s : Sign} {m : Nat} {e : Int} (h : 0 < m) (hp : Placed m e)
    (he : e ≤ 971) : (pack (.finite s m e h)).unpack = .finite s m e h := by
  change UnpackedFloat.unpack Format.binary64 (UnpackedFloat.pack Format.binary64 _) = _
  obtain ⟨hlt, hge, hfull⟩ := hp
  have hbias : Format.binary64.exponentBias = 1023 := rfl
  rw [pack_finite, if_neg (by omega)]
  by_cases hn : 2 ^ 52 ≤ m
  · -- a normal value: the exponent field is `e + 1075`, the leading bit implicit
    have hlog : m.log2 = 52 := (Nat.log2_eq_iff (by omega)).mpr ⟨hn, hlt⟩
    rw [if_pos (by rw [hlog])]
    unfold UnpackedFloat.unpack
    simp only [unpackExponent_packComponents, unpackMantissa_packComponents, sign_packComponents]
    have hE : (BitVec.ofNat 11 (e + 1023 + 52).toNat).toNat = (e + 1075).toNat := by
      simp only [BitVec.toNat_ofNat]
      omega
    have hE1 : BitVec.ofNat 11 (e + 1023 + 52).toNat ≠ -1#11 := fun h1 => by
      have := congrArg BitVec.toNat h1
      rw [hE] at this
      simp only [BitVec.toNat_neg, BitVec.toNat_ofNat] at this
      omega
    have hE0 : BitVec.ofNat 11 (e + 1023 + 52).toNat ≠ 0#11 := fun h0 => by
      have := congrArg BitVec.toNat h0
      rw [hE] at this
      simp only [BitVec.toNat_ofNat] at this
      omega
    have hm : (1#1 ++ BitVec.ofNat 52 m).toNat = m := by
      rw [BitVec.toNat_append, ← Nat.shiftLeft_add_eq_or_of_lt (BitVec.ofNat 52 m).isLt]
      simp only [BitVec.toNat_ofNat, Nat.shiftLeft_eq]
      omega
    rw [if_neg hE1, if_neg hE0]
    simp only [UnpackedFloat.finite.injEq, hm, hE, hbias, true_and]
    omega
  · -- a subnormal value: the exponent field is zero
    have he' : e = -1074 := hfull.resolve_left hn
    have hlog : m.log2 < 52 := (Nat.log2_lt (by omega)).mpr (by omega)
    rw [if_neg (by omega)]
    unfold UnpackedFloat.unpack
    simp only [unpackExponent_packComponents, unpackMantissa_packComponents, sign_packComponents]
    have hM : (BitVec.ofNat 52 m).toNat = m := by
      simp only [BitVec.toNat_ofNat]
      omega
    have hM0 : BitVec.ofNat 52 m ≠ 0#52 := fun h0 => by
      have := congrArg BitVec.toNat h0
      rw [hM] at this
      simp only [BitVec.toNat_ofNat] at this
      omega
    rw [if_neg (by decide), if_pos trivial, dif_neg hM0]
    simp only [UnpackedFloat.finite.injEq, hM, hbias, true_and]
    simp only [BitVec.toNat_ofNat]
    omega

/-- A value whose exponent is past the largest one packs to the infinity of its sign. -/
theorem unpack_pack_overflow {s : Sign} {m : Nat} {e : Int} (h : 0 < m) (he : 971 < e) :
    (pack (.finite s m e h)).unpack = .infinity s := by
  change UnpackedFloat.unpack Format.binary64 (UnpackedFloat.pack Format.binary64 _) = _
  rw [pack_finite, if_pos (by omega)]
  exact unpack_packedInfinity s

theorem unpack_ne_notANumber_of_exponent {bv : BitVec 64}
    (h : @unpackExponent Format.binary64 bv ≠ -1#11) :
    UnpackedFloat.unpack Format.binary64 bv ≠ .notANumber := by
  unfold UnpackedFloat.unpack
  dsimp only
  rw [if_neg h]
  split
  · split <;> simp
  · simp

theorem unpack_pack_ne_notANumber {u : UnpackedFloat} (hu : u ≠ .notANumber) :
    (pack u).unpack ≠ .notANumber := by
  change UnpackedFloat.unpack Format.binary64 (UnpackedFloat.pack Format.binary64 u) ≠ _
  cases u with
  | notANumber => exact absurd rfl hu
  | infinity s =>
    rw [pack_infinity, unpack_packedInfinity]
    simp
  | zero s =>
    apply unpack_ne_notANumber_of_exponent
    rw [pack_zero, packedZero, unpackExponent_packComponents]
    decide
  | finite s m e h =>
    rw [pack_finite]
    split_ifs with hinf
    · rw [unpack_packedInfinity]
      simp
    · -- the exponent field of a normal value is below all ones
      apply unpack_ne_notANumber_of_exponent
      rw [unpackExponent_packComponents]
      intro h1
      have := congrArg BitVec.toNat h1
      simp only [BitVec.toNat_ofNat, BitVec.toNat_neg] at this
      omega
    · apply unpack_ne_notANumber_of_exponent
      rw [unpackExponent_packComponents]
      decide

/-- Every finite value `unpack` gives is placed, with its exponent at most `971`. -/
theorem placed_of_unpack {bv : BitVec 64} {s : Sign} {m : Nat} {e : Int} {h : 0 < m}
    (hu : UnpackedFloat.unpack Format.binary64 bv = .finite s m e h) : Placed m e ∧ e ≤ 971 := by
  have hE : (@unpackExponent Format.binary64 bv).toNat < 2 ^ 11 := BitVec.isLt _
  have hM : (@unpackMantissa Format.binary64 bv).toNat < 2 ^ 52 := BitVec.isLt _
  have hbias : Format.binary64.exponentBias = 1023 := rfl
  unfold UnpackedFloat.unpack at hu
  dsimp only at hu
  split at hu
  · split at hu <;> cases hu
  split at hu
  · -- a subnormal pattern: exponent `-1074`, no implicit bit
    rename_i h0
    split at hu
    · cases hu
    simp only [UnpackedFloat.finite.injEq, h0, hbias] at hu
    obtain ⟨-, rfl, rfl⟩ := hu
    exact ⟨⟨by omega, by simp, by simp⟩, by simp⟩
  · -- a normal pattern: the field is neither zero nor all ones
    rename_i h1 h0
    have hE1 : (@unpackExponent Format.binary64 bv).toNat ≠ 2047 :=
      fun h => h1 (BitVec.eq_of_toNat_eq (by simpa using h))
    have hE0 : (@unpackExponent Format.binary64 bv).toNat ≠ 0 :=
      fun h => h0 (BitVec.eq_of_toNat_eq (by simpa using h))
    have hm : (1#1 ++ @unpackMantissa Format.binary64 bv).toNat =
        2 ^ 52 + (@unpackMantissa Format.binary64 bv).toNat := by
      rw [BitVec.toNat_append, ← Nat.shiftLeft_add_eq_or_of_lt hM]
      simp [Nat.shiftLeft_eq]
    simp only [UnpackedFloat.finite.injEq, hm, hbias] at hu
    obtain ⟨-, rfl, rfl⟩ := hu
    exact ⟨⟨by omega, by omega, .inl (by omega)⟩, by omega⟩

end Packing

section Ten

theorem unpack_ten :
    (10.0 : Float).toModel.unpack = .finite .positive (5 * 2 ^ 50) (-49) (by decide) :=
  rfl

theorem log2_mul_ten_le {m : Nat} (hm : m ≠ 0) : m.log2 + 52 ≤ (m * (5 * 2 ^ 50)).log2 := by
  have h := Nat.log2_self_le hm
  refine (Nat.le_log2 (by positivity)).mpr ?_
  calc 2 ^ (m.log2 + 52) = 2 ^ m.log2 * (4 * 2 ^ 50) := by rw [Nat.pow_add]; norm_num
    _ ≤ m * (5 * 2 ^ 50) := Nat.mul_le_mul h (by norm_num)

/-- Ten times a positive finite float is the positive infinity, or a positive finite float whose
leading bit is three places higher at least. -/
theorem unpack_mul_ten {d : Float} {m : Nat} {e : Int} {h : 0 < m}
    (hd : d.toModel.unpack = .finite .positive m e h) :
    (d * 10.0).toModel.unpack = .infinity .positive ∨
      ∃ m' e' h', (d * 10.0).toModel.unpack = .finite .positive m' e' h' ∧
        totalExponent m e + 3 ≤ totalExponent m' e' := by
  have hp := (placed_of_unpack hd).1
  have hmul : (d * 10.0).toModel.unpack =
      (pack (roundWithAccuracy .binary64 .positive (m * (5 * 2 ^ 50)) (e + -49) .exact)).unpack := by
    change (pack (UnpackedFloat.mul _ d.toModel.unpack (10.0 : Float).toModel.unpack)).unpack = _
    rw [hd, unpack_ten]
    rfl
  -- the exact product carries the significand 52 places up and the exponent 49 down
  have hlog := log2_mul_ten_le (Nat.pos_iff_ne_zero.mp h)
  have hgrow : totalExponent m e + 3 ≤ totalExponent (m * (5 * 2 ^ 50)) (e + -49) := by
    simp only [totalExponent]
    omega
  obtain ⟨m', e', h', hr, hp', hT⟩ := roundWithAccuracy_placed (s := .positive) .exact
    (M := m * (5 * 2 ^ 50)) (E := e + -49) (by positivity)
    (by have := hp.ge; simp only [totalExponent] at hgrow ⊢; omega)
    (by simp only [Format.targetExponent, totalExponent,
      show Format.binary64.mantissaBits = 53 from rfl]; omega)
  rw [hmul, hr]
  by_cases he : e' ≤ 971
  · exact .inr ⟨m', e', h', unpack_pack_placed h' hp' he, hgrow.trans hT⟩
  · exact .inl (unpack_pack_overflow h' (by omega))

theorem float_pos_iff (d : Float) :
    0 < d ↔ (∃ m e h, d.toModel.unpack = .finite .positive m e h) ∨
      d.toModel.unpack = .infinity .positive := by
  rw [float_lt_iff, show (0 : Float).toModel.unpack = .zero .positive from rfl]
  rcases d.toModel.unpack with ⟨_ | _⟩ | _ | ⟨_ | _⟩ | ⟨_ | _, m, e, h⟩ <;>
    simp [rank, RankLt]
  exact h

end Ten

end Lighthouse.Binary64
