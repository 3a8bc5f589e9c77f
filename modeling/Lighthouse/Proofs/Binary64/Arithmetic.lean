import Lighthouse.Proofs.Binary64.Defined
import Mathlib
/-!
# Rounding error of the basic operations

A zero or finite unpacked float stands for a rational number (`rationalOf`). Rounding a
significand `M` at exponent `E` keeps `⌊M / 2^k⌋` or the next integer at the target exponent
`E + k`, so the rounded value lies within one unit of the last place of the exact one. When the
exact value is at most `2^N` in magnitude, that unit is at most `2^(N - 52)`
(`round_error`). Sums, products and quotients of floats are rounded once from their exact
value, so each lies within `2^(N - 52)` of it (`add_error`, `mul_error`, `div_error`).

The bound is one unit and not half of one, since only the truncation `⌊M / 2^k⌋` and its
successor are tracked, not which of the two is nearer.
-/
namespace Lighthouse.Binary64

open Float.Model UnpackedFloat

def signed : Sign → ℚ → ℚ
  | .positive, x => x
  | .negative, x => -x

/-- The number a zero or finite unpacked float stands for; NaNs and infinities stand for
none. -/
def rationalOf : UnpackedFloat → Option ℚ
  | .zero _ => some 0
  | .finite s m e _ => some (signed s (m * 2 ^ e))
  | _ => none

@[simp] theorem abs_signed (s : Sign) (x : ℚ) : |signed s x| = |x| := by
  cases s <;> simp [signed]

theorem signed_sub (s : Sign) (x y : ℚ) : signed s x - signed s y = signed s (x - y) := by
  cases s <;> simp [signed]; ring

theorem signed_mul (s₁ s₂ : Sign) (x y : ℚ) :
    signed (s₁ * s₂) (x * y) = signed s₁ x * signed s₂ y := by
  cases s₁ <;> cases s₂
  · exact (neg_mul_neg x y).symm
  · exact (neg_mul x y).symm
  · exact (mul_neg x y).symm
  · rfl

theorem signed_div (s₁ s₂ : Sign) (x y : ℚ) :
    signed (s₁ / s₂) (x / y) = signed s₁ x / signed s₂ y := by
  cases s₁ <;> cases s₂
  · exact (neg_div_neg_eq x y).symm
  · exact (neg_div y x).symm
  · exact (div_neg x).symm
  · rfl

theorem rationalOf_eq_some {u : UnpackedFloat} {x : ℚ} (h : rationalOf u = some x) :
    (∃ s, u = .zero s ∧ x = 0) ∨ ∃ s m e hm, u = .finite s m e hm ∧ x = signed s (m * 2 ^ e) := by
  cases u with
  | zero s => exact .inl ⟨s, rfl, (Option.some.inj h).symm⟩
  | finite s m e hm => exact .inr ⟨s, m, e, hm, rfl, (Option.some.inj h).symm⟩
  | infinity s => cases h
  | notANumber => cases h

/-! ### Rounding a significand -/

section Round

variable {M : Nat} {E : Int}

/-- The exponent `roundWithAccuracy` rounds a significand `M` at exponent `E` to. -/
def target (M : Nat) (E : Int) : Int := Format.binary64.targetExponent (totalExponent M E)

theorem target_eq (M : Nat) (E : Int) : target M E = max (M.log2 + E - 52) (-1074) := by
  simp only [target, Format.targetExponent, totalExponent,
    show Format.binary64.mantissaBits = 53 from rfl,
    show Format.binary64.minExponent = -1074 from rfl]
  omega

theorem le_target (hc : 52 ≤ M.log2 ∨ E ≤ -1074) : E ≤ target M E := by
  rw [target_eq]
  omega

theorem shiftToTargetExponent_mantissa (acc : Accuracy) :
    (shiftToTargetExponent .binary64 M E acc).1.mantissa = M / 2 ^ (target M E - E).toNat := by
  simp only [shiftToTargetExponent, shiftToExponent, mantissa_shiftRight,
    mantissa_ofMantissaAndAccuracy]
  rfl

theorem shiftToTargetExponent_exponent (hc : 52 ≤ M.log2 ∨ E ≤ -1074) (acc : Accuracy) :
    (shiftToTargetExponent .binary64 M E acc).2 = target M E := by
  have := le_target hc
  change E + ((target M E - E).toNat : Int) = target M E
  omega

theorem shifted_bounds (hc : 52 ≤ M.log2 ∨ E ≤ -1074) :
    M / 2 ^ (target M E - E).toNat < 2 ^ 53 ∧
      (2 ^ 52 ≤ M / 2 ^ (target M E - E).toNat ∨ target M E = -1074) := by
  have ht := target_eq M E
  have hk : M.log2 ≤ 52 + (target M E - E).toNat := by omega
  refine ⟨(Nat.div_lt_iff_lt_mul (Nat.two_pow_pos _)).mpr ?_, ?_⟩
  · calc M < 2 ^ (M.log2 + 1) := Nat.lt_log2_self
      _ ≤ 2 ^ (53 + (target M E - E).toNat) := Nat.pow_le_pow_right (by decide) (by omega)
      _ = 2 ^ 53 * 2 ^ (target M E - E).toNat := Nat.pow_add _ _ _
  · by_cases hmin : target M E = -1074
    · exact .inr hmin
    · left
      have hM : M ≠ 0 := by
        rintro rfl
        simp only [Nat.log2_zero] at ht hc
        omega
      refine (Nat.le_div_iff_mul_le (Nat.two_pow_pos _)).mpr ?_
      calc 2 ^ 52 * 2 ^ (target M E - E).toNat = 2 ^ M.log2 := by
            rw [← Nat.pow_add]
            congr 1
            omega
        _ ≤ M := Nat.log2_self_le hM

theorem roundWithAccuracy_cases (s : Sign) (acc : Accuracy) (hc : 52 ≤ M.log2 ∨ E ≤ -1074) :
    ∃ R, M / 2 ^ (target M E - E).toNat ≤ R ∧ R ≤ M / 2 ^ (target M E - E).toNat + 1 ∧
      (R = 0 ∧ roundWithAccuracy .binary64 s M E acc = .zero s ∨
        ∃ m e hm, roundWithAccuracy .binary64 s M E acc = .finite s m e hm ∧ Placed m e ∧
          e ≤ target M E + 1 ∧ (m : ℚ) * 2 ^ e = R * 2 ^ target M E) := by
  obtain ⟨hlt, hfull⟩ := shifted_bounds (M := M) (E := E) hc
  obtain ⟨hR₁, hR₂⟩ := roundedMantissa_bounds (shiftToTargetExponent .binary64 M E acc).1
  rw [shiftToTargetExponent_mantissa] at hR₁ hR₂
  have hfirst := shiftToTargetExponent_exponent hc acc
  have ht := target_eq M E
  unfold roundWithAccuracy
  generalize shiftToTargetExponent .binary64 M E acc = p at hR₁ hR₂ hfirst ⊢
  obtain ⟨em, e₁⟩ := p
  dsimp only at hR₁ hR₂ hfirst ⊢
  subst hfirst
  generalize em.roundedMantissa = R at hR₁ hR₂ ⊢
  refine ⟨R, hR₁, hR₂, ?_⟩
  -- the second shift takes back the carry into a 54th bit, if there is one
  rw [show shiftToTargetExponent .binary64 R (target M E) .exact =
      (ExtendedMantissa.ofMantissaAndAccuracy R .exact >>>
          (target R (target M E) - target M E).toNat,
        target M E + (target R (target M E) - target M E).toNat) from rfl]
  dsimp only
  rw [mantissa_shiftRight, mantissa_ofMantissaAndAccuracy]
  have ht₂ := target_eq R (target M E)
  by_cases hR0 : R = 0
  · subst hR0
    left
    exact ⟨rfl, dif_pos (by simp)⟩
  right
  by_cases hcarry : R = 2 ^ 53
  · -- a carry: one place up, the significand halved exactly
    subst hcarry
    have hl : (2 ^ 53 : Nat).log2 = 53 := Nat.log2_two_pow
    have hk : (target (2 ^ 53) (target M E) - target M E).toNat = 1 := by omega
    rw [hk]
    refine ⟨2 ^ 52, target M E + 1, by decide, dif_neg (by decide),
      ⟨by decide, by omega, .inl le_rfl⟩, le_rfl, ?_⟩
    rw [zpow_add₀ (by norm_num)]
    push_cast
    ring
  · have hlt' : R < 2 ^ 53 := by omega
    have hl := (Nat.log2_lt hR0).mpr hlt'
    have hk : (target R (target M E) - target M E).toNat = 0 := by omega
    rw [hk]
    simp only [pow_zero, Nat.div_one, Nat.cast_zero, add_zero]
    refine ⟨R, target M E, Nat.pos_of_ne_zero hR0, dif_neg hR0, ⟨hlt', by omega, ?_⟩,
      by omega, rfl⟩
    rcases hfull with h | h
    · exact .inl (h.trans hR₁)
    · exact .inr h

theorem truncation_bracket (M k : Nat) (E : Int) :
    ((M / 2 ^ k : Nat) : ℚ) * 2 ^ (E + k) ≤ M * 2 ^ E ∧
      ((M : ℚ) + 1) * 2 ^ E ≤ ((M / 2 ^ k : Nat) + 1) * 2 ^ (E + k) := by
  have hlo : M / 2 ^ k * 2 ^ k ≤ M := Nat.div_mul_le_self M (2 ^ k)
  have hhi : M + 1 ≤ (M / 2 ^ k + 1) * 2 ^ k := by
    have := Nat.lt_div_mul_add (a := M) (Nat.two_pow_pos k)
    rw [Nat.add_mul, Nat.one_mul]
    omega
  have hE : (0 : ℚ) < 2 ^ E := zpow_pos (by norm_num) E
  rw [zpow_add₀ (by norm_num), zpow_natCast]
  constructor
  · have : ((M / 2 ^ k : Nat) : ℚ) * 2 ^ k ≤ M := by exact_mod_cast hlo
    nlinarith
  · have : (M : ℚ) + 1 ≤ ((M / 2 ^ k : Nat) + 1) * 2 ^ k := by exact_mod_cast hhi
    nlinarith

theorem abs_sub_le_of_bracket {f R : Nat} {u x : ℚ} (hR : f ≤ R ∧ R ≤ f + 1) (hlo : f * u ≤ x)
    (hhi : x < (f + 1) * u) : |R * u - x| ≤ u := by
  have hu : 0 < u := by
    have : (f : ℚ) * u < (f + 1) * u := hlo.trans_lt hhi
    nlinarith
  rcases Nat.eq_or_lt_of_le hR.1 with rfl | hlt
  · rw [abs_le]
    constructor <;> nlinarith
  · have : R = f + 1 := by omega
    subst this
    push_cast
    rw [abs_le]
    constructor <;> nlinarith

theorem target_le (hc : 52 ≤ M.log2 ∨ E ≤ -1074) {N : Int} (hN : -1022 ≤ N)
    (hv : (M : ℚ) * 2 ^ E ≤ 2 ^ N) : target M E ≤ N - 52 := by
  rw [target_eq]
  rcases Nat.eq_zero_or_pos M with rfl | hM
  · simp only [Nat.log2_zero] at hc ⊢
    omega
  · -- the leading bit of `M` is at most the place of `2^N`
    have hlead : (2 : ℚ) ^ ((M.log2 : Int) + E) ≤ 2 ^ N := by
      rw [zpow_add₀ (by norm_num), zpow_natCast]
      refine le_trans ?_ hv
      have : ((2 ^ M.log2 : Nat) : ℚ) ≤ M := by exact_mod_cast Nat.log2_self_le hM.ne'
      push_cast at this
      exact mul_le_mul_of_nonneg_right this (zpow_pos (by norm_num) E).le
    have := (zpow_le_zpow_iff_right₀ (by norm_num : (1 : ℚ) < 2)).mp hlead
    omega

/-- A rounded significand, packed, lies within one unit of the last place of the exact value `x`
it was cut from, where `M · 2^E ≤ x < (M + 1) · 2^E`; for `x` at most `2^N` that unit is at most
`2^(N - 52)`, and the result is finite. -/
theorem round_error (s : Sign) (acc : Accuracy) (hc : 52 ≤ M.log2 ∨ E ≤ -1074) {x : ℚ}
    (hx : M * 2 ^ E ≤ x) (hx' : x < (M + 1) * 2 ^ E) {N : Int} (hN : -1022 ≤ N) (hN' : N ≤ 1022)
    (hxN : x ≤ 2 ^ N) :
    ∃ q, rationalOf (pack (roundWithAccuracy .binary64 s M E acc)).unpack = some q ∧
      |q - signed s x| ≤ 2 ^ (N - 52) := by
  have ht := target_le hc hN (hx.trans hxN)
  have hunit : (2 : ℚ) ^ target M E ≤ 2 ^ (N - 52) :=
    zpow_le_zpow_right₀ (by norm_num) ht
  have hE : target M E = E + ((target M E - E).toNat : Nat) := by
    have := le_target hc
    omega
  obtain ⟨hlo, hhi⟩ := truncation_bracket M (target M E - E).toNat E
  rw [← hE] at hlo hhi
  obtain ⟨R, hR₁, hR₂, hround⟩ := roundWithAccuracy_cases s acc hc
  -- the rounded value is the truncation or its successor, each within a unit of `x`
  have herr := abs_sub_le_of_bracket ⟨hR₁, hR₂⟩ (hlo.trans hx) (hx'.trans_le hhi)
  rcases hround with ⟨rfl, hzero⟩ | ⟨m, e, hm, hfin, hp, he, hval⟩
  · refine ⟨0, by rw [hzero, unpack_pack_zero]; rfl, ?_⟩
    simp only [Nat.cast_zero, zero_mul, zero_sub, abs_neg, abs_signed] at herr ⊢
    exact herr.trans hunit
  · refine ⟨signed s (m * 2 ^ e), ?_, ?_⟩
    · rw [hfin, unpack_pack_placed hm hp (by omega)]
      rfl
    · rw [signed_sub, abs_signed, hval]
      exact herr.trans hunit

end Round

/-! ### Products, quotients and sums of floats -/

section Operations

variable {a b : Float} {x y : ℚ}

theorem Placed.log2_or_least {m : Nat} {e : Int} (hp : Placed m e) : 52 ≤ m.log2 ∨ e = -1074 := by
  rcases hp.full with h | h
  · exact .inl ((Nat.le_log2 (by omega)).mpr h)
  · exact .inr h

theorem rationalOf_pack_zero (s : Sign) : rationalOf (pack (.zero s)).unpack = some 0 := by
  rw [unpack_pack_zero]
  rfl

/-- The product of two floats lies within `2^(N - 52)` of the product of their values when that
is at most `2^N` in magnitude. -/
theorem mul_error (ha : rationalOf a.toModel.unpack = some x)
    (hb : rationalOf b.toModel.unpack = some y) {N : Int} (hN : -1022 ≤ N) (hN' : N ≤ 1022)
    (hxy : |x * y| ≤ 2 ^ N) :
    ∃ q, rationalOf (a * b).toModel.unpack = some q ∧ |q - x * y| ≤ 2 ^ (N - 52) := by
  have hmul : (a * b).toModel.unpack =
      (pack (UnpackedFloat.mul .binary64 a.toModel.unpack b.toModel.unpack)).unpack := rfl
  have hunit : (0 : ℚ) ≤ 2 ^ (N - 52) := (zpow_pos (by norm_num) _).le
  rcases rationalOf_eq_some ha with ⟨s₁, hu₁, rfl⟩ | ⟨s₁, m₁, e₁, h₁, hu₁, rfl⟩
  · -- a zero times a zero or a finite float is a zero
    refine ⟨0, ?_, by simpa using hunit⟩
    rcases rationalOf_eq_some hb with ⟨s₂, hu₂, rfl⟩ | ⟨s₂, m₂, e₂, h₂, hu₂, rfl⟩ <;>
      rw [hmul, hu₁, hu₂] <;> exact rationalOf_pack_zero _
  rcases rationalOf_eq_some hb with ⟨s₂, hu₂, rfl⟩ | ⟨s₂, m₂, e₂, h₂, hu₂, rfl⟩
  · refine ⟨0, ?_, by simpa using hunit⟩
    rw [hmul, hu₁, hu₂]
    exact rationalOf_pack_zero _
  -- two finite floats: the significands multiply exactly, then the product is rounded once
  have hc : 52 ≤ (m₁ * m₂).log2 ∨ e₁ + e₂ ≤ -1074 := by
    have hl₁ := log2_le_log2 (Nat.le_mul_of_pos_right m₁ h₂)
    have hl₂ := log2_le_log2 (Nat.le_mul_of_pos_left m₂ h₁)
    have hp₁ := (placed_of_unpack hu₁).1
    have hp₂ := (placed_of_unpack hu₂).1
    rcases hp₁.log2_or_least with h | h <;> rcases hp₂.log2_or_least with h' | h' <;> omega
  have hexact : ((m₁ * m₂ : Nat) : ℚ) * 2 ^ (e₁ + e₂) = m₁ * 2 ^ e₁ * (m₂ * 2 ^ e₂) := by
    push_cast
    rw [zpow_add₀ (by norm_num)]
    ring
  have hpos : (0 : ℚ) ≤ m₁ * 2 ^ e₁ * (m₂ * 2 ^ e₂) := by positivity
  obtain ⟨q, hq, herr⟩ := round_error (s₁ * s₂) .exact hc
    (x := (m₁ : ℚ) * 2 ^ e₁ * (m₂ * 2 ^ e₂)) hexact.le
    (by rw [← hexact]; nlinarith [zpow_pos (by norm_num : (0 : ℚ) < 2) (e₁ + e₂)]) hN hN'
    (by rw [← signed_mul, abs_signed, abs_of_nonneg hpos] at hxy; exact hxy)
  refine ⟨q, ?_, ?_⟩
  · rw [hmul, hu₁, hu₂]
    exact hq
  · rwa [← signed_mul]

theorem divCore_bracket (m₁ m₂ : Nat) (e₁ e₂ : Int) (h₁ : 0 < m₁) (h₂ : 0 < m₂) :
    let d := divCore .binary64 m₁ e₁ m₂ e₂
    (52 ≤ d.1.log2 ∨ d.2.1 ≤ -1074) ∧
      (d.1 : ℚ) * 2 ^ d.2.1 ≤ m₁ * 2 ^ e₁ / (m₂ * 2 ^ e₂) ∧
      (m₁ : ℚ) * 2 ^ e₁ / (m₂ * 2 ^ e₂) < (d.1 + 1) * 2 ^ d.2.1 := by
  -- the exponent `t` of the quotient and the shift `k` that brings the dividend to it
  obtain ⟨t, ht⟩ : ∃ t, min (e₁ - e₂) (Format.binary64.targetExponent
      (totalExponent m₁ e₁ - totalExponent m₂ e₂)) = t := ⟨_, rfl⟩
  have ht' : t = min (e₁ - e₂) (max ((m₁.log2 : Int) - m₂.log2 + (e₁ - e₂) - 53) (-1074)) := by
    rw [← ht]
    simp only [Format.targetExponent, totalExponent,
      show Format.binary64.mantissaBits = 53 from rfl,
      show Format.binary64.minExponent = -1074 from rfl]
    omega
  obtain ⟨k, hk⟩ : ∃ k : Nat, (e₁ - e₂ - t).toNat = k := ⟨_, rfl⟩
  have hD : e₁ - e₂ = t + k := by omega
  simp only [divCore, ht, hk, Nat.shiftLeft_eq]
  -- the exact quotient is `(m₁ · 2^k / m₂) · 2^t`
  have hX : (m₁ : ℚ) * 2 ^ e₁ / (m₂ * 2 ^ e₂) = (m₁ * 2 ^ k : Nat) / m₂ * 2 ^ t := by
    have he : (2 : ℚ) ^ e₁ = 2 ^ e₂ * (2 ^ t * 2 ^ k) := by
      rw [← zpow_natCast, ← zpow_add₀ (by norm_num), ← zpow_add₀ (by norm_num)]
      congr 1
      omega
    push_cast
    rw [he]
    field_simp
  have hm₂ : (0 : ℚ) < m₂ := by exact_mod_cast h₂
  have hpow : (0 : ℚ) < 2 ^ t := zpow_pos (by norm_num) t
  refine ⟨?_, ?_, ?_⟩
  · by_cases hmin : t ≤ -1074
    · exact .inr hmin
    · -- above the least exponent the dividend was shifted to 53 bits past the divisor
      left
      have hk' : m₂.log2 + 53 ≤ m₁.log2 + k := by omega
      have hq : 2 ^ 52 ≤ m₁ * 2 ^ k / m₂ := by
        refine (Nat.le_div_iff_mul_le h₂).mpr ?_
        calc 2 ^ 52 * m₂ ≤ 2 ^ 52 * 2 ^ (m₂.log2 + 1) :=
              Nat.mul_le_mul_left _ Nat.lt_log2_self.le
          _ = 2 ^ (m₂.log2 + 53) := by rw [← Nat.pow_add]; congr 1; omega
          _ ≤ 2 ^ (m₁.log2 + k) := Nat.pow_le_pow_right (by decide) hk'
          _ = 2 ^ m₁.log2 * 2 ^ k := Nat.pow_add _ _ _
          _ ≤ m₁ * 2 ^ k := Nat.mul_le_mul_right _ (Nat.log2_self_le h₁.ne')
      exact (Nat.le_log2 (by omega)).mpr hq
  · rw [hX]
    exact mul_le_mul_of_nonneg_right (Nat.cast_div_le) hpow.le
  · rw [hX]
    refine mul_lt_mul_of_pos_right ?_ hpow
    rw [← Nat.floor_div_eq_div (K := ℚ)]
    exact Nat.lt_floor_add_one _

/-- The quotient of two floats lies within `2^(N - 52)` of the quotient of their values when
the divisor is not zero and the quotient is at most `2^N` in magnitude. -/
theorem div_error (ha : rationalOf a.toModel.unpack = some x)
    (hb : rationalOf b.toModel.unpack = some y) (hy : y ≠ 0) {N : Int} (hN : -1022 ≤ N)
    (hN' : N ≤ 1022) (hxy : |x / y| ≤ 2 ^ N) :
    ∃ q, rationalOf (a / b).toModel.unpack = some q ∧ |q - x / y| ≤ 2 ^ (N - 52) := by
  have hdiv : (a / b).toModel.unpack =
      (pack (UnpackedFloat.div .binary64 a.toModel.unpack b.toModel.unpack)).unpack := rfl
  have hunit : (0 : ℚ) ≤ 2 ^ (N - 52) := (zpow_pos (by norm_num) _).le
  rcases rationalOf_eq_some hb with ⟨s₂, hu₂, rfl⟩ | ⟨s₂, m₂, e₂, h₂, hu₂, rfl⟩
  · exact absurd rfl hy
  rcases rationalOf_eq_some ha with ⟨s₁, hu₁, rfl⟩ | ⟨s₁, m₁, e₁, h₁, hu₁, rfl⟩
  · -- a zero over a finite float is a zero
    refine ⟨0, ?_, by simpa using hunit⟩
    rw [hdiv, hu₁, hu₂]
    exact rationalOf_pack_zero _
  -- two finite floats: the quotient of the significands is taken with enough bits, then rounded
  obtain ⟨hc, hlo, hhi⟩ := divCore_bracket m₁ m₂ e₁ e₂ h₁ h₂
  have hpos : (0 : ℚ) ≤ m₁ * 2 ^ e₁ / (m₂ * 2 ^ e₂) := by positivity
  obtain ⟨q, hq, herr⟩ := round_error (s₁ / s₂) (divCore .binary64 m₁ e₁ m₂ e₂).2.2 hc hlo hhi
    hN hN' (by rw [← signed_div, abs_signed, abs_of_nonneg hpos] at hxy; exact hxy)
  refine ⟨q, ?_, ?_⟩
  · rw [hdiv, hu₁, hu₂]
    exact hq
  · rwa [← signed_div]

theorem log2_mul_two_pow {M : Nat} (hM : 0 < M) (j : Nat) : (M * 2 ^ j).log2 = M.log2 + j := by
  refine (Nat.log2_eq_iff (by positivity)).mpr ⟨?_, ?_⟩
  · rw [Nat.pow_add]
    exact Nat.mul_le_mul_right _ (Nat.log2_self_le hM.ne')
  · rw [show M.log2 + j + 1 = M.log2 + 1 + j by omega, Nat.pow_add]
    exact Nat.mul_lt_mul_of_pos_right Nat.lt_log2_self (Nat.two_pow_pos j)

theorem signed_apply (s : Sign) (m : Nat) (e : Int) :
    signed s (m * 2 ^ e) = (s.apply (m : Int) : ℚ) * 2 ^ e := by
  cases s <;> simp [signed, Sign.apply]

theorem round_eq (s : Sign) (M : Nat) (E : Int) :
    UnpackedFloat.round .binary64 s M E =
      roundWithAccuracy .binary64 s (M * 2 ^ (E - target M E).toNat)
        (E - (E - target M E).toNat) .exact := by
  unfold UnpackedFloat.round decreaseExponent
  rw [← Nat.shiftLeft_eq]
  rfl

theorem shifted_log2_or_least {M : Nat} (hM : 0 < M) (E : Int) :
    52 ≤ (M * 2 ^ (E - target M E).toNat).log2 ∨ E - (E - target M E).toNat ≤ -1074 := by
  rw [log2_mul_two_pow hM]
  have := target_eq M E
  omega

theorem shifted_value (M : Nat) (E : Int) (j : Nat) :
    ((M * 2 ^ j : Nat) : ℚ) * 2 ^ (E - j) = M * 2 ^ E := by
  push_cast
  rw [mul_assoc, ← zpow_natCast, ← zpow_add₀ (by norm_num)]
  congr 2
  omega

theorem normalize_error (n E : Int) (zs : Sign) {N : Int} (hN : -1022 ≤ N) (hN' : N ≤ 1022)
    (hv : |(n : ℚ) * 2 ^ E| ≤ 2 ^ N) :
    ∃ q, rationalOf (pack (UnpackedFloat.normalize .binary64 n E zs)).unpack = some q ∧
      |q - n * 2 ^ E| ≤ 2 ^ (N - 52) := by
  -- the magnitude `M` of `n` is rounded, shifted first to a placed significand
  have hround : ∀ (s : Sign) (M : Nat), 0 < M → signed s (M * 2 ^ E) = n * 2 ^ E →
      ∃ q, rationalOf (pack (UnpackedFloat.round .binary64 s M E)).unpack = some q ∧
        |q - n * 2 ^ E| ≤ 2 ^ (N - 52) := by
    intro s M hM hsn
    have hval := shifted_value M E (E - target M E).toNat
    have hpos : (0 : ℚ) ≤ M * 2 ^ E := by positivity
    rw [round_eq, ← hsn]
    refine round_error s .exact (shifted_log2_or_least hM E) hval.le ?_ hN hN' ?_
    · rw [← hval]
      nlinarith [zpow_pos (by norm_num : (0 : ℚ) < 2) (E - (E - target M E).toNat)]
    · rw [← hsn, abs_signed, abs_of_nonneg hpos] at hv
      exact hv
  unfold UnpackedFloat.normalize
  rcases lt_trichotomy n 0 with hn | rfl | hn
  · rw [Int.compare_eq_lt.mpr hn]
    refine hround .negative (-n).toNat (by omega) ?_
    rw [signed]
    have : (((-n).toNat : Nat) : ℚ) = -(n : ℚ) := by
      rw [show (((-n).toNat : Nat) : ℚ) = (((-n).toNat : Int) : ℚ) from rfl, Int.toNat_of_nonneg (by omega)]
      push_cast
      ring
    rw [this]
    ring
  · refine ⟨0, rationalOf_pack_zero zs, ?_⟩
    simpa using (zpow_pos (by norm_num : (0 : ℚ) < 2) (N - 52)).le
  · rw [Int.compare_eq_gt.mpr hn]
    refine hround .positive n.toNat (by omega) ?_
    rw [signed]
    have : ((n.toNat : Nat) : ℚ) = (n : ℚ) := by
      rw [show ((n.toNat : Nat) : ℚ) = ((n.toNat : Int) : ℚ) from rfl, Int.toNat_of_nonneg (by omega)]
    rw [this]

theorem rationalOf_pack_finite {s : Sign} {m : Nat} {e : Int} {hm : 0 < m}
    (hu : a.toModel.unpack = .finite s m e hm) :
    rationalOf (pack (.finite s m e hm)).unpack = some (signed s (m * 2 ^ e)) := by
  obtain ⟨hp, he⟩ := placed_of_unpack hu
  rw [unpack_pack_placed hm hp he]
  rfl

/-- The sum of two floats lies within `2^(N - 52)` of the sum of their values when that is at
most `2^N` in magnitude. -/
theorem add_error (ha : rationalOf a.toModel.unpack = some x)
    (hb : rationalOf b.toModel.unpack = some y) {N : Int} (hN : -1022 ≤ N) (hN' : N ≤ 1022)
    (hxy : |x + y| ≤ 2 ^ N) :
    ∃ q, rationalOf (a + b).toModel.unpack = some q ∧ |q - (x + y)| ≤ 2 ^ (N - 52) := by
  have hadd : (a + b).toModel.unpack =
      (pack (UnpackedFloat.add .binary64 a.toModel.unpack b.toModel.unpack)).unpack := rfl
  have hunit : (0 : ℚ) ≤ 2 ^ (N - 52) := (zpow_pos (by norm_num) _).le
  rcases rationalOf_eq_some ha with ⟨s₁, hu₁, rfl⟩ | ⟨s₁, m₁, e₁, h₁, hu₁, rfl⟩ <;>
    rcases rationalOf_eq_some hb with ⟨s₂, hu₂, rfl⟩ | ⟨s₂, m₂, e₂, h₂, hu₂, rfl⟩
  · -- two zeros give a zero
    refine ⟨0, ?_, by simpa using hunit⟩
    rw [hadd, hu₁, hu₂]
    change rationalOf (pack (if s₁ == s₂ then .zero s₁ else .zero .positive)).unpack = _
    split <;> exact rationalOf_pack_zero _
  · -- a zero and a float give the float
    refine ⟨signed s₂ (m₂ * 2 ^ e₂), ?_, by simpa using hunit⟩
    rw [hadd, hu₁, hu₂]
    exact rationalOf_pack_finite hu₂
  · refine ⟨signed s₁ (m₁ * 2 ^ e₁), ?_, by simpa using hunit⟩
    rw [hadd, hu₁, hu₂]
    exact rationalOf_pack_finite hu₁
  · -- both significands are taken to the smaller exponent, added exactly, then normalised
    have hsum : signed s₁ (m₁ * 2 ^ e₁) + signed s₂ (m₂ * 2 ^ e₂) =
        ((s₁.apply (m₁ <<< (e₁ - min e₁ e₂).toNat : Nat) +
          s₂.apply (m₂ <<< (e₂ - min e₁ e₂).toNat : Nat) : Int) : ℚ) * 2 ^ min e₁ e₂ := by
      have hv₁ := shifted_value m₁ e₁ (e₁ - min e₁ e₂).toNat
      have hv₂ := shifted_value m₂ e₂ (e₂ - min e₁ e₂).toNat
      rw [show e₁ - ((e₁ - min e₁ e₂).toNat : Int) = min e₁ e₂ by omega] at hv₁
      rw [show e₂ - ((e₂ - min e₁ e₂).toNat : Int) = min e₁ e₂ by omega] at hv₂
      rw [← hv₁, ← hv₂, signed_apply, signed_apply, Nat.shiftLeft_eq, Nat.shiftLeft_eq]
      push_cast
      ring
    rw [hsum] at hxy ⊢
    rw [hadd, hu₁, hu₂]
    exact normalize_error _ _ .positive hN hN' hxy

end Operations

/-! ### Reading a value back -/

section ReadBack

variable {a c : Float}

theorem value_lt_of_placed {m₁ m₂ : Nat} {e₁ e₂ : Int} (hp₁ : Placed m₁ e₁) (hp₂ : Placed m₂ e₂)
    (h : e₁ < e₂ ∨ e₁ = e₂ ∧ m₁ < m₂) : (m₁ : ℚ) * 2 ^ e₁ < m₂ * 2 ^ e₂ := by
  rcases h with he | ⟨rfl, hm⟩
  · have hfull : (2 : ℚ) ^ 52 ≤ m₂ := by
      rcases hp₂.full with h | h
      · exact_mod_cast h
      · have := hp₁.ge
        omega
    have hm₁ : (m₁ : ℚ) < 2 ^ 53 := by exact_mod_cast hp₁.lt
    calc (m₁ : ℚ) * 2 ^ e₁ < 2 ^ 53 * 2 ^ e₁ := by gcongr
      _ = 2 ^ 52 * 2 ^ (e₁ + 1) := by rw [zpow_add₀ (by norm_num)]; ring
      _ ≤ 2 ^ 52 * 2 ^ e₂ := by gcongr; norm_num; omega
      _ ≤ m₂ * 2 ^ e₂ := by gcongr
  · gcongr

theorem unpack_abs {s : Sign} {m : Nat} {e : Int} {hm : 0 < m}
    (hu : a.toModel.unpack = .finite s m e hm) : a.abs.toModel.unpack = .finite .positive m e hm := by
  obtain ⟨hp, he⟩ := placed_of_unpack hu
  change (pack a.toModel.unpack.abs).unpack = _
  rw [hu]
  exact unpack_pack_placed hm hp he

theorem abs_lt_of_not_le {mc : Nat} {ec : Int} {hc : 0 < mc}
    (hcu : c.toModel.unpack = .finite .positive mc ec hc) (ha : a.isNaN = false)
    (h : ¬c ≤ a.abs) : ∃ x, rationalOf a.toModel.unpack = some x ∧ |x| < mc * 2 ^ ec := by
  have hcn : c.toModel.unpack ≠ .notANumber := by rw [hcu]; exact nofun
  -- the magnitude is ordered against `c` by rank, as a finite positive float or an infinity
  have hle : ∀ u, a.abs.toModel.unpack = u → u ≠ .notANumber →
      ¬(RankLt (rank c.toModel.unpack) (rank u) ∨ rank c.toModel.unpack = rank u) :=
    fun u hu hn hr => h ((float_le_iff c a.abs).mpr ⟨hcn, hu ▸ hn, hu ▸ hr⟩)
  cases hu : a.toModel.unpack with
  | notANumber => exact absurd hu (unpack_ne_of_isNaN_eq_false ha)
  | infinity s =>
    have habs : a.abs.toModel.unpack = .infinity .positive := by
      change (pack a.toModel.unpack.abs).unpack = _
      rw [hu]
      exact unpack_packedInfinity .positive
    exact absurd (.inl (.inl (by rw [hcu]; simp [rank]))) (hle _ habs nofun)
  | zero s =>
    refine ⟨0, rfl, ?_⟩
    rw [abs_zero]
    exact mul_pos (by exact_mod_cast hc) (zpow_pos (by norm_num) _)
  | finite s m e hm =>
    have hr := hle _ (unpack_abs hu) nofun
    rw [hcu] at hr
    simp only [rank, RankLt, Prod.mk.injEq, lt_self_iff_false, true_and, false_or] at hr
    refine ⟨signed s (m * 2 ^ e), rfl, ?_⟩
    rw [abs_signed, abs_of_nonneg (by positivity)]
    exact value_lt_of_placed (placed_of_unpack hu).1 (placed_of_unpack hcu).1 (by omega)

theorem parts_of_unpack {m : Nat} {e : Int} {hm : 0 < m}
    (hu : a.toModel.unpack = .finite .positive m e hm) : parts a = ⟨false, m, e⟩ := by
  change UnpackedFloat.unpack Format.binary64 a.toBits.toBitVec = _ at hu
  have hE := unpackExponent_toNat a.toBits.toBitVec
  have hM := unpackMantissa_toNat a.toBits.toBitVec
  have hS := unpackSign_sign a.toBits.toBitVec
  have hbias : Format.binary64.exponentBias = 1023 := rfl
  have hlt := a.toBits.toBitVec.isLt
  unfold parts
  simp only [Nat.shiftRight_eq_div_pow, show Nat.pow 2 52 = 2 ^ 52 from rfl]
  change _ = (⟨false, m, e⟩ : Parts)
  unfold UnpackedFloat.unpack at hu
  dsimp only at hu
  split at hu
  · split at hu <;> cases hu
  split at hu
  · -- a subnormal pattern: no implicit bit, the least exponent
    rename_i h0
    split at hu
    · cases hu
    simp only [UnpackedFloat.finite.injEq, h0, hbias] at hu
    obtain ⟨hs, rfl, rfl⟩ := hu
    rw [hs] at hS
    have hf : a.toBits.toBitVec.toNat / 2 ^ 52 % 2048 = 0 := by
      rw [h0] at hE
      simpa using hE.symm
    simp only [UInt64.toNat, hf, if_true, hM]
    simp [Sign.toBitVec] at hS
    simp [← hS]
  · -- a normal pattern: the field is neither zero nor all ones
    rename_i h1 h0
    have hE0 : a.toBits.toBitVec.toNat / 2 ^ 52 % 2048 ≠ 0 := fun h => h0 (BitVec.eq_of_toNat_eq
      (by rw [hE]; simpa using h))
    have hM' : (@unpackMantissa Format.binary64 a.toBits.toBitVec).toNat < 2 ^ 52 := BitVec.isLt _
    have hm : (1#1 ++ @unpackMantissa Format.binary64 a.toBits.toBitVec).toNat =
        2 ^ 52 + (@unpackMantissa Format.binary64 a.toBits.toBitVec).toNat := by
      rw [BitVec.toNat_append, ← Nat.shiftLeft_add_eq_or_of_lt hM']
      simp [Nat.shiftLeft_eq]
    simp only [UnpackedFloat.finite.injEq, hm, hbias] at hu
    obtain ⟨hs, rfl, rfl⟩ := hu
    rw [hs] at hS
    simp only [UInt64.toNat, hE0, if_false, hM, hE]
    simp [Sign.toBitVec] at hS
    rw [Parts.mk.injEq]
    refine ⟨by simp [← hS], by omega, by omega⟩

theorem roundHalfEven_bounds {m : Nat} {e : Int} {hm : 0 < m}
    (hu : a.toModel.unpack = .finite .positive m e hm) (k : Nat) :
    ((k : ℚ) ≤ m * 2 ^ e → (k : Int) ≤ roundHalfEven a) ∧
      ((m : ℚ) * 2 ^ e ≤ k → roundHalfEven a ≤ k) := by
  unfold roundHalfEven toRatio
  rw [parts_of_unpack hu]
  dsimp only
  -- the value is the ratio `n / d` of the pair `shiftPair` gives
  have hratio := shiftPair_ratio m 1 e
  have hd : 0 < (shiftPair m 1 e).2 := shiftPair_snd_pos Nat.one_pos e
  generalize shiftPair m 1 e = p at hratio hd ⊢
  obtain ⟨n, d⟩ := p
  simp only [Nat.cast_one, div_one] at hratio hd
  have hdq : (0 : ℚ) < d := by exact_mod_cast hd
  simp only [Bool.false_eq_true, if_false]
  have hdm := Nat.div_add_mod n d
  constructor
  · intro hk
    have hkn : k * d ≤ n := by
      have : (k : ℚ) * d ≤ n := (le_div_iff₀ hdq).mp (hratio ▸ hk)
      exact_mod_cast this
    have hq : k ≤ n / d := (Nat.le_div_iff_mul_le hd).mpr hkn
    split_ifs <;> omega
  · intro hk
    have hnk : n ≤ k * d := by
      have : (n : ℚ) ≤ k * d := (div_le_iff₀ hdq).mp (hratio ▸ hk)
      exact_mod_cast this
    have hq : n / d ≤ k := Nat.div_le_of_le_mul (by rw [Nat.mul_comm]; exact hnk)
    split_ifs with hup
    · -- rounding up needs a remainder, so the floor is below `k`
      have hr : 0 < n % d := by omega
      have hlt : d * (n / d) < d * k := by rw [Nat.mul_comm d k]; omega
      have := Nat.lt_of_mul_lt_mul_left hlt
      omega
    · omega

end ReadBack

end Lighthouse.Binary64
