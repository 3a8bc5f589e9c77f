import Lighthouse.Half
import Lighthouse.Proofs.Binary64.Rounding
/-!
# Converting between binary16 and binary64

`Half.widen` is exact: a finite binary16 pattern becomes the binary64 pattern of the same
sign and value, an infinity the infinity of its sign, a NaN a NaN of its sign. `Half.narrow`
rounds to nearest with ties to even (`RoundsTo`): the nearest binary16 number, the even
pattern of two as near, with the sign kept, and an infinity or a magnitude from `65520` on
to the infinity of its sign. Together they make `narrow (widen h) = h` for every binary16
pattern `h` that is no NaN.
-/
namespace Lighthouse.Half

open Interchange Binary64

theorem binary16_field (h : Nat) : binary16.field h = h / 0x400 % 32 := rfl

theorem binary16_frac (h : Nat) : binary16.frac h = h % 0x400 := rfl

theorem binary16_negative (h : Nat) : binary16.negative h = decide (h / 0x8000 % 2 = 1) := rfl

theorem binary16_fracBits : binary16.fracBits = 10 := rfl

theorem binary16_bias : binary16.bias = 15 := rfl

theorem binary16_expMax : binary16.expMax = 31 := rfl

theorem binary16_overflowBound : binary16.overflowBound = 65520 := by
  rw [overflowBound, show binary16.eMax = 5 from rfl, show binary16.fracBits = 10 from rfl]
  norm_num

theorem binary16_significand (h : Nat) : binary16.significand h =
    if h / 0x400 % 32 = 0 then h % 0x400 else 0x400 + h % 0x400 := rfl

theorem binary16_exponent (h : Nat) :
    binary16.exponent h = ((max (h / 0x400 % 32) 1 : Nat) : Int) - 25 := by
  rw [exponent, binary16_field, show (binary16.bias : Int) = 15 from rfl,
    show (binary16.fracBits : Int) = 10 from rfl]
  ring

/-! ### Widening -/

theorem widen_eq_ofRatio {h : Nat} (hf : binary16.IsFinite h) :
    ∃ num den : Nat, 0 < den ∧
      (num / den : ℚ) = binary16.significand h * 2 ^ binary16.exponent h ∧
      widen h = (ofRatio (binary16.negative h) num den).toBits := by
  have he : h / 0x400 % 32 ≠ 31 := hf
  unfold widen
  dsimp only
  rw [if_neg he]
  by_cases h0 : h / 0x400 % 32 = 0
  · -- a subnormal: the fraction in units of `2^-24`
    rw [if_pos h0]
    refine ⟨h % 0x400, Nat.pow 2 24, Nat.two_pow_pos _, ?_, rfl⟩
    rw [binary16_significand, binary16_exponent, if_pos h0, h0, Nat.pow_eq]
    norm_num [div_eq_mul_inv]
  · rw [if_neg h0]
    have hexp : binary16.exponent h = ((h / 0x400 % 32 : Nat) : Int) - 25 := by
      rw [binary16_exponent, max_eq_left (Nat.one_le_iff_ne_zero.mpr h0)]
    have hsig : binary16.significand h = 0x400 + h % 0x400 := by
      rw [binary16_significand, if_neg h0]
    rw [hexp, hsig]
    by_cases h25 : h / 0x400 % 32 ≥ 25
    · -- an integer: the significand scaled up
      rw [if_pos h25]
      refine ⟨(0x400 + h % 0x400) * Nat.pow 2 (h / 0x400 % 32 - 25), 1, one_pos, ?_, rfl⟩
      rw [Nat.pow_eq, show ((h / 0x400 % 32 : Nat) : Int) - 25 = ((h / 0x400 % 32 - 25 : Nat) : Int)
        by omega, zpow_natCast]
      push_cast
      rw [div_one]
    · -- a normal number below one: the significand over a power of two
      rw [if_neg h25]
      refine ⟨0x400 + h % 0x400, Nat.pow 2 (25 - h / 0x400 % 32), Nat.two_pow_pos _, ?_, rfl⟩
      rw [Nat.pow_eq, show ((h / 0x400 % 32 : Nat) : Int) - 25 = -((25 - h / 0x400 % 32 : Nat) : Int)
        by omega, zpow_neg, zpow_natCast, div_eq_mul_inv]
      push_cast
      rfl

theorem widen_of_isFinite {h : Nat} (hf : binary16.IsFinite h) :
    binary64.IsFinite (widen h).toNat ∧ binary64.negative (widen h).toNat = binary16.negative h ∧
      binary64.value (widen h).toNat = binary16.value h := by
  obtain ⟨num, den, hd, hx, hw⟩ := widen_eq_ofRatio hf
  have hm : binary16.significand h < 2 ^ 53 :=
    lt_of_lt_of_le (significand_lt h) (Nat.pow_le_pow_right (by decide) (by decide))
  have hk : -1074 ≤ binary16.exponent h := le_trans (by decide) (exponent_ge_eMin h)
  have hmag : (num / den : ℚ) = |binary16.value h| := by
    rw [hx, value_eq_sign_mul, abs_mul,
      abs_of_nonneg (a := (binary16.significand h : ℚ) * 2 ^ binary16.exponent h) (by positivity)]
    split <;> simp
  have hov : (num / den : ℚ) < binary64.overflowBound := by
    rw [hmag]
    calc |binary16.value h| < binary16.overflowBound := abs_value_lt_overflowBound hf
      _ ≤ binary64.overflowBound := by
        rw [binary16_overflowBound]
        calc (65520 : ℚ) ≤ 2 ^ (16 : Int) := by norm_num
          _ ≤ 2 ^ binary64.eMax := zpow_le_zpow_right₀ (by norm_num) (by decide)
          _ ≤ binary64.overflowBound := zpow_eMax_le_overflowBound
  obtain ⟨hlt, hfin, hval⟩ := bitsOfRatio_exact hd hx hm hk hov
  rw [hw, ofRatio_toBits _ hlt hfin.not_isNaN, value_eq_sign_mul (F := binary16) h, ← hx, ← hval]
  cases hneg : binary16.negative h
  · simp only [Bool.false_eq_true, ↓reduceIte, one_mul, and_true]
    exact ⟨hfin, negative_of_lt hlt⟩
  · simp only [↓reduceIte, neg_one_mul]
    exact ⟨isFinite_negate.mpr hfin, by rw [negative_negate, negative_of_lt hlt]; rfl,
      value_negate _⟩

theorem widen_of_isInf {h : Nat} (hi : binary16.IsInf h) :
    binary64.IsInf (widen h).toNat ∧ binary64.negative (widen h).toNat = binary16.negative h := by
  have he : h / 0x400 % 32 = 31 := hi.1
  have hf : h % 0x400 = 0 := hi.2
  have hpat : (widen h).toNat = if binary16.negative h then binary64.negate binary64.infinity
      else binary64.infinity := by
    unfold widen
    dsimp only
    rw [if_pos he, if_pos hf, binary16_negative]
    by_cases hneg : h / 0x8000 % 2 = 1
    · rw [if_pos hneg, decide_eq_true hneg]
      decide
    · rw [if_neg hneg, decide_eq_false hneg]
      decide
  rw [hpat]
  cases binary16.negative h
  · exact ⟨isInf_infinity, negative_infinity⟩
  · simp only [↓reduceIte]
    exact ⟨isInf_negate.mpr isInf_infinity, by rw [negative_negate, negative_infinity]; rfl⟩

theorem widen_of_isNaN {h : Nat} (hn : binary16.IsNaN h) :
    binary64.IsNaN (widen h).toNat ∧ binary64.negative (widen h).toNat = binary16.negative h := by
  have he : h / 0x400 % 32 = 31 := hn.1
  have hf : h % 0x400 ≠ 0 := hn.2
  have hor : h % 0x400 ||| 0x200 < 2 ^ 10 :=
    Nat.or_lt_two_pow (Nat.mod_lt _ (by decide)) (by decide)
  have hfrac : (h % 0x400 ||| 0x200) <<< 42 < 2 ^ 52 := by
    rw [Nat.shiftLeft_eq]
    omega
  have hpat : (widen h).toNat =
      binary64.encode (binary16.negative h) 2047 ((h % 0x400 ||| 0x200) <<< 42) := by
    unfold widen
    dsimp only
    rw [if_pos he, if_neg hf, binary16_negative, Nat.toUInt64_eq, UInt64.toNat_ofNat']
    by_cases hneg : h / 0x8000 % 2 = 1
    · rw [if_pos hneg, decide_eq_true hneg]
      simp only [encode, Bool.toNat_true, binary64_fracBits, show binary64.expBits = 11 from rfl]
      omega
    · rw [if_neg hneg, decide_eq_false hneg]
      simp only [encode, Bool.toNat_false, binary64_fracBits, show binary64.expBits = 11 from rfl]
      omega
  rw [hpat]
  refine ⟨⟨field_encode (by decide) hfrac _, ?_⟩, negative_encode (by decide) hfrac _⟩
  rw [frac_encode hfrac, Nat.shiftLeft_eq]
  have : 0x200 ≤ h % 0x400 ||| 0x200 := Nat.right_le_or
  exact Nat.ne_of_gt (Nat.mul_pos (by omega) (Nat.two_pow_pos _))

/-! ### Narrowing -/

/-- Rounding the binary64 pattern `b`, no NaN, to the binary16 pattern `h`, to nearest with ties
to even: the sign is kept; an infinity, or a magnitude from `65520` on, goes to the infinity of
its sign; any other number to the nearest binary16 number, the even pattern of two as near. -/
structure RoundsTo (b h : Nat) : Prop where
  lt : h < 2 ^ 16
  sign : binary16.negative h = binary64.negative b
  overflow : binary64.IsInf b ∨ 65520 ≤ |binary64.value b| → binary16.IsInf h
  nearest : binary64.IsFinite b → |binary64.value b| < 65520 →
    binary16.Nearest (binary64.value b) h

theorem RoundsTo.of_magnitude {b w : Nat} (hw : w < 2 ^ 15)
    (hinf : binary64.IsInf b ∨ 65520 ≤ |binary64.value b| → binary16.IsInf w)
    (hnear : binary64.IsFinite b → |binary64.value b| < 65520 →
      binary16.Nearest |binary64.value b| w) :
    RoundsTo b (if binary64.negative b then binary16.negate w else w) := by
  have hpos : binary16.negative w = false := negative_of_lt hw
  have hnegate : binary16.negate w = 2 ^ 15 + w := negate_of_lt hw
  cases hneg : binary64.negative b
  · have habs : |binary64.value b| = binary64.value b := abs_of_nonneg (value_nonneg hneg)
    simp only [Bool.false_eq_true, ↓reduceIte]
    refine ⟨by omega, hpos.trans hneg.symm, hinf, fun hf hlt => ?_⟩
    have := hnear hf hlt
    rwa [habs] at this
  · have habs : |binary64.value b| = -binary64.value b := abs_of_nonpos (value_nonpos hneg)
    simp only [↓reduceIte]
    refine ⟨by omega, by rw [negative_negate, hpos, hneg]; rfl, fun h => isInf_negate.mpr (hinf h),
      fun hf hlt => ?_⟩
    have := (hnear hf hlt).negate
    rwa [habs, neg_neg] at this

theorem sign_add {w : Nat} (hw : w < 2 ^ 15) (neg : Bool) :
    (if neg then 0x8000 else 0) + w = if neg then binary16.negate w else w := by
  cases neg
  · simp
  · simp only [↓reduceIte]
    rw [negate_of_lt hw]
    rfl

theorem narrow_sign (bits : UInt64) :
    (if bits.toNat >>> 63 = 1 then 0x8000 else 0) =
      if binary64.negative bits.toNat then 0x8000 else 0 := by
  rw [binary64_negative bits.toNat_lt, Nat.shiftRight_eq_div_pow]
  simp

theorem narrow_eq_writeRounded {bits : UInt64} (hf : binary64.IsFinite bits.toNat)
    (h0 : binary64.significand bits.toNat ≠ 0) {s : Int}
    (hs : s = max ((binary64.significand bits.toNat).log2 + binary64.exponent bits.toNat - 10) (-24)) :
    narrow bits = (if binary64.negative bits.toNat then 0x8000 else 0) +
      binary16.writeRounded
        (nearestEven (shiftPair (binary64.significand bits.toNat) 1 (binary64.exponent bits.toNat - s)).1
          (shiftPair (binary64.significand bits.toNat) 1 (binary64.exponent bits.toNat - s)).2) s := by
  have hfield : (bits.toNat >>> 52) % 2048 ≠ 2047 := by
    rw [Nat.shiftRight_eq_div_pow]
    exact hf
  unfold narrow
  dsimp only
  rw [if_neg hfield, parts_ofBits hf.not_isNaN]
  dsimp only
  rw [if_neg h0, ← hs, narrow_sign]
  generalize shiftPair (binary64.significand bits.toNat) 1 (binary64.exponent bits.toNat - s) = q
  unfold nearestEven
  generalize (if 2 * (q.1 % q.2) > q.2 ∨ (2 * (q.1 % q.2) = q.2 ∧ q.1 / q.2 % 2 = 1) then
    q.1 / q.2 + 1 else q.1 / q.2) = quo
  generalize (if binary64.negative bits.toNat = true then 0x8000 else 0) = sign
  simp only [writeRounded, Interchange.infinity, encode, Nat.pow_eq, Bool.toNat_false,
    Nat.zero_mul, Nat.zero_add, Nat.add_zero, show binary16.fracBits = 10 from rfl,
    show binary16.bias = 15 from rfl, show binary16.expMax = 31 from rfl]
  split_ifs <;> omega

theorem narrow_rounding {bits : UInt64} (hf : binary64.IsFinite bits.toNat)
    (h0 : binary64.significand bits.toNat ≠ 0) :
    ∃ w, binary16.Rounding |binary64.value bits.toNat| w ∧
      narrow bits = (if binary64.negative bits.toNat then 0x8000 else 0) + w := by
  set m := binary64.significand bits.toNat with hm
  set x := binary64.exponent bits.toNat with hx
  have hpos : (0 : ℚ) < 2 ^ x := zpow_pos two_pos x
  have habs : |binary64.value bits.toNat| = m * 2 ^ x := by
    rw [value_eq_sign_mul, abs_mul, abs_of_nonneg (a := (m : ℚ) * 2 ^ x) (by positivity)]
    split <;> simp
  obtain ⟨hlo, hhi⟩ := log2_bounds (Nat.pos_of_ne_zero h0)
  set s := max ((m.log2 : Int) + x - 10) (-24) with hs
  refine ⟨_, ⟨(m.log2 : Int) + x, s, _, ?_, ?_, hs, ?_, rfl⟩, narrow_eq_writeRounded hf h0 hs⟩
  · rw [habs, zpow_add₀ two_ne_zero]
    exact mul_le_mul_of_nonneg_right hlo hpos.le
  · rw [habs, add_right_comm, zpow_add₀ two_ne_zero]
    exact mul_lt_mul_of_pos_right hhi hpos
  · -- the scaled pair is the magnitude in units of `2^s`
    have hratio := shiftPair_ratio m 1 (x - s)
    rw [Nat.cast_one, div_one, zpow_sub₀ two_ne_zero, ← mul_div_assoc] at hratio
    rw [habs, ← hratio]
    exact nearestEven_isNearestEven (shiftPair_snd_pos one_pos _)

theorem narrow_of_isInf {bits : UInt64} (hi : binary64.IsInf bits.toNat) :
    narrow bits = if binary64.negative bits.toNat then binary16.negate binary16.infinity
      else binary16.infinity := by
  have hfield : (bits.toNat >>> 52) % 2048 = 2047 := by
    rw [Nat.shiftRight_eq_div_pow]
    exact hi.1
  unfold narrow
  dsimp only
  rw [if_pos hfield, if_pos (show bits.toNat % Nat.pow 2 52 = 0 from hi.2), narrow_sign,
    ← sign_add (by decide)]
  rfl

theorem narrow_of_significand_eq_zero {bits : UInt64} (hf : binary64.IsFinite bits.toNat)
    (h0 : binary64.significand bits.toNat = 0) :
    narrow bits = if binary64.negative bits.toNat then binary16.negate 0 else 0 := by
  have hfield : (bits.toNat >>> 52) % 2048 ≠ 2047 := by
    rw [Nat.shiftRight_eq_div_pow]
    exact hf
  unfold narrow
  dsimp only
  rw [if_neg hfield, parts_ofBits hf.not_isNaN]
  dsimp only
  rw [if_pos h0, narrow_sign, ← sign_add (by decide), Nat.add_zero]

theorem narrow_roundsTo {bits : UInt64} (hnan : ¬binary64.IsNaN bits.toNat) :
    RoundsTo bits.toNat (narrow bits) := by
  by_cases hf : binary64.IsFinite bits.toNat
  · by_cases h0 : binary64.significand bits.toNat = 0
    · -- a zero keeps its sign
      have hv : binary64.value bits.toNat = 0 := by
        rw [value_eq_sign_mul, h0]
        simp
      rw [narrow_of_significand_eq_zero hf h0]
      refine RoundsTo.of_magnitude (by decide) (fun h => ?_) (fun _ _ => ?_)
      · rw [hv, abs_zero] at h
        rcases h with h | h
        · exact absurd h hf.not_isInf
        · norm_num at h
      · rw [hv, abs_zero]
        exact nearest_zero _
    · obtain ⟨w, hw, hnarrow⟩ := narrow_rounding hf h0
      by_cases hov : 65520 ≤ |binary64.value bits.toNat|
      · -- past the overflow bound: the infinity of the sign
        have hinf := hw.eq_infinity (by rwa [binary16_overflowBound])
        rw [hnarrow, hinf, sign_add (by decide)]
        exact RoundsTo.of_magnitude (by decide) (fun _ => isInf_infinity)
          (fun _ hlt => absurd hov (not_le.mpr hlt))
      · obtain ⟨hlt, hnear⟩ := hw.nearest (by rwa [binary16_overflowBound, ← not_le])
        rw [hnarrow, sign_add hlt]
        exact RoundsTo.of_magnitude hlt
          (fun h => absurd h (not_or.mpr ⟨hf.not_isInf, hov⟩)) (fun _ _ => hnear)
  · -- an infinity keeps its sign
    have hi : binary64.IsInf bits.toNat :=
      ⟨not_not.mp hf, not_not.mp fun h => hnan ⟨not_not.mp hf, h⟩⟩
    rw [narrow_of_isInf hi]
    exact RoundsTo.of_magnitude (by decide) (fun _ => isInf_infinity) (fun h => absurd h hf)

theorem narrow_eq_of_isNaN {bits : UInt64} (hn : binary64.IsNaN bits.toNat) :
    ∃ f, f ≠ 0 ∧ f < 2 ^ 10 ∧ narrow bits = binary16.encode (binary64.negative bits.toNat) 31 f := by
  have hfield : (bits.toNat >>> 52) % 2048 = 2047 := by
    rw [Nat.shiftRight_eq_div_pow]
    exact hn.1
  have hfrac : bits.toNat % Nat.pow 2 52 ≠ 0 := hn.2
  have htop : bits.toNat % Nat.pow 2 52 / Nat.pow 2 42 < 2 ^ 10 := by
    rw [Nat.pow_eq, Nat.pow_eq, Nat.div_lt_iff_lt_mul (Nat.two_pow_pos _), ← Nat.pow_add]
    exact Nat.mod_lt _ (Nat.two_pow_pos _)
  unfold narrow
  dsimp only
  rw [if_pos hfield, if_neg hfrac, narrow_sign]
  generalize bits.toNat % Nat.pow 2 52 / Nat.pow 2 42 = t at htop ⊢
  by_cases hz : t = 0
  · refine ⟨1, one_ne_zero, by decide, ?_⟩
    rw [hz, Nat.add_zero, if_pos rfl]
    cases binary64.negative bits.toNat <;> rfl
  · refine ⟨t, hz, htop, ?_⟩
    rw [if_neg (show 0x7C00 + t ≠ 0x7C00 by omega)]
    cases binary64.negative bits.toNat <;>
      simp only [encode, Bool.toNat_false, Bool.toNat_true, Bool.false_eq_true, ↓reduceIte,
        show binary16.expBits = 5 from rfl, show binary16.fracBits = 10 from rfl] <;> omega

theorem narrow_of_isNaN {bits : UInt64} (hn : binary64.IsNaN bits.toNat) :
    binary16.IsNaN (narrow bits) ∧ binary16.negative (narrow bits) = binary64.negative bits.toNat := by
  obtain ⟨f, hf0, hf, hpat⟩ := narrow_eq_of_isNaN hn
  rw [hpat]
  exact ⟨⟨field_encode (by decide) hf _, by rw [frac_encode hf]; exact hf0⟩,
    negative_encode (by decide) hf _⟩

theorem narrow_lt (bits : UInt64) : narrow bits < 2 ^ 16 := by
  by_cases hn : binary64.IsNaN bits.toNat
  · obtain ⟨f, -, hf, hpat⟩ := narrow_eq_of_isNaN hn
    rw [hpat]
    exact encode_lt_succ (by decide) hf _
  · exact (narrow_roundsTo hn).lt

theorem narrow_widen {h : Nat} (hh : h < 2 ^ 16) (hn : ¬binary16.IsNaN h) :
    narrow (widen h) = h := by
  by_cases hf : binary16.IsFinite h
  · obtain ⟨hwf, hwneg, hwval⟩ := widen_of_isFinite hf
    have hr := narrow_roundsTo hwf.not_isNaN
    have hnear := hr.nearest hwf (by
      rw [hwval, ← binary16_overflowBound]
      exact abs_value_lt_overflowBound hf)
    rw [hwval] at hnear
    -- a binary16 number is its own nearest binary16 number
    have hval : binary16.value (narrow (widen h)) = binary16.value h := by
      have := hnear.le h hf
      rw [sub_self, abs_zero] at this
      exact sub_eq_zero.mp (abs_nonpos_iff.mp this)
    exact eq_of_value_eq (F := binary16) hr.lt hh (hr.sign.trans hwneg) hval
  · obtain ⟨hwi, hwneg⟩ := widen_of_isInf (isInf_of_not_isFinite hf hn)
    have hr := narrow_roundsTo (fun h' => hwi.not_isNaN h')
    exact eq_of_isInf (F := binary16) hr.lt hh (hr.overflow (.inl hwi)) (isInf_of_not_isFinite hf hn)
      (hr.sign.trans hwneg)

/-- `y` is the binary64 number `x` rounded to binary16, to nearest with ties to even, and read
back as a binary64 number: a NaN stays a NaN, the sign is kept, `y` is infinite where `x` is
infinite or at least `65520` in magnitude, and elsewhere `y` is the nearest binary16 number. -/
structure RoundsToHalf (x y : Nat) : Prop where
  nan : binary64.IsNaN x → binary64.IsNaN y
  sign : binary64.negative y = binary64.negative x
  overflow : binary64.IsInf x ∨ binary64.IsFinite x ∧ 65520 ≤ |binary64.value x| →
    binary64.IsInf y
  nearest : binary64.IsFinite x → |binary64.value x| < 65520 →
    ∃ h, binary16.Nearest (binary64.value x) h ∧ binary64.IsFinite y ∧
      binary64.value y = binary16.value h

theorem widen_narrow_roundsToHalf (bits : UInt64) :
    RoundsToHalf bits.toNat (widen (narrow bits)).toNat := by
  by_cases hnan : binary64.IsNaN bits.toNat
  · obtain ⟨hn, hneg⟩ := narrow_of_isNaN hnan
    obtain ⟨hwn, hwneg⟩ := widen_of_isNaN hn
    refine ⟨fun _ => hwn, hwneg.trans hneg, fun h => ?_, fun hf => absurd hnan hf.not_isNaN⟩
    rcases h with h | h
    · exact absurd hnan h.not_isNaN
    · exact absurd hnan h.1.not_isNaN
  have hr := narrow_roundsTo hnan
  -- the cases are those of the binary64 number: in the range of binary16 or past it
  by_cases hsmall : binary64.IsFinite bits.toNat ∧ |binary64.value bits.toNat| < 65520
  · have hnear := hr.nearest hsmall.1 hsmall.2
    obtain ⟨hwf, hwneg, hwval⟩ := widen_of_isFinite hnear.finite
    refine ⟨fun h => absurd h hnan, hwneg.trans hr.sign, fun h => ?_,
      fun _ _ => ⟨_, hnear, hwf, hwval⟩⟩
    rcases h with h | h
    · exact absurd h hsmall.1.not_isInf
    · exact absurd hsmall.2 (not_lt.mpr h.2)
  · have hover : binary64.IsInf bits.toNat ∨ 65520 ≤ |binary64.value bits.toNat| := by
      by_cases hf : binary64.IsFinite bits.toNat
      · exact .inr (not_lt.mp fun h => hsmall ⟨hf, h⟩)
      · exact .inl (isInf_of_not_isFinite hf hnan)
    obtain ⟨hwi, hwneg⟩ := widen_of_isInf (hr.overflow hover)
    exact ⟨fun h => absurd h hnan, hwneg.trans hr.sign, fun _ => hwi,
      fun hf hlt => absurd ⟨hf, hlt⟩ hsmall⟩

end Lighthouse.Half
