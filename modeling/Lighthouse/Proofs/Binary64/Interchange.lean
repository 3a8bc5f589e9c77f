import Lighthouse.Binary64
import Mathlib.Data.Nat.Bitwise
import Mathlib.Tactic.SplitIfs
import Mathlib.Algebra.Order.Field.Power
import Mathlib.Tactic.Positivity
import Mathlib.Tactic.Linarith
import Mathlib.Tactic.Ring
/-!
# Interchange formats

An IEEE 754 binary interchange format packs a number into a sign bit, an exponent field and a
fraction field. `Interchange.value` reads a finite pattern as the rational number it stands
for, whatever the widths, so that binary16 and binary64 patterns are read by one definition.

`Float` is, in the logic, a bit pattern that keeps every pattern but the NaNs:
`toBits_ofBits` says that a pattern that is no NaN comes back unchanged from `Float.ofBits`,
and `parts_ofBits` reads `Binary64.parts` off the fields of the pattern.
-/
namespace Lighthouse

/-- An IEEE 754 binary interchange format: the widths of its exponent and fraction fields. -/
structure Interchange where
  expBits : Nat
  fracBits : Nat
  /-- Room for the normal exponents besides zero and the infinities. -/
  two_le_expBits : 2 ≤ expBits
  /-- A fraction bit, which makes the parity of a pattern that of its significand. -/
  fracBits_pos : 0 < fracBits

namespace Interchange

def binary16 : Interchange := ⟨5, 10, by decide, by decide⟩

def binary64 : Interchange := ⟨11, 52, by decide, by decide⟩

variable (F : Interchange)

/-- The exponent field of infinities and NaNs. -/
def expMax : Nat := 2 ^ F.expBits - 1

/-- The exponent bias. -/
def bias : Nat := 2 ^ (F.expBits - 1) - 1

def field (n : Nat) : Nat := n / 2 ^ F.fracBits % 2 ^ F.expBits

def frac (n : Nat) : Nat := n % 2 ^ F.fracBits

def negative (n : Nat) : Bool := n / 2 ^ (F.expBits + F.fracBits) % 2 = 1

/-- A NaN: the largest exponent field with a fraction. -/
def IsNaN (n : Nat) : Prop := F.field n = F.expMax ∧ F.frac n ≠ 0

/-- An infinity: the largest exponent field without a fraction. -/
def IsInf (n : Nat) : Prop := F.field n = F.expMax ∧ F.frac n = 0

/-- A finite number: a zero, a subnormal or a normal number. -/
def IsFinite (n : Nat) : Prop := F.field n ≠ F.expMax

instance (n : Nat) : Decidable (F.IsNaN n) := inferInstanceAs (Decidable (_ ∧ _))
instance (n : Nat) : Decidable (F.IsInf n) := inferInstanceAs (Decidable (_ ∧ _))
instance (n : Nat) : Decidable (F.IsFinite n) := inferInstanceAs (Decidable (¬_ = _))

/-- The integer significand of a finite pattern: the fraction, with the implicit bit unless the
number is subnormal. -/
def significand (n : Nat) : Nat := if F.field n = 0 then F.frac n else 2 ^ F.fracBits + F.frac n

/-- The power of two the significand of a finite pattern is scaled by. -/
def exponent (n : Nat) : Int := (max (F.field n) 1 : Nat) - (F.bias : Int) - F.fracBits

def value (n : Nat) : ℚ :=
  (if F.negative n then -1 else 1) * F.significand n * (2 : ℚ) ^ F.exponent n

/-- The pattern of a sign, an exponent field and a fraction field. -/
def encode (neg : Bool) (e f : Nat) : Nat := (neg.toNat * 2 ^ F.expBits + e) * 2 ^ F.fracBits + f

section Encode

variable {F} {e f : Nat}

theorem encode_div (hf : f < 2 ^ F.fracBits) (neg : Bool) :
    F.encode neg e f / 2 ^ F.fracBits = neg.toNat * 2 ^ F.expBits + e := by
  rw [encode, Nat.add_comm, Nat.add_mul_div_right _ _ (Nat.two_pow_pos _), Nat.div_eq_of_lt hf,
    Nat.zero_add]

theorem field_encode (he : e < 2 ^ F.expBits) (hf : f < 2 ^ F.fracBits) (neg : Bool) :
    F.field (F.encode neg e f) = e := by
  rw [field, encode_div hf, Nat.mul_add_mod_of_lt he]

theorem frac_encode (hf : f < 2 ^ F.fracBits) (neg : Bool) : F.frac (F.encode neg e f) = f := by
  rw [frac, encode, Nat.mul_add_mod_of_lt hf]

theorem negative_encode (he : e < 2 ^ F.expBits) (hf : f < 2 ^ F.fracBits) (neg : Bool) :
    F.negative (F.encode neg e f) = neg := by
  have hdiv : F.encode neg e f / 2 ^ (F.expBits + F.fracBits) = neg.toNat := by
    rw [Nat.pow_add, Nat.mul_comm, ← Nat.div_div_eq_div_mul, encode_div hf, Nat.add_comm,
      Nat.add_mul_div_right _ _ (Nat.two_pow_pos _), Nat.div_eq_of_lt he, Nat.zero_add]
  unfold negative
  rw [hdiv]
  cases neg <;> rfl

theorem value_encode (he : e < 2 ^ F.expBits) (hf : f < 2 ^ F.fracBits) (neg : Bool) :
    F.value (F.encode neg e f) =
      (if neg then -1 else 1) * ((if e = 0 then f else 2 ^ F.fracBits + f : Nat) : ℚ) *
        (2 : ℚ) ^ ((max e 1 : Nat) - (F.bias : Int) - F.fracBits) := by
  unfold value significand exponent
  rw [field_encode he hf, frac_encode hf, negative_encode he hf]

theorem encode_lt (he : e < 2 ^ F.expBits) (hf : f < 2 ^ F.fracBits) :
    F.encode false e f < 2 ^ (F.expBits + F.fracBits) := by
  have hle : (e + 1) * 2 ^ F.fracBits ≤ 2 ^ F.expBits * 2 ^ F.fracBits :=
    Nat.mul_le_mul_right _ he
  rw [Nat.pow_add]
  unfold encode
  rw [Bool.toNat_false, Nat.zero_mul, Nat.zero_add]
  rw [Nat.add_mul, Nat.one_mul] at hle
  omega

theorem encode_lt_succ (he : e < 2 ^ F.expBits) (hf : f < 2 ^ F.fracBits) (neg : Bool) :
    F.encode neg e f < 2 ^ (F.expBits + F.fracBits + 1) := by
  have hle : (e + 1) * 2 ^ F.fracBits ≤ 2 ^ F.expBits * 2 ^ F.fracBits :=
    Nat.mul_le_mul_right _ he
  have hneg : neg.toNat ≤ 1 := Bool.toNat_le neg
  rw [Nat.pow_succ, Nat.pow_add]
  unfold encode
  rw [Nat.add_mul, Nat.one_mul] at hle
  rw [Nat.add_mul, Nat.mul_assoc]
  have : neg.toNat * (2 ^ F.expBits * 2 ^ F.fracBits) ≤ 2 ^ F.expBits * 2 ^ F.fracBits := by
    calc neg.toNat * (2 ^ F.expBits * 2 ^ F.fracBits) ≤ 1 * (2 ^ F.expBits * 2 ^ F.fracBits) :=
          Nat.mul_le_mul_right _ hneg
      _ = _ := Nat.one_mul _
  omega

theorem encode_mod_two (neg : Bool) (e f : Nat) : F.encode neg e f % 2 = f % 2 := by
  have h2 : 2 ∣ 2 ^ F.fracBits := dvd_pow_self 2 (Nat.pos_iff_ne_zero.mp F.fracBits_pos)
  unfold encode
  rw [Nat.add_mod, Nat.mul_mod, Nat.mod_eq_zero_of_dvd h2]
  simp

theorem isFinite_encode (he : e < 2 ^ F.expBits) (hf : f < 2 ^ F.fracBits) (neg : Bool)
    (hmax : e ≠ F.expMax) : F.IsFinite (F.encode neg e f) := by
  unfold IsFinite
  rw [field_encode he hf]
  exact hmax

end Encode

def infinity : Nat := F.encode false F.expMax 0

/-- The pattern of the same magnitude and the other sign. -/
def negate (n : Nat) : Nat := F.encode (!F.negative n) (F.field n) (F.frac n)

section Values

variable {F}

theorem expMax_eq : F.expMax = 2 * F.bias + 1 := by
  have h := F.two_le_expBits
  have hpow : 2 ^ F.expBits = 2 * 2 ^ (F.expBits - 1) := by
    rw [← Nat.pow_succ', Nat.succ_eq_add_one, Nat.sub_add_cancel (by omega)]
  have hpos : 1 ≤ 2 ^ (F.expBits - 1) := Nat.one_le_two_pow
  unfold expMax bias
  omega

theorem one_le_bias : 1 ≤ F.bias := by
  have h : 2 ≤ 2 ^ (F.expBits - 1) := by
    calc 2 = 2 ^ 1 := rfl
      _ ≤ 2 ^ (F.expBits - 1) := Nat.pow_le_pow_right (by decide) (by have := F.two_le_expBits; omega)
  unfold bias
  omega

theorem expMax_lt : F.expMax < 2 ^ F.expBits := by
  unfold expMax
  have := Nat.two_pow_pos F.expBits
  omega

theorem field_lt (n : Nat) : F.field n < 2 ^ F.expBits := Nat.mod_lt _ (Nat.two_pow_pos _)

theorem frac_lt (n : Nat) : F.frac n < 2 ^ F.fracBits := Nat.mod_lt _ (Nat.two_pow_pos _)

theorem significand_lt (n : Nat) : F.significand n < 2 ^ (F.fracBits + 1) := by
  have hf := frac_lt (F := F) n
  unfold significand
  rw [Nat.pow_succ]
  split <;> omega

theorem IsFinite.not_isNaN {n : Nat} (h : F.IsFinite n) : ¬F.IsNaN n := fun hn => h hn.1

theorem IsFinite.not_isInf {n : Nat} (h : F.IsFinite n) : ¬F.IsInf n := fun hn => h hn.1

theorem IsInf.not_isNaN {n : Nat} (h : F.IsInf n) : ¬F.IsNaN n := fun hn => hn.2 h.2

theorem isInf_of_not_isFinite {n : Nat} (hf : ¬F.IsFinite n) (hn : ¬F.IsNaN n) : F.IsInf n :=
  ⟨not_not.mp hf, not_not.mp fun h => hn ⟨not_not.mp hf, h⟩⟩

theorem value_zero : F.value 0 = 0 := by
  simp [value, significand, field, frac]

theorem value_of_negative_false {n : Nat} (hn : F.negative n = false) :
    F.value n = F.significand n * 2 ^ F.exponent n := by
  simp [value, hn]

theorem value_nonpos {n : Nat} (hn : F.negative n = true) : F.value n ≤ 0 := by
  have h : (0 : ℚ) ≤ F.significand n * 2 ^ F.exponent n := by positivity
  simp only [value, hn, if_true]
  linarith

theorem value_nonneg {n : Nat} (hn : F.negative n = false) : 0 ≤ F.value n := by
  rw [value_of_negative_false hn]
  positivity

theorem isInf_infinity : F.IsInf F.infinity := by
  unfold IsInf infinity
  rw [field_encode expMax_lt (Nat.two_pow_pos _), frac_encode (Nat.two_pow_pos _)]
  exact ⟨rfl, rfl⟩

theorem negative_infinity : F.negative F.infinity = false :=
  negative_encode expMax_lt (Nat.two_pow_pos _) false

theorem negative_negate (n : Nat) : F.negative (F.negate n) = !F.negative n :=
  negative_encode (field_lt n) (frac_lt n) _

theorem field_negate (n : Nat) : F.field (F.negate n) = F.field n :=
  field_encode (field_lt n) (frac_lt n) _

theorem value_negate (n : Nat) : F.value (F.negate n) = -F.value n := by
  have hs : F.significand (F.negate n) = F.significand n := by
    unfold significand
    rw [field_negate, negate, frac_encode (frac_lt n)]
  have he : F.exponent (F.negate n) = F.exponent n := by
    unfold exponent
    rw [field_negate]
  unfold value
  rw [negative_negate, hs, he]
  cases F.negative n <;> simp

theorem frac_negate (n : Nat) : F.frac (F.negate n) = F.frac n :=
  frac_encode (frac_lt n) _

theorem isNaN_negate {n : Nat} : F.IsNaN (F.negate n) ↔ F.IsNaN n := by
  unfold IsNaN
  rw [field_negate, frac_negate]

theorem isInf_negate {n : Nat} : F.IsInf (F.negate n) ↔ F.IsInf n := by
  unfold IsInf
  rw [field_negate, frac_negate]

theorem isFinite_negate {n : Nat} : F.IsFinite (F.negate n) ↔ F.IsFinite n := by
  unfold IsFinite
  rw [field_negate]

theorem negate_mod_two (n : Nat) : F.negate n % 2 = n % 2 := by
  have h2 : 2 ∣ 2 ^ F.fracBits := dvd_pow_self 2 (Nat.pos_iff_ne_zero.mp F.fracBits_pos)
  rw [negate, encode_mod_two, frac, Nat.mod_mod_of_dvd n h2]

theorem negative_of_lt {n : Nat} (hn : n < 2 ^ (F.expBits + F.fracBits)) : F.negative n = false := by
  unfold negative
  rw [Nat.div_eq_of_lt hn]
  rfl

theorem negate_of_lt {n : Nat} (hn : n < 2 ^ (F.expBits + F.fracBits)) :
    F.negate n = 2 ^ (F.expBits + F.fracBits) + n := by
  have hneg := negative_of_lt hn
  have hfield : F.field n = n / 2 ^ F.fracBits := by
    unfold field
    rw [Nat.mod_eq_of_lt]
    rw [Nat.div_lt_iff_lt_mul (Nat.two_pow_pos _), ← Nat.pow_add]
    exact hn
  unfold negate encode
  rw [hneg, hfield, Bool.not_false, Bool.toNat_true, Nat.one_mul, Nat.add_mul, ← Nat.pow_add,
    Nat.add_assoc, frac, Nat.mul_comm, Nat.div_add_mod]

theorem encode_fields {n : Nat} (hn : n < 2 ^ (F.expBits + F.fracBits + 1)) :
    F.encode (F.negative n) (F.field n) (F.frac n) = n := by
  have htop : n / 2 ^ (F.expBits + F.fracBits) < 2 := by
    rw [Nat.div_lt_iff_lt_mul (Nat.two_pow_pos _), Nat.mul_comm, ← Nat.pow_succ]
    exact hn
  have hneg : (F.negative n).toNat = n / 2 ^ F.fracBits / 2 ^ F.expBits := by
    rw [Nat.div_div_eq_div_mul, ← Nat.pow_add, Nat.add_comm F.fracBits]
    unfold negative
    obtain h | h : n / 2 ^ (F.expBits + F.fracBits) = 0 ∨ n / 2 ^ (F.expBits + F.fracBits) = 1 := by
      generalize n / 2 ^ (F.expBits + F.fracBits) = q at htop
      omega
    all_goals simp [h]
  unfold encode field frac
  rw [hneg, Nat.mul_comm _ (2 ^ F.expBits), Nat.div_add_mod, Nat.mul_comm, Nat.div_add_mod]

theorem value_eq_sign_mul (n : Nat) :
    F.value n = (if F.negative n then -1 else 1) * (F.significand n * 2 ^ F.exponent n) := by
  rw [value, mul_assoc]

theorem magnitude_lt (n : Nat) :
    (F.significand n : ℚ) * 2 ^ F.exponent n < 2 ^ ((F.field n : Int) + 1 - F.bias) := by
  have hf : (F.frac n : ℚ) < 2 ^ F.fracBits := by exact_mod_cast frac_lt n
  have hsplit : ∀ a : Int, (2 : ℚ) ^ (a + 1 - F.bias) =
      2 ^ F.fracBits * 2 ^ (a + 1 - F.bias - F.fracBits) := fun a => by
    rw [← zpow_natCast, ← zpow_add₀ two_ne_zero]
    congr 1
    ring
  have hpos : ∀ a : Int, (0 : ℚ) < 2 ^ a := fun a => zpow_pos two_pos a
  unfold significand exponent
  by_cases h0 : F.field n = 0
  · rw [if_pos h0, h0, hsplit]
    push_cast
    exact mul_lt_mul_of_pos_right hf (hpos _)
  · rw [if_neg h0, max_eq_left (Nat.one_le_iff_ne_zero.mpr h0), hsplit,
      show (F.field n : Int) + 1 - F.bias - F.fracBits = (F.field n : Int) - F.bias - F.fracBits + 1
        by ring, zpow_add_one₀ two_ne_zero]
    push_cast
    nlinarith [hpos ((F.field n : Int) - F.bias - F.fracBits)]

theorem le_magnitude {n : Nat} (h0 : F.field n ≠ 0) :
    (2 : ℚ) ^ ((F.field n : Int) - F.bias) ≤ F.significand n * 2 ^ F.exponent n := by
  unfold significand exponent
  rw [if_neg h0, max_eq_left (Nat.one_le_iff_ne_zero.mpr h0)]
  calc (2 : ℚ) ^ ((F.field n : Int) - F.bias)
      = 2 ^ F.fracBits * 2 ^ ((F.field n : Int) - F.bias - F.fracBits) := by
        rw [← zpow_natCast, ← zpow_add₀ two_ne_zero]
        congr 1
        ring
    _ ≤ ((2 ^ F.fracBits + F.frac n : Nat) : ℚ) * 2 ^ ((F.field n : Int) - F.bias - F.fracBits) := by
        gcongr
        push_cast
        linarith [(Nat.cast_nonneg (F.frac n) : (0 : ℚ) ≤ F.frac n)]

theorem magnitude_lt_of_field_lt {n m : Nat} (h : F.field n < F.field m) :
    (F.significand n : ℚ) * 2 ^ F.exponent n < F.significand m * 2 ^ F.exponent m :=
  calc (F.significand n : ℚ) * 2 ^ F.exponent n < 2 ^ ((F.field n : Int) + 1 - F.bias) :=
        magnitude_lt n
    _ ≤ 2 ^ ((F.field m : Int) - F.bias) := zpow_le_zpow_right₀ (by norm_num) (by omega)
    _ ≤ F.significand m * 2 ^ F.exponent m := le_magnitude (by omega)

theorem eq_of_value_eq {n m : Nat} (hn : n < 2 ^ (F.expBits + F.fracBits + 1))
    (hm : m < 2 ^ (F.expBits + F.fracBits + 1)) (hneg : F.negative n = F.negative m)
    (hv : F.value n = F.value m) : n = m := by
  have hmag : (F.significand n : ℚ) * 2 ^ F.exponent n = F.significand m * 2 ^ F.exponent m := by
    rw [value_eq_sign_mul, value_eq_sign_mul, hneg] at hv
    cases hs : F.negative m <;> simpa [hs] using hv
  -- the binades are disjoint, so the exponent fields agree, and then the significands
  have hfield : F.field n = F.field m := by
    rcases lt_trichotomy (F.field n) (F.field m) with h | h | h
    · exact absurd hmag (magnitude_lt_of_field_lt h).ne
    · exact h
    · exact absurd hmag.symm (magnitude_lt_of_field_lt h).ne
  have hexp : F.exponent n = F.exponent m := by
    unfold exponent
    rw [hfield]
  have hsig : F.significand n = F.significand m := by
    rw [hexp] at hmag
    exact_mod_cast mul_right_cancel₀ (zpow_ne_zero _ two_ne_zero) hmag
  have hfrac : F.frac n = F.frac m := by
    unfold significand at hsig
    rw [hfield] at hsig
    split_ifs at hsig <;> omega
  rw [← encode_fields hn, ← encode_fields hm, hneg, hfield, hfrac]

theorem eq_of_isInf {n m : Nat} (hn : n < 2 ^ (F.expBits + F.fracBits + 1))
    (hm : m < 2 ^ (F.expBits + F.fracBits + 1)) (hin : F.IsInf n) (him : F.IsInf m)
    (hneg : F.negative n = F.negative m) : n = m := by
  rw [← encode_fields hn, ← encode_fields hm, hneg, hin.1, him.1, hin.2, him.2]

end Values

end Interchange

open Float.Model UnpackedFloat

theorem packComponents_toNat (s : Sign) (e : BitVec 11) (m : BitVec 52) :
    (packComponents Format.binary64 s e m).toNat =
      s.toBitVec.toNat * 2 ^ 63 + e.toNat * 2 ^ 52 + m.toNat := by
  have he := e.isLt
  have hm := m.isLt
  simp only [packComponents, BitVec.toNat_append]
  rw [← Nat.shiftLeft_add_eq_or_of_lt he, ← Nat.shiftLeft_add_eq_or_of_lt hm, Nat.shiftLeft_eq,
    Nat.shiftLeft_eq]
  omega

theorem unpackExponent_toNat (bv : BitVec 64) :
    (@unpackExponent Format.binary64 bv).toNat = bv.toNat / 2 ^ 52 % 2 ^ 11 := by
  simp [unpackExponent, Nat.shiftRight_eq_div_pow]

theorem unpackMantissa_toNat (bv : BitVec 64) :
    (@unpackMantissa Format.binary64 bv).toNat = bv.toNat % 2 ^ 52 := by
  simp [unpackMantissa, Nat.shiftRight_eq_div_pow]

theorem unpackSign_toNat (bv : BitVec 64) :
    (@unpackSign Format.binary64 bv).toNat = bv.toNat / 2 ^ 63 := by
  have := bv.isLt
  have h : (@unpackSign Format.binary64 bv).toNat = (bv.extractLsb 63 63).toNat := rfl
  rw [h, BitVec.extractLsb_toNat, Nat.shiftRight_eq_div_pow]
  omega

-- The packing equations, read off the definition without generating its equation lemmas.
theorem pack_infinity (s : Sign) :
    UnpackedFloat.pack Format.binary64 (.infinity s) = packedInfinity Format.binary64 s := rfl

theorem pack_zero (s : Sign) :
    UnpackedFloat.pack Format.binary64 (.zero s) = packedZero Format.binary64 s := rfl

theorem pack_finite (s : Sign) (m : Nat) (e : Int) (h : 0 < m) :
    UnpackedFloat.pack Format.binary64 (.finite s m e h) =
      if 2 ^ 11 ≤ (e + 1023 + 52).toNat + 1 then packedInfinity Format.binary64 s
      else if m.log2 + 1 = 53 then
        packComponents Format.binary64 s (BitVec.ofNat 11 (e + 1023 + 52).toNat)
          (BitVec.ofNat 52 m)
      else packComponents Format.binary64 s 0#11 (BitVec.ofNat 52 m) := rfl

theorem unpackSign_sign (bv : BitVec 64) :
    (Sign.ofBitVec (@unpackSign Format.binary64 bv)).toBitVec.toNat =
      bv.toNat / 2 ^ 63 := by
  have hs := unpackSign_toNat bv
  have hlt := (@unpackSign Format.binary64 bv).isLt
  unfold Sign.ofBitVec
  split
  · rename_i h
    rw [h] at hs
    simp only [BitVec.toNat_ofNat] at hs
    simp [Sign.toBitVec]
    omega
  · rename_i h
    have hne : (@unpackSign Format.binary64 bv).toNat ≠ 0 :=
      fun h0 => h (BitVec.eq_of_toNat_eq (by simpa using h0))
    simp only [Sign.toBitVec, BitVec.toNat_ofNat]
    simp at hlt
    omega

theorem pack_unpack (bv : BitVec 64)
    (h : ¬(bv.toNat / 2 ^ 52 % 2 ^ 11 = 2047 ∧ bv.toNat % 2 ^ 52 ≠ 0)) :
    UnpackedFloat.pack Format.binary64 (UnpackedFloat.unpack Format.binary64 bv) = bv := by
  apply BitVec.eq_of_toNat_eq
  have hlt := bv.isLt
  have hE := unpackExponent_toNat bv
  have hM := unpackMantissa_toNat bv
  have hS := unpackSign_sign bv
  have hdec : bv.toNat = bv.toNat / 2 ^ 63 * 2 ^ 63 + bv.toNat / 2 ^ 52 % 2 ^ 11 * 2 ^ 52 +
      bv.toNat % 2 ^ 52 := by omega
  have hbias : Format.binary64.exponentBias = 1023 := rfl
  have hmb : Format.binary64.mantissaBits = 53 := rfl
  unfold UnpackedFloat.unpack
  dsimp only
  -- the case split follows `unpack`; `rw` keeps the proof inside `.finite` out of `simp`'s way
  by_cases h1 : @unpackExponent Format.binary64 bv = -1#11
  · rw [if_pos h1]
    have hE' : bv.toNat / 2 ^ 52 % 2 ^ 11 = 2047 := by rw [← hE, h1]; rfl
    by_cases h2 : @unpackMantissa Format.binary64 bv = 0#52
    · -- an infinity
      have hM' : bv.toNat % 2 ^ 52 = 0 := by rw [← hM, h2]; rfl
      rw [if_pos h2, pack_infinity, packedInfinity, packComponents_toNat, hS]
      simp
      omega
    · exact absurd ⟨hE', fun h0 => h2 (BitVec.eq_of_toNat_eq (by simpa [hM] using h0))⟩ h
  rw [if_neg h1]
  by_cases h3 : @unpackExponent Format.binary64 bv = 0#11
  · rw [if_pos h3]
    have hE' : (@unpackExponent Format.binary64 bv).toNat = 0 := by rw [h3]; rfl
    by_cases h4 : @unpackMantissa Format.binary64 bv = 0#52
    · -- a zero
      have hM' : bv.toNat % 2 ^ 52 = 0 := by rw [← hM, h4]; rfl
      rw [dif_pos h4, pack_zero, packedZero, packComponents_toNat, hS]
      simp
      omega
    · -- a subnormal number: no implicit bit
      have hM0 : (@unpackMantissa Format.binary64 bv).toNat ≠ 0 :=
        fun h0 => h4 (BitVec.eq_of_toNat_eq (by simpa using h0))
      have hlog : (@unpackMantissa Format.binary64 bv).toNat.log2 < 52 :=
        (Nat.log2_lt hM0).mpr (@unpackMantissa Format.binary64 bv).isLt
      rw [dif_neg h4, pack_finite]
      split_ifs with hinf hnorm
      · rw [hE', hbias] at hinf
        simp at hinf
      · omega
      · rw [packComponents_toNat, hS]
        simp only [BitVec.toNat_ofNat, hM]
        omega
  · -- a normal number: the significand gains its implicit bit
    rw [if_neg h3]
    have hE1 : (@unpackExponent Format.binary64 bv).toNat ≠ 2047 :=
      fun h0 => h1 (BitVec.eq_of_toNat_eq (by simpa using h0))
    have hE0 : (@unpackExponent Format.binary64 bv).toNat ≠ 0 :=
      fun h0 => h3 (BitVec.eq_of_toNat_eq (by simpa using h0))
    have hElt := (@unpackExponent Format.binary64 bv).isLt
    have hm : (1#1 ++ @unpackMantissa Format.binary64 bv).toNat =
        2 ^ 52 + (@unpackMantissa Format.binary64 bv).toNat := by
      rw [BitVec.toNat_append,
        ← Nat.shiftLeft_add_eq_or_of_lt (@unpackMantissa Format.binary64 bv).isLt]
      simp [Nat.shiftLeft_eq]
    have hlog : (1#1 ++ @unpackMantissa Format.binary64 bv).toNat.log2 = 52 := by
      have hne : (1#1 ++ @unpackMantissa Format.binary64 bv).toNat ≠ 0 := by omega
      have := (@unpackMantissa Format.binary64 bv).isLt
      apply Nat.le_antisymm
      · exact Nat.lt_succ_iff.mp ((Nat.log2_lt hne).mpr (by omega))
      · exact (Nat.le_log2 hne).mpr (by omega)
    rw [pack_finite]
    split_ifs with hinf hnorm
    · rw [hbias] at hinf
      simp at hinf
      omega
    · rw [packComponents_toNat, hS, hbias]
      simp only [BitVec.toNat_ofNat, hm, hE, hM]
      simp
      omega
    · rw [hlog] at hnorm
      exact absurd rfl hnorm

/-- A bit pattern that is no NaN is kept by `Float`. -/
theorem toBits_ofBits {b : UInt64} (h : ¬Interchange.binary64.IsNaN b.toNat) :
    (Float.ofBits b).toBits = b := by
  apply UInt64.toBitVec_inj.mp
  exact pack_unpack b.toBitVec h

theorem binary64_field (n : Nat) : Interchange.binary64.field n = n / 2 ^ 52 % 2048 := rfl

theorem binary64_negative {n : Nat} (h : n < 2 ^ 64) :
    Interchange.binary64.negative n = decide (n / 2 ^ 63 = 1) := by
  simp only [Interchange.negative, Interchange.binary64]
  congr 1
  apply propext
  omega

theorem binary64_significand (n : Nat) : Interchange.binary64.significand n =
    if n / 2 ^ 52 % 2048 = 0 then n % 2 ^ 52 else n % 2 ^ 52 + 2 ^ 52 := by
  unfold Interchange.significand
  rw [binary64_field, Nat.add_comm]
  rfl

theorem binary64_exponent (n : Nat) : Interchange.binary64.exponent n =
    if n / 2 ^ 52 % 2048 = 0 then -1074 else ((n / 2 ^ 52 % 2048 : Nat) : Int) - 1075 := by
  have hb : (Interchange.binary64.bias : Int) = 1023 := rfl
  have hf : (Interchange.binary64.fracBits : Int) = 52 := rfl
  unfold Interchange.exponent
  rw [binary64_field, hb, hf]
  split_ifs with h
  · rw [h]
    rfl
  · have : max (n / 2 ^ 52 % 2048) 1 = n / 2 ^ 52 % 2048 := by omega
    rw [this]
    omega

/-- `Binary64.parts` reads the sign, significand and exponent off the fields of a pattern that
is no NaN. -/
theorem parts_ofBits {b : UInt64} (h : ¬Interchange.binary64.IsNaN b.toNat) :
    Binary64.parts (Float.ofBits b) =
      ⟨Interchange.binary64.negative b.toNat, Interchange.binary64.significand b.toNat,
        Interchange.binary64.exponent b.toNat⟩ := by
  have hlt := b.toNat_lt
  unfold Binary64.parts
  rw [toBits_ofBits h, binary64_negative hlt, binary64_significand, binary64_exponent]
  simp only [Nat.shiftRight_eq_div_pow]
  split_ifs <;> rfl

end Lighthouse
