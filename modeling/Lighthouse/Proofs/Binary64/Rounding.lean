import Lighthouse.Proofs.Binary64.Interchange
import Mathlib.Tactic.Linarith
import Mathlib.Tactic.FieldSimp
import Mathlib.Tactic.Ring
/-!
# Rounding a ratio

Every reader and narrower of the library rounds a ratio of naturals the same way: it scales
the ratio by a power of two (`Binary64.shiftPair`), takes the integer quotient and moves it up
when the remainder is more than half, or exactly half with an odd quotient. `nearestEven_le`
says that this integer is the nearest one to the ratio, and `nearestEven_even` that a tie goes
to the even one. `floorLog2_spec` places a ratio between two powers of two, and
`bitsOfRatio_exact` says that a ratio that is a binary64 number is written exactly.
-/
namespace Lighthouse

/-- The integer nearest to `n / d`, a half going to the even neighbour. -/
def nearestEven (n d : Nat) : Nat :=
  if 2 * (n % d) > d ∨ (2 * (n % d) = d ∧ n / d % 2 = 1) then n / d + 1 else n / d

section Nearest

variable {n d : Nat}

theorem dist_le_of_le_div (hd : 0 < d) {k : Nat} (hk : k ≤ n / d) :
    ((n % d : Nat) : ℤ) ≤ |(n : ℤ) - k * d| := by
  have hdiv := Nat.div_add_mod n d
  generalize n / d = q at hk hdiv
  generalize n % d = r at hdiv ⊢
  have hn : (n : ℤ) = d * q + r := by exact_mod_cast hdiv.symm
  have hkd : (k : ℤ) * d ≤ q * d := mul_le_mul_of_nonneg_right (by exact_mod_cast hk) (by positivity)
  rw [abs_of_nonneg (by linarith)]
  linarith

theorem dist_le_of_div_lt (hd : 0 < d) {k : Nat} (hk : n / d < k) :
    ((d : ℤ) - (n % d : Nat)) ≤ |(n : ℤ) - k * d| := by
  have hdiv := Nat.div_add_mod n d
  have hr := Nat.mod_lt n hd
  generalize n / d = q at hk hdiv
  generalize n % d = r at hdiv hr ⊢
  have hn : (n : ℤ) = d * q + r := by exact_mod_cast hdiv.symm
  have hkd : ((q : ℤ) + 1) * d ≤ k * d :=
    mul_le_mul_of_nonneg_right (by exact_mod_cast hk) (by positivity)
  have hr' : (r : ℤ) < d := by exact_mod_cast hr
  rw [abs_of_nonpos (by linarith)]
  linarith

theorem dist_nearestEven (hd : 0 < d) :
    |(n : ℤ) - nearestEven n d * d| = min ((n % d : Nat) : ℤ) ((d : ℤ) - (n % d : Nat)) := by
  have hdiv := Nat.div_add_mod n d
  have hr := Nat.mod_lt n hd
  unfold nearestEven
  generalize n / d = q at hdiv ⊢
  generalize n % d = r at hdiv hr ⊢
  have hn : (n : ℤ) = d * q + r := by exact_mod_cast hdiv.symm
  have hr' : (r : ℤ) < d := by exact_mod_cast hr
  split_ifs with h
  · -- rounded up: the remainder is at least half
    have h2 : (d : ℤ) ≤ 2 * r := by
      rcases h with h | ⟨h, -⟩ <;> omega
    rw [min_eq_right (by linarith), abs_of_nonpos (by push_cast; linarith)]
    push_cast
    linarith
  · -- rounded down: the remainder is at most half
    have h2 : 2 * (r : ℤ) ≤ d := by omega
    rw [min_eq_left (by linarith), abs_of_nonneg (by linarith)]
    linarith

/-- No integer is nearer to `n / d` than the rounded quotient. -/
theorem nearestEven_le (hd : 0 < d) (k : Nat) :
    |(n : ℤ) - nearestEven n d * d| ≤ |(n : ℤ) - k * d| := by
  rw [dist_nearestEven hd]
  rcases le_or_gt k (n / d) with hk | hk
  · exact (min_le_left _ _).trans (dist_le_of_le_div hd hk)
  · exact (min_le_right _ _).trans (dist_le_of_div_lt hd hk)

/-- When another integer is as near to `n / d` as the rounded quotient, the rounded quotient is
even. -/
theorem nearestEven_even (hd : 0 < d) {k : Nat} (hk : k ≠ nearestEven n d)
    (htie : |(n : ℤ) - k * d| = |(n : ℤ) - nearestEven n d * d|) : nearestEven n d % 2 = 0 := by
  have hdiv := Nat.div_add_mod n d
  have hr := Nat.mod_lt n hd
  unfold nearestEven at hk htie ⊢
  generalize n / d = q at hk htie hdiv ⊢
  generalize n % d = r at hk htie hdiv hr ⊢
  have hn : (n : ℤ) = d * q + r := by exact_mod_cast hdiv.symm
  have hd' : (0 : ℤ) < d := by exact_mod_cast hd
  have hr' : (r : ℤ) < d := by exact_mod_cast hr
  rcases le_or_gt k q with hkq | hkq
  · -- `k` at or below the quotient: it is the quotient, and the quotient was rounded up
    have hkd : (k : ℤ) * d ≤ q * d := mul_le_mul_of_nonneg_right (by exact_mod_cast hkq) hd'.le
    rw [abs_of_nonneg (by linarith)] at htie
    split_ifs at hk htie ⊢ with h
    · rw [abs_of_nonpos (by push_cast; linarith)] at htie
      have h2 : d ≤ 2 * r := by rcases h with h | ⟨h, -⟩ <;> omega
      have hkq' : k = q := by
        by_contra hne
        have hk1 : (k : ℤ) + 1 ≤ q := by omega
        have := mul_le_mul_of_nonneg_right hk1 hd'.le
        push_cast at htie
        linarith
      subst hkq'
      push_cast at htie
      have h2r : 2 * r = d := by
        have : (2 * r : ℤ) = d := by linarith
        exact_mod_cast this
      rcases h with h | ⟨-, hodd⟩
      · omega
      · omega
    · rw [abs_of_nonneg (by linarith)] at htie
      exact absurd (Nat.eq_of_mul_eq_mul_right hd (by exact_mod_cast (by linarith : (k : ℤ) * d = q * d))) hk
  · -- `k` above the quotient: it is the next integer, and the quotient was not rounded up
    have hkd : ((q : ℤ) + 1) * d ≤ k * d :=
      mul_le_mul_of_nonneg_right (by exact_mod_cast hkq) hd'.le
    rw [abs_of_nonpos (by linarith)] at htie
    split_ifs at hk htie ⊢ with h
    · rw [abs_of_nonpos (by push_cast; linarith)] at htie
      push_cast at htie
      exact absurd (Nat.eq_of_mul_eq_mul_right hd
        (by exact_mod_cast (by linarith : (k : ℤ) * d = (q + 1) * d))) hk
    · rw [abs_of_nonneg (by linarith)] at htie
      have hkq' : k = q + 1 := by
        by_contra hne
        have hk2 : (q : ℤ) + 2 ≤ k := by omega
        have := mul_le_mul_of_nonneg_right hk2 hd'.le
        linarith
      subst hkq'
      push_cast at htie
      have h2r : 2 * r = d := by
        have : (2 * r : ℤ) = d := by linarith
        exact_mod_cast this
      omega

end Nearest

section Scale

open Binary64

theorem shiftPair_ratio (num den : Nat) (k : Int) :
    ((shiftPair num den k).1 : ℚ) / (shiftPair num den k).2 = num / den * 2 ^ k := by
  unfold shiftPair
  split_ifs with hk
  · obtain ⟨j, rfl⟩ := Int.eq_ofNat_of_zero_le hk
    simp [Nat.shiftLeft_eq, zpow_natCast]
    ring
  · obtain ⟨j, hj⟩ := Int.exists_eq_neg_ofNat (Int.le_of_lt (Int.not_le.mp hk))
    rw [hj]
    simp [Nat.shiftLeft_eq, zpow_neg, zpow_natCast]
    ring

theorem shiftPair_snd_pos {num den : Nat} (hd : 0 < den) (k : Int) :
    0 < (shiftPair num den k).2 := by
  unfold shiftPair
  split_ifs
  · exact hd
  · simp [Nat.shiftLeft_eq]
    positivity

theorem log2_bounds {n : Nat} (hn : 0 < n) :
    (2 : ℚ) ^ (n.log2 : Int) ≤ n ∧ (n : ℚ) < 2 ^ ((n.log2 : Int) + 1) := by
  have h₁ := Nat.log2_self_le (Nat.pos_iff_ne_zero.mp hn)
  have h₂ := Nat.lt_log2_self (n := n)
  constructor
  · rw [zpow_natCast]
    exact_mod_cast h₁
  · rw [← Nat.cast_one, ← Nat.cast_add, zpow_natCast]
    exact_mod_cast h₂

/-- `floorLog2 num den` is the exponent of the power of two at or just below `num / den`. -/
theorem floorLog2_spec {num den : Nat} (hn : 0 < num) (hd : 0 < den) :
    (2 : ℚ) ^ floorLog2 num den ≤ num / den ∧ (num / den : ℚ) < 2 ^ (floorLog2 num den + 1) := by
  obtain ⟨hn₁, hn₂⟩ := log2_bounds hn
  obtain ⟨hd₁, hd₂⟩ := log2_bounds hd
  have hnq : (0 : ℚ) < num := by exact_mod_cast hn
  have hdq : (0 : ℚ) < den := by exact_mod_cast hd
  set l : Int := (num.log2 : Int) - den.log2 with hl
  -- the difference of the logarithms is off by at most one
  have hlo : (2 : ℚ) ^ (l - 1) < num / den := by
    rw [lt_div_iff₀ hdq, hl, show (num.log2 : Int) - den.log2 - 1 = num.log2 - (den.log2 + 1) by
      ring, zpow_sub₀ two_ne_zero, div_mul_eq_mul_div, div_lt_iff₀ (by positivity)]
    nlinarith [zpow_pos (two_pos : (0 : ℚ) < 2) (num.log2 : Int)]
  have hhi : (num / den : ℚ) < 2 ^ (l + 1) := by
    rw [div_lt_iff₀ hdq, hl, show (num.log2 : Int) - den.log2 + 1 = (num.log2 + 1) - den.log2 by
      ring, zpow_sub₀ two_ne_zero, div_mul_eq_mul_div, lt_div_iff₀ (by positivity)]
    nlinarith [zpow_pos (two_pos : (0 : ℚ) < 2) ((num.log2 : Int) + 1)]
  -- the comparison `floorLog2` makes is `num / den < 2 ^ l`
  have hp := shiftPair_ratio den num l
  have hp₂ : 0 < (shiftPair den num l).2 := shiftPair_snd_pos hn l
  have hcmp : (shiftPair den num l).2 < (shiftPair den num l).1 ↔ (num / den : ℚ) < 2 ^ l := by
    have hq : (0 : ℚ) < (shiftPair den num l).2 := by exact_mod_cast hp₂
    rw [← Nat.cast_lt (α := ℚ), ← one_lt_div₀ hq, hp, div_mul_eq_mul_div, one_lt_div₀ hnq,
      div_lt_iff₀ hdq, mul_comm]
  unfold floorLog2
  dsimp only
  rw [← hl]
  split_ifs with h
  · refine ⟨hlo.le, ?_⟩
    rw [sub_add_cancel]
    exact hcmp.mp h
  · exact ⟨not_lt.mp (fun h' => h (hcmp.mpr h')), hhi⟩

end Scale

/-- `Q` is an integer nearest to `y`, and the even one of two equally near. -/
structure IsNearestEven (y : ℚ) (Q : Nat) : Prop where
  le : ∀ k : Nat, |y - Q| ≤ |y - k|
  even : ∀ k : Nat, k ≠ Q → |y - k| = |y - Q| → Q % 2 = 0

section RationalNearest

variable {y : ℚ} {Q : Nat}

theorem dist_div (n d k : Nat) (hd : 0 < d) :
    |(n / d : ℚ) - k| = (|(n : ℤ) - k * d| : ℤ) / d := by
  have hdq : (0 : ℚ) < d := by exact_mod_cast hd
  rw [div_sub' hdq.ne', abs_div, abs_of_pos hdq]
  push_cast
  ring_nf

theorem nearestEven_isNearestEven {n d : Nat} (hd : 0 < d) :
    IsNearestEven (n / d) (nearestEven n d) := by
  have hdq : (0 : ℚ) < d := by exact_mod_cast hd
  constructor
  · intro k
    rw [dist_div _ _ _ hd, dist_div _ _ _ hd, div_le_div_iff_of_pos_right hdq]
    exact_mod_cast nearestEven_le hd k
  · intro k hk htie
    rw [dist_div _ _ _ hd, dist_div _ _ _ hd, div_left_inj' hdq.ne'] at htie
    exact nearestEven_even hd hk (by exact_mod_cast htie)

theorem IsNearestEven.eq_of_nat {k : Nat} (h : IsNearestEven k Q) : Q = k := by
  have := h.le k
  rw [sub_self, abs_zero, abs_nonpos_iff, sub_eq_zero] at this
  exact_mod_cast this.symm

theorem IsNearestEven.le_of_le (h : IsNearestEven y Q) {k : Nat} (hy : y ≤ k) : Q ≤ k := by
  by_contra hlt
  have hk : (k : ℚ) + 1 ≤ Q := by exact_mod_cast Nat.lt_of_not_le hlt
  have := h.le k
  rw [abs_of_nonpos (by linarith), abs_of_nonpos (by linarith)] at this
  linarith

theorem IsNearestEven.le_of_ge (h : IsNearestEven y Q) {k : Nat} (hy : (k : ℚ) ≤ y) : k ≤ Q := by
  by_contra hlt
  have hk : (Q : ℚ) + 1 ≤ k := by exact_mod_cast Nat.lt_of_not_le hlt
  have := h.le k
  rw [abs_of_nonneg (by linarith), abs_of_nonneg (by linarith)] at this
  linarith

theorem IsNearestEven.lt_of_lt (h : IsNearestEven y Q) {K : Nat} (hK : 0 < K)
    (hy : y < K - 1 / 2) : Q < K := by
  have hle := h.le_of_le (k := K) (by linarith)
  rcases Nat.lt_or_eq_of_le hle with hlt | rfl
  · exact hlt
  · have := h.le (Q - 1)
    rw [Nat.cast_sub hK, Nat.cast_one, abs_of_nonpos (by linarith)] at this
    rcases le_or_gt y (Q - 1) with hy' | hy'
    · rw [abs_of_nonpos (by linarith)] at this
      linarith
    · rw [abs_of_pos (by linarith)] at this
      linarith

theorem IsNearestEven.eq_of_le (h : IsNearestEven y Q) {K : Nat} (hK : K % 2 = 0)
    (hlo : (K : ℚ) - 1 / 2 ≤ y) (hhi : y ≤ K) : Q = K := by
  have hle := h.le_of_le hhi
  by_contra hne
  have hQ : (Q : ℚ) + 1 ≤ K := by exact_mod_cast Nat.lt_of_le_of_ne hle hne
  have hnear := h.le K
  rw [abs_of_nonneg (by linarith), abs_of_nonpos (by linarith)] at hnear
  -- `Q` can only be `K - 1`, as near as `K` to `y = K - 1/2`, and odd
  have hQK : (Q : ℚ) + 1 = K := by linarith
  have htie : |y - K| = |y - Q| := by
    rw [abs_of_nonpos (by linarith), abs_of_nonneg (by linarith)]
    linarith
  have heven := h.even K (Ne.symm hne) htie
  have : Q + 1 = K := by exact_mod_cast hQK
  omega

theorem dist_zpow (x : ℚ) (e : Int) (j : ℚ) : |j * 2 ^ e - x| = 2 ^ e * |x / 2 ^ e - j| := by
  have hpos : (0 : ℚ) < 2 ^ e := zpow_pos two_pos e
  rw [← abs_of_pos hpos, ← abs_mul, abs_of_pos hpos, abs_sub_comm, mul_sub,
    mul_div_cancel₀ _ hpos.ne', mul_comm]

theorem IsNearestEven.scaled {x : ℚ} {e : Int} (h : IsNearestEven (x / 2 ^ e) Q) (k : Nat) :
    |(Q : ℚ) * 2 ^ e - x| ≤ |(k : ℚ) * 2 ^ e - x| ∧
      (k ≠ Q → |(k : ℚ) * 2 ^ e - x| = |(Q : ℚ) * 2 ^ e - x| → Q % 2 = 0) := by
  have hpos : (0 : ℚ) < 2 ^ e := zpow_pos two_pos e
  rw [dist_zpow, dist_zpow]
  refine ⟨mul_le_mul_of_nonneg_left (h.le k) hpos.le, fun hk htie => h.even k hk ?_⟩
  exact mul_left_cancel₀ hpos.ne' htie

end RationalNearest

namespace Interchange

variable (F : Interchange)

/-- The exponent of the spacing of the subnormals, the finest of the format. -/
def eMin : Int := 1 - (F.bias : Int) - F.fracBits

/-- The exponent of the spacing of the largest finite binade. -/
def eMax : Int := (F.expMax : Int) - 1 - F.bias - F.fracBits

/-- The least magnitude that rounds to infinity: half a spacing past the largest finite number. -/
def overflowBound : ℚ := (2 ^ (F.fracBits + 1) - 1 / 2) * 2 ^ F.eMax

/-- `h` is a finite pattern of `F` nearest to `x`, and the even one of two patterns of different
values equally near. -/
structure Nearest (x : ℚ) (h : Nat) : Prop where
  finite : F.IsFinite h
  le : ∀ n, F.IsFinite n → |F.value h - x| ≤ |F.value n - x|
  even : ∀ n, F.IsFinite n → |F.value n - x| = |F.value h - x| → F.value n ≠ F.value h →
    h % 2 = 0

theorem nearest_zero : F.Nearest 0 0 where
  finite := by
    have := expMax_eq (F := F)
    unfold IsFinite field
    simp only [Nat.zero_div, Nat.zero_mod]
    omega
  le n _ := by
    rw [value_zero, sub_zero, abs_zero]
    exact abs_nonneg _
  even _ _ _ _ := rfl

theorem Nearest.negate {x : ℚ} {w : Nat} (h : F.Nearest x w) : F.Nearest (-x) (F.negate w) where
  finite := isFinite_negate.mpr h.finite
  le n hn := by
    have hle := h.le (F.negate n) (isFinite_negate.mpr hn)
    rw [value_negate] at hle ⊢
    calc |-F.value w - -x| = |F.value w - x| := by rw [← abs_neg]; ring_nf
      _ ≤ |-F.value n - x| := hle
      _ = |F.value n - -x| := by rw [← abs_neg]; ring_nf
  even n hn htie hne := by
    rw [negate_mod_two]
    refine h.even (F.negate n) (isFinite_negate.mpr hn) ?_ ?_
    · rw [value_negate] at htie ⊢
      calc |-F.value n - x| = |F.value n - -x| := by rw [← abs_neg]; ring_nf
        _ = |-F.value w - -x| := htie
        _ = |F.value w - x| := by rw [← abs_neg]; ring_nf
    · rw [value_negate] at hne ⊢
      exact fun heq => hne (by rw [← heq, neg_neg])

/-- The pattern of the positive number `q · 2^e`, for a significand `q` of the spacing `2^e`
that is at most `2 ^ (fracBits + 1)`, the value a rounding up into the next binade gives; an
exponent past the largest finite binade gives the infinity. -/
def writeRounded (q : Nat) (e : Int) : Nat :=
  let qe : Nat × Int := if q = 2 ^ (F.fracBits + 1) then (2 ^ F.fracBits, e + 1) else (q, e)
  if qe.1 < 2 ^ F.fracBits then qe.1
  else if qe.2 + (F.bias + F.fracBits : Nat) ≥ F.expMax then F.infinity
  else F.encode false (qe.2 + (F.bias + F.fracBits : Nat)).toNat (qe.1 - 2 ^ F.fracBits)

variable {F}

theorem eMin_le_eMax : F.eMin ≤ F.eMax := by
  have := expMax_eq (F := F)
  have := one_le_bias (F := F)
  unfold eMin eMax
  omega

theorem exponent_ge_eMin (n : Nat) : F.eMin ≤ F.exponent n := by
  unfold eMin exponent
  have : 1 ≤ max (F.field n) 1 := le_max_right _ _
  omega

theorem value_grid {n : Nat} (hn : F.negative n = false) (s : Int) :
    (∃ k : Nat, F.value n = k * 2 ^ s) ∨
      (F.exponent n < s ∧ F.value n < 2 ^ (s + F.fracBits)) := by
  rw [value_of_negative_false hn]
  rcases le_or_gt s (F.exponent n) with hs | hs
  · left
    refine ⟨F.significand n * 2 ^ (F.exponent n - s).toNat, ?_⟩
    push_cast
    rw [mul_assoc, ← zpow_natCast, ← zpow_add₀ two_ne_zero, Int.toNat_of_nonneg (by omega),
      sub_add_cancel]
  · right
    refine ⟨hs, ?_⟩
    have hsig : (F.significand n : ℚ) < 2 ^ (F.fracBits + 1) := by
      exact_mod_cast significand_lt n
    calc (F.significand n : ℚ) * 2 ^ F.exponent n
        < 2 ^ (F.fracBits + 1) * 2 ^ F.exponent n := by gcongr
      _ ≤ 2 ^ (F.fracBits + 1) * 2 ^ (s - 1) := by gcongr <;> [norm_num; omega]
      _ = 2 ^ (s + F.fracBits) := by
        rw [← zpow_natCast, ← zpow_add₀ two_ne_zero]
        congr 1
        push_cast
        ring

theorem value_encode_subnormal {f : Nat} (hf : f < 2 ^ F.fracBits) :
    F.value (F.encode false 0 f) = f * 2 ^ F.eMin := by
  rw [value_encode (Nat.two_pow_pos _) hf]
  simp [eMin]

theorem value_encode_normal {E f : Nat} (hE : 0 < E) (hE' : E < 2 ^ F.expBits)
    (hf : f < 2 ^ F.fracBits) :
    F.value (F.encode false E f) = (2 ^ F.fracBits + f) * 2 ^ ((E : Int) - F.bias - F.fracBits) := by
  rw [value_encode hE' hf]
  simp [Nat.pos_iff_ne_zero.mp hE, max_eq_left (show 1 ≤ E from hE)]

theorem writeRounded_finite {q : Nat} {e : Int} (hq : q ≤ 2 ^ (F.fracBits + 1))
    (hlow : 2 ^ F.fracBits ≤ q ∨ e = F.eMin) (he : F.eMin ≤ e)
    (hhigh : e < F.eMax ∨ (e = F.eMax ∧ q < 2 ^ (F.fracBits + 1))) :
    F.writeRounded q e < 2 ^ (F.expBits + F.fracBits) ∧ F.IsFinite (F.writeRounded q e) ∧
      F.value (F.writeRounded q e) = q * 2 ^ e ∧ F.writeRounded q e % 2 = q % 2 := by
  have hexp := expMax_eq (F := F)
  have hmax := expMax_lt (F := F)
  have hb := one_le_bias (F := F)
  have hfb : 2 ^ (F.fracBits + 1) = 2 * 2 ^ F.fracBits := Nat.pow_succ'
  have heven : 2 ^ F.fracBits % 2 = 0 :=
    Nat.mod_eq_zero_of_dvd (dvd_pow_self 2 (Nat.pos_iff_ne_zero.mp F.fracBits_pos))
  unfold eMin at he hlow
  unfold eMax at hhigh
  unfold writeRounded
  by_cases hc : q = 2 ^ (F.fracBits + 1)
  · -- carried into the next binade: the pattern of `2^fracBits · 2^(e + 1)`
    have he' : e + 1 + (F.bias + F.fracBits : Nat) < F.expMax := by
      push_cast
      omega
    rw [if_pos hc]
    dsimp only
    rw [if_neg (lt_irrefl _), if_neg (not_le.mpr he'), Nat.sub_self]
    have hE : ((e + 1 + (F.bias + F.fracBits : Nat)).toNat : Int) = e + 1 + (F.bias + F.fracBits : Nat) :=
      Int.toNat_of_nonneg (by omega)
    refine ⟨encode_lt (by omega) (Nat.two_pow_pos _), isFinite_encode (by omega) (Nat.two_pow_pos _) _
      (by omega), ?_, ?_⟩
    · rw [value_encode_normal (by omega) (by omega) (Nat.two_pow_pos _), hE, hc]
      push_cast
      rw [add_zero, ← zpow_natCast, ← zpow_natCast, ← zpow_add₀ two_ne_zero,
        ← zpow_add₀ two_ne_zero]
      congr 1
      push_cast
      ring
    · rw [encode_mod_two, hc]
      simp [Nat.pow_succ]
  · rw [if_neg hc]
    dsimp only
    by_cases hs : q < 2 ^ F.fracBits
    · -- a subnormal: the significand is the fraction
      have he' : e = 1 - (F.bias : Int) - F.fracBits := hlow.resolve_left (not_le.mpr hs)
      have henc : F.encode false 0 q = q := by simp [encode]
      rw [if_pos hs]
      refine ⟨?_, ?_, ?_, rfl⟩
      · calc q < 2 ^ F.fracBits := hs
          _ ≤ 2 ^ (F.expBits + F.fracBits) := Nat.pow_le_pow_right (by decide) (by omega)
      · rw [← henc]
        exact isFinite_encode (Nat.two_pow_pos _) hs _ (by omega)
      · have hv := value_encode_subnormal (F := F) hs
        rw [henc] at hv
        rw [hv, he', eMin]
    · -- a normal number: the fraction is the significand less its leading bit
      have he' : ¬ (e + (F.bias + F.fracBits : Nat) ≥ F.expMax) := by
        push_cast
        omega
      rw [if_neg hs, if_neg he']
      have hE : ((e + (F.bias + F.fracBits : Nat)).toNat : Int) = e + (F.bias + F.fracBits : Nat) :=
        Int.toNat_of_nonneg (by omega)
      have hf : q - 2 ^ F.fracBits < 2 ^ F.fracBits := by omega
      refine ⟨encode_lt (by omega) hf, isFinite_encode (by omega) hf _ (by omega), ?_, ?_⟩
      · rw [value_encode_normal (by omega) (by omega) hf, hE, Nat.cast_sub (by omega)]
        push_cast
        rw [show e + ((F.bias : Int) + F.fracBits) - F.bias - F.fracBits = e by ring]
        ring
      · rw [encode_mod_two]
        omega

theorem writeRounded_overflow {q : Nat} {e : Int} (hq : 2 ^ F.fracBits ≤ q)
    (hover : F.eMax < e ∨ (e = F.eMax ∧ q = 2 ^ (F.fracBits + 1))) :
    F.writeRounded q e = F.infinity := by
  have hfb : 2 ^ (F.fracBits + 1) = 2 * 2 ^ F.fracBits := Nat.pow_succ'
  unfold eMax at hover
  unfold writeRounded
  by_cases hc : q = 2 ^ (F.fracBits + 1)
  · rw [if_pos hc]
    dsimp only
    rw [if_neg (lt_irrefl _), if_pos (by push_cast; omega)]
  · rw [if_neg hc]
    dsimp only
    rw [if_neg (not_lt.mpr hq), if_pos (by push_cast; omega)]

theorem nearest_of_grid {x : ℚ} {e : Int} {Q : Nat} (hQ : IsNearestEven (x / 2 ^ e) Q)
    (hx : 0 ≤ x) (hbelow : F.eMin < e → 2 ^ (e + F.fracBits) ≤ x) (n : Nat) :
    |(Q : ℚ) * 2 ^ e - x| ≤ |F.value n - x| ∧
      (|F.value n - x| = |(Q : ℚ) * 2 ^ e - x| → F.value n ≠ Q * 2 ^ e → Q % 2 = 0) := by
  have hpos : (0 : ℚ) < 2 ^ e := zpow_pos two_pos e
  cases hn : F.negative n with
  | true =>
    -- a value at or below zero is no nearer than zero, which is a multiple of `2^e`
    have hv := value_nonpos hn
    obtain ⟨hle, htie⟩ := hQ.scaled 0
    rw [Nat.cast_zero, zero_mul, zero_sub, abs_neg, abs_of_nonneg hx] at hle htie
    rw [abs_of_nonpos (by linarith : F.value n - x ≤ 0)]
    refine ⟨by linarith, fun heq hne => htie ?_ ?_⟩
    · rintro rfl
      apply hne
      have : F.value n = 0 := by linarith [abs_nonneg ((0 : ℚ) * 2 ^ e - x)]
      rw [this, Nat.cast_zero, zero_mul]
    · linarith [abs_nonneg ((Q : ℚ) * 2 ^ e - x)]
  | false =>
    rcases value_grid hn e with ⟨k, hk⟩ | ⟨hexp, hlt⟩
    · obtain ⟨hle, htie⟩ := hQ.scaled k
      rw [hk]
      refine ⟨hle, fun heq hne => htie (fun hkQ => hne (by rw [hkQ])) heq⟩
    · -- a value with a finer spacing lies below `2^fracBits · 2^e`, which is nearer
      have hx' := hbelow (lt_of_le_of_lt (exponent_ge_eMin n) hexp)
      obtain ⟨hle, -⟩ := hQ.scaled (2 ^ F.fracBits)
      have htop : ((2 ^ F.fracBits : Nat) : ℚ) * 2 ^ e = 2 ^ (e + F.fracBits) := by
        rw [zpow_add₀ two_ne_zero, zpow_natCast, mul_comm]
        push_cast
        ring
      have hdist : |(2 : ℚ) ^ (e + F.fracBits) - x| = x - 2 ^ (e + F.fracBits) := by
        rw [abs_sub_comm]
        exact abs_of_nonneg (by linarith)
      rw [htop, hdist] at hle
      have hfar : |F.value n - x| = x - F.value n := by
        rw [abs_of_nonpos (by linarith)]
        ring
      rw [hfar]
      exact ⟨by linarith, fun heq _ => absurd heq (by linarith)⟩

section Binade

variable {x : ℚ} {t e : Int}

theorem scaled_lt (hhi : x < 2 ^ (t + 1)) (he : t - F.fracBits ≤ e) :
    x / 2 ^ e < 2 ^ (F.fracBits + 1) := by
  rw [div_lt_iff₀ (zpow_pos two_pos e)]
  calc x < 2 ^ (t + 1) := hhi
    _ ≤ 2 ^ (((F.fracBits + 1 : Nat) : Int) + e) :=
      zpow_le_zpow_right₀ (by norm_num) (by push_cast; omega)
    _ = 2 ^ (F.fracBits + 1) * 2 ^ e := by rw [zpow_add₀ two_ne_zero, zpow_natCast]

theorem scaled_ge (hlo : 2 ^ t ≤ x) (he : e = t - F.fracBits) : (2 : ℚ) ^ F.fracBits ≤ x / 2 ^ e := by
  rw [le_div_iff₀ (zpow_pos two_pos e), ← zpow_natCast, ← zpow_add₀ two_ne_zero, he]
  simpa using hlo

theorem overflowBound_lt : F.overflowBound < 2 ^ (F.eMax + F.fracBits + 1) := by
  have hpos : (0 : ℚ) < 2 ^ F.eMax := zpow_pos two_pos _
  rw [overflowBound, show F.eMax + F.fracBits + 1 = ((F.fracBits + 1 : Nat) : Int) + F.eMax by
    push_cast; ring, zpow_add₀ two_ne_zero, zpow_natCast]
  linarith

theorem zpow_eMax_le_overflowBound : (2 : ℚ) ^ F.eMax ≤ F.overflowBound := by
  have hK : (1 : ℚ) ≤ 2 ^ (F.fracBits + 1) - 1 / 2 := by
    have : (2 : ℚ) ≤ 2 ^ (F.fracBits + 1) := by
      calc (2 : ℚ) = 2 ^ 1 := (pow_one 2).symm
        _ ≤ 2 ^ (F.fracBits + 1) := pow_le_pow_right₀ (by norm_num) (by omega)
    linarith
  rw [overflowBound]
  exact le_mul_of_one_le_left (zpow_pos two_pos _).le hK

end Binade

theorem writeRounded_nearest {x : ℚ} {t e : Int} {Q : Nat} (hlo : 2 ^ t ≤ x)
    (hhi : x < 2 ^ (t + 1)) (he : e = max (t - F.fracBits) F.eMin)
    (hQ : IsNearestEven (x / 2 ^ e) Q) (hov : x < F.overflowBound) :
    F.writeRounded Q e < 2 ^ (F.expBits + F.fracBits) ∧
      F.value (F.writeRounded Q e) = Q * 2 ^ e ∧ F.Nearest x (F.writeRounded Q e) := by
  have hpos : (0 : ℚ) < 2 ^ e := zpow_pos two_pos e
  have hx : 0 < x := lt_of_lt_of_le (zpow_pos two_pos t) hlo
  have heMin : F.eMin ≤ e := he ▸ le_max_right _ _
  have hnorm : F.eMin < e → e = t - F.fracBits := by
    intro h
    rw [he] at h ⊢
    omega
  have hbelow : F.eMin < e → 2 ^ (e + F.fracBits) ≤ x := fun h => by
    rw [hnorm h, sub_add_cancel]
    exact hlo
  have hy := scaled_lt (F := F) hhi (he ▸ le_max_left _ _)
  have hQle : Q ≤ 2 ^ (F.fracBits + 1) := hQ.le_of_le (by exact_mod_cast hy.le)
  have hlow : 2 ^ F.fracBits ≤ Q ∨ e = F.eMin := by
    rcases heMin.lt_or_eq with h | h
    · exact .inl (hQ.le_of_ge (by exact_mod_cast scaled_ge hlo (hnorm h)))
    · exact .inr h.symm
  have hhigh : e < F.eMax ∨ (e = F.eMax ∧ Q < 2 ^ (F.fracBits + 1)) := by
    rcases lt_trichotomy e F.eMax with h | h | h
    · exact .inl h
    · -- in the largest binade, `x` below the bound keeps `Q` below the carry
      refine .inr ⟨h, hQ.lt_of_lt (Nat.two_pow_pos _) ?_⟩
      rw [div_lt_iff₀ hpos, h]
      push_cast
      exact hov
    · -- past the largest binade, `x` is past the bound
      have hle : (2 : ℚ) ^ (F.eMax + F.fracBits + 1) ≤ x :=
        le_trans (zpow_le_zpow_right₀ (by norm_num) (by omega)) (hbelow (lt_of_le_of_lt eMin_le_eMax h))
      exact absurd (overflowBound_lt.trans_le hle) (not_lt.mpr hov.le)
  obtain ⟨hlt, hfin, hval, hpar⟩ := writeRounded_finite hQle hlow heMin hhigh
  refine ⟨hlt, hval, hfin, fun n _ => ?_, fun n _ htie hne => ?_⟩
  · rw [hval]
    exact (nearest_of_grid hQ hx.le hbelow n).1
  · rw [hval] at htie hne
    rw [hpar]
    exact (nearest_of_grid hQ hx.le hbelow n).2 htie hne

theorem writeRounded_eq_infinity {x : ℚ} {t e : Int} {Q : Nat} (hlo : 2 ^ t ≤ x)
    (hhi : x < 2 ^ (t + 1)) (he : e = max (t - F.fracBits) F.eMin)
    (hQ : IsNearestEven (x / 2 ^ e) Q) (hov : F.overflowBound ≤ x) :
    F.writeRounded Q e = F.infinity := by
  have hpos : (0 : ℚ) < 2 ^ e := zpow_pos two_pos e
  have hy := scaled_lt (F := F) hhi (he ▸ le_max_left _ _)
  have hK : (1 : ℚ) ≤ 2 ^ (F.fracBits + 1) := one_le_pow₀ (by norm_num)
  rcases lt_trichotomy e F.eMax with h | h | h
  · -- below the largest binade `x` would be less than the bound
    exfalso
    have h2 : (2 : ℚ) ^ (e + 1) ≤ 2 ^ F.eMax := zpow_le_zpow_right₀ (by norm_num) (by omega)
    rw [zpow_add_one₀ two_ne_zero] at h2
    rw [div_lt_iff₀ hpos] at hy
    have hb : (2 ^ (F.fracBits + 1) - 1 / 2) * (2 ^ e * 2) ≤ F.overflowBound := by
      rw [overflowBound]
      exact mul_le_mul_of_nonneg_left h2 (by linarith)
    nlinarith
  · -- in the largest binade the bound rounds up to the carry
    have hQ' : Q = 2 ^ (F.fracBits + 1) := by
      refine hQ.eq_of_le (by simp [Nat.pow_succ]) ?_ (by exact_mod_cast hy.le)
      rw [le_div_iff₀ hpos, h]
      push_cast
      exact hov
    refine writeRounded_overflow ?_ (.inr ⟨h, hQ'⟩)
    rw [hQ', Nat.pow_succ]
    omega
  · -- past the largest binade, `x` is in a normal binade of its own
    have hnorm : e = t - F.fracBits := by
      have := lt_of_le_of_lt eMin_le_eMax h
      rw [he] at this ⊢
      omega
    exact writeRounded_overflow (hQ.le_of_ge (by exact_mod_cast scaled_ge hlo hnorm)) (.inl h)

theorem abs_value_lt_overflowBound {n : Nat} (hf : F.IsFinite n) : |F.value n| < F.overflowBound := by
  have hexp := expMax_eq (F := F)
  have hb := one_le_bias (F := F)
  have hfield : F.field n < F.expMax := lt_of_le_of_ne (Nat.le_of_lt_succ (by
    have := field_lt (F := F) n
    have := expMax_lt (F := F)
    unfold expMax at *
    omega)) hf
  have hmag : |F.value n| = F.significand n * 2 ^ F.exponent n := by
    rw [value_eq_sign_mul, abs_mul, abs_of_nonneg (by positivity : (0 : ℚ) ≤ F.significand n * 2 ^ F.exponent n)]
    split <;> simp
  have hle : F.exponent n ≤ F.eMax := by
    unfold exponent eMax
    omega
  have hsig : (F.significand n : ℚ) + 1 ≤ 2 ^ (F.fracBits + 1) := by
    exact_mod_cast significand_lt n
  have hpow : (2 : ℚ) ^ F.exponent n ≤ 2 ^ F.eMax := zpow_le_zpow_right₀ (by norm_num) hle
  have hpos : (0 : ℚ) < 2 ^ F.exponent n := zpow_pos two_pos _
  rw [hmag, overflowBound]
  nlinarith

/-- `w` is the pattern that rounding the positive `x` to `F` writes: `e` is the exponent of the
spacing of the binade `[2^t, 2^(t+1))` of `x`, or of the subnormals when that is coarser, and
`Q` the integer nearest to `x / 2^e`. -/
def Rounding (x : ℚ) (w : Nat) : Prop :=
  ∃ t e : Int, ∃ Q : Nat, 2 ^ t ≤ x ∧ x < 2 ^ (t + 1) ∧ e = max (t - F.fracBits) F.eMin ∧
    IsNearestEven (x / 2 ^ e) Q ∧ w = F.writeRounded Q e

namespace Rounding

variable {x : ℚ} {w : Nat}

theorem nearest (h : F.Rounding x w) (hov : x < F.overflowBound) :
    w < 2 ^ (F.expBits + F.fracBits) ∧ F.Nearest x w := by
  obtain ⟨t, e, Q, hlo, hhi, he, hQ, rfl⟩ := h
  obtain ⟨hlt, -, hnear⟩ := writeRounded_nearest hlo hhi he hQ hov
  exact ⟨hlt, hnear⟩

theorem eq_infinity (h : F.Rounding x w) (hov : F.overflowBound ≤ x) : w = F.infinity := by
  obtain ⟨t, e, Q, hlo, hhi, he, hQ, rfl⟩ := h
  exact writeRounded_eq_infinity hlo hhi he hQ hov

theorem value_eq {m : Nat} {k : Int} (h : F.Rounding x w) (hov : x < F.overflowBound)
    (hx : x = m * 2 ^ k) (hm : m < 2 ^ (F.fracBits + 1)) (hk : F.eMin ≤ k) : F.value w = x := by
  obtain ⟨t, e, Q, hlo, hhi, he, hQ, rfl⟩ := h
  obtain ⟨-, hval, -⟩ := writeRounded_nearest hlo hhi he hQ hov
  -- the binade of `x` is below `2 ^ (k + fracBits + 1)`, so `2^e` divides `x`
  have ht : t - F.fracBits ≤ k := by
    have hmq : (m : ℚ) < 2 ^ (F.fracBits + 1) := by exact_mod_cast hm
    have hlt : (2 : ℚ) ^ t < 2 ^ (k + F.fracBits + 1) := by
      calc (2 : ℚ) ^ t ≤ m * 2 ^ k := hx ▸ hlo
        _ < 2 ^ (F.fracBits + 1) * 2 ^ k := by gcongr
        _ = 2 ^ (k + F.fracBits + 1) := by
          rw [← zpow_natCast, ← zpow_add₀ two_ne_zero]
          congr 1
          push_cast
          ring
    have := (zpow_lt_zpow_iff_right₀ (by norm_num : (1 : ℚ) < 2)).mp hlt
    omega
  have hek : e ≤ k := he ▸ max_le ht hk
  have hdiv : x / 2 ^ e = ((m * 2 ^ (k - e).toNat : Nat) : ℚ) := by
    rw [hx, div_eq_iff (zpow_pos two_pos e).ne']
    push_cast
    rw [mul_assoc, ← zpow_natCast, ← zpow_add₀ two_ne_zero, Int.toNat_of_nonneg (by omega),
      sub_add_cancel]
  rw [hdiv] at hQ
  rw [hval, hQ.eq_of_nat, hx]
  push_cast
  rw [mul_assoc, ← zpow_natCast, ← zpow_add₀ two_ne_zero, Int.toNat_of_nonneg (by omega),
    sub_add_cancel]

end Rounding

end Interchange

section Ratio

open Binary64 Interchange

theorem binary64_eMin : binary64.eMin = -1074 := rfl

theorem binary64_fracBits : binary64.fracBits = 52 := rfl

theorem bitsOfRatio_eq {num den : Nat} (hn : 0 < num) (hd : 0 < den) {e : Int}
    (he : e = max (floorLog2 num den - 52) (-1074)) :
    bitsOfRatio num den =
      binary64.writeRounded (nearestEven (shiftPair num den (-e)).1 (shiftPair num den (-e)).2) e := by
  rw [bitsOfRatio, if_neg (by omega)]
  dsimp only
  rw [← he]
  generalize shiftPair num den (-e) = p
  unfold nearestEven
  generalize (if 2 * (p.1 % p.2) > p.2 ∨ (2 * (p.1 % p.2) = p.2 ∧ p.1 / p.2 % 2 = 1) then
    p.1 / p.2 + 1 else p.1 / p.2) = q
  simp only [writeRounded, Interchange.infinity, encode, Nat.shiftLeft_eq, Nat.pow_eq, Bool.toNat_false,
    Nat.zero_mul, Nat.zero_add, Nat.add_zero]
  rfl

theorem bitsOfRatio_rounding {num den : Nat} (hn : 0 < num) (hd : 0 < den) :
    binary64.Rounding (num / den) (bitsOfRatio num den) := by
  obtain ⟨hlo, hhi⟩ := floorLog2_spec hn hd
  set e := max (floorLog2 num den - 52) (-1074) with he
  refine ⟨floorLog2 num den, e, _, hlo, hhi, he, ?_, bitsOfRatio_eq hn hd he⟩
  have hratio := shiftPair_ratio num den (-e)
  rw [zpow_neg, ← div_eq_mul_inv] at hratio
  rw [← hratio]
  exact nearestEven_isNearestEven (shiftPair_snd_pos hd _)

/-- A ratio `m · 2^k` with `m` of at most 53 bits and `2^k` no finer than the subnormal
spacing is written exactly, as a finite pattern with the sign bit clear. -/
theorem bitsOfRatio_exact {num den m : Nat} {k : Int} (hd : 0 < den)
    (hx : (num / den : ℚ) = m * 2 ^ k) (hm : m < 2 ^ 53) (hk : -1074 ≤ k)
    (hov : (num / den : ℚ) < binary64.overflowBound) :
    bitsOfRatio num den < 2 ^ 63 ∧ binary64.IsFinite (bitsOfRatio num den) ∧
      binary64.value (bitsOfRatio num den) = num / den := by
  rcases Nat.eq_zero_or_pos num with rfl | hn
  · -- zero is the zero pattern
    have h0 : bitsOfRatio 0 den = 0 := by rw [bitsOfRatio, if_pos (.inl rfl)]
    rw [h0, value_zero, Nat.cast_zero, zero_div]
    exact ⟨by norm_num, by decide, rfl⟩
  · have hr := bitsOfRatio_rounding hn hd
    obtain ⟨hlt, hnear⟩ := hr.nearest hov
    exact ⟨hlt, hnear.finite, hr.value_eq hov hx hm (binary64_eMin ▸ hk)⟩

theorem ofRatio_toBits {num den : Nat} (neg : Bool) (hb : bitsOfRatio num den < 2 ^ 63)
    (hnan : ¬binary64.IsNaN (bitsOfRatio num den)) :
    (ofRatio neg num den).toBits.toNat =
      if neg then binary64.negate (bitsOfRatio num den) else bitsOfRatio num den := by
  have hneg := negate_of_lt (F := binary64) (n := bitsOfRatio num den) hb
  unfold ofRatio
  dsimp only
  cases neg with
  | false =>
    have hbits : (bitsOfRatio num den).toUInt64.toNat = bitsOfRatio num den := by
      rw [Nat.toUInt64_eq, UInt64.toNat_ofNat']
      exact Nat.mod_eq_of_lt (by omega)
    simp only [Bool.false_eq_true, ↓reduceIte]
    rw [toBits_ofBits (by rw [hbits]; exact hnan), hbits]
  | true =>
    have hbits : (bitsOfRatio num den + Nat.pow 2 63).toUInt64.toNat =
        binary64.negate (bitsOfRatio num den) := by
      rw [Nat.toUInt64_eq, UInt64.toNat_ofNat', hneg, Nat.mod_eq_of_lt (by rw [Nat.pow_eq]; omega),
        Nat.pow_eq, Nat.add_comm]
      rfl
    simp only [↓reduceIte]
    rw [toBits_ofBits (by rw [hbits]; exact isNaN_negate.not.mpr hnan), hbits]

end Ratio

end Lighthouse
