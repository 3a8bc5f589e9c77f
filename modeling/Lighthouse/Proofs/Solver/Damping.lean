import Lighthouse.Proofs.Solver.Descent
import Lighthouse.Proofs.Binary64.Arithmetic
import Mathlib
/-!
# How damping loops end, and how many sparse solves they make

A damping loop (`tryDamping`) makes one sparse solve per trial and raises the damping tenfold
after a rejected or non-finite trial, until a step is accepted, the step is negligible, or the
damping is past `maxDamping`. Ten times a positive float has its leading bit three places higher
(`unpack_mul_ten`), so a loop entered above zero ends within `dampingTrials` trials. Counted by
value a raise multiplies the damping by `999/100` at least (`value_mul_ten_ge`), so a loop entered
at `x` makes at most `log₁₀ (10¹⁶ / x) + 2` solves, and a solve at most that many per iteration
(`sparse_solves_bounded`).

A damping of zero never grows, as `0 · 10 = 0`: on a problem whose residual reads only constant
blocks the loop comes back to its start after every trial (`loneStart_loop_returns`). Above
`10¹⁸` the bound is negative though no solve is made (`damping_bound_fails_outside_range`).
-/
namespace Lighthouse.Problem

open Binary64 Float.Model UnpackedFloat

section Limits

theorem unpack_maxDamping :
    maxDamping.toModel.unpack = .finite .positive (5 ^ 16 * 2 ^ 15) 1 (by positivity) := rfl

theorem totalExponent_le_of_le_maxDamping {d : Float} {m : Nat} {e : Int} {hm : 0 < m}
    (hd : d.toModel.unpack = .finite .positive m e hm) (hle : d ≤ maxDamping) :
    totalExponent m e ≤ 54 := by
  obtain ⟨-, -, hr⟩ := (float_le_iff d maxDamping).mp hle
  rw [hd, unpack_maxDamping] at hr
  have he : e ≤ 1 := by
    simp only [rank, RankLt, Prod.mk.injEq] at hr
    omega
  have hlog : m.log2 < 53 := (Nat.log2_lt hm.ne').mpr (placed_of_unpack hd).1.lt
  simp only [totalExponent]
  omega

theorem infinity_not_le_maxDamping {d : Float} (hd : d.toModel.unpack = .infinity .positive) :
    ¬d ≤ maxDamping := fun hle => by
  obtain ⟨-, -, hr⟩ := (float_le_iff d maxDamping).mp hle
  rw [hd, unpack_maxDamping] at hr
  simp [rank, RankLt] at hr

theorem finite_of_le_maxDamping {d : Float} (hd : ¬d ≤ 0) (hmax : d ≤ maxDamping) :
    ∃ m e h, d.toModel.unpack = .finite .positive m e h := by
  obtain ⟨hn, -, -⟩ := (float_le_iff d maxDamping).mp hmax
  have hnan : d.isNaN = false := Bool.eq_false_iff.mpr fun h => hn ((float_isNaN_iff d).mp h)
  have hpos : 0 < d := by
    by_contra hlt
    exact hd (float_le_of_not_lt hnan rfl hlt)
  rcases (float_pos_iff d).mp hpos with hu | hu
  · exact hu
  · exact absurd hmax (infinity_not_le_maxDamping hu)

/-- The most trials a damping loop entered above zero makes. -/
def dampingTrials : Nat := 376

/-- `d` passes `maxDamping` within `fuel` tenfold raises: it is past the limit already, or a
positive number whose leading bit lies so high that `fuel` raises of three places each carry it
past place `54`. -/
def PassesWithin (d : Float) (fuel : Nat) : Prop :=
  ¬d ≤ maxDamping ∨ ∃ m e h, d.toModel.unpack = .finite .positive m e h ∧
    54 < totalExponent m e + 3 * fuel

theorem passesWithin_of_not_le_zero {d : Float} {fuel : Nat} (hd : ¬d ≤ 0)
    (hf : dampingTrials ≤ fuel) : PassesWithin d fuel := by
  by_cases hmax : d ≤ maxDamping
  · obtain ⟨m, e, hm, hu⟩ := finite_of_le_maxDamping hd hmax
    have he := (placed_of_unpack hu).1.ge
    refine .inr ⟨m, e, hm, hu, ?_⟩
    simp only [dampingTrials] at hf
    simp only [totalExponent]
    omega
  · exact .inl hmax

theorem PassesWithin.mul_ten {d : Float} {f : Nat} (hmax : d ≤ maxDamping)
    (hp : PassesWithin d (f + 1)) : PassesWithin (d * 10.0) f := by
  rcases hp with hp | ⟨m, e, hm, hu, hT⟩
  · exact absurd hmax hp
  rcases unpack_mul_ten hu with hinf | ⟨m', e', hm', hu', hT'⟩
  · exact .inl (infinity_not_le_maxDamping hinf)
  · exact .inr ⟨m', e', hm', hu', by omega⟩

theorem PassesWithin.not_le {d : Float} (hp : PassesWithin d 0) : ¬d ≤ maxDamping := by
  rcases hp with hp | ⟨m, e, hm, hu, hT⟩
  · exact hp
  · intro hle
    have := totalExponent_le_of_le_maxDamping hu hle
    omega

theorem not_le_zero_mul_ten {d : Float} (hd : ¬d ≤ 0) (hmax : d ≤ maxDamping) :
    ¬d * 10.0 ≤ 0 := by
  obtain ⟨m, e, hm, hu⟩ := finite_of_le_maxDamping hd hmax
  refine float_not_le_of_lt ((float_pos_iff _).mpr ?_)
  rcases unpack_mul_ten hu with hinf | ⟨m', e', hm', hu', -⟩
  · exact .inr hinf
  · exact .inl ⟨m', e', hm', hu'⟩

/-- The damping after an accepted step: a tenth of it, but not below `minDamping`. -/
def lowered (d : Float) : Float := if minDamping > d / 10.0 then minDamping else d / 10.0

theorem not_le_zero_lowered (d : Float) : ¬lowered d ≤ 0 := by
  have hmin : (0 : Float) < minDamping := by decide +kernel
  unfold lowered
  split
  · exact float_not_le_of_lt hmin
  · rename_i hlt
    exact fun hle => hlt (float_lt_of_le_of_lt hle hmin)

end Limits

section Values

theorem unpack_of_value_pos {d : Float} {x : ℚ} (hx : rationalOf d.toModel.unpack = some x)
    (hpos : 0 < x) : ∃ m e hm, d.toModel.unpack = .finite .positive m e hm ∧ x = m * 2 ^ e ∧
      2 ^ (-1074 : ℤ) ≤ x := by
  rcases rationalOf_eq_some hx with ⟨s, -, rfl⟩ | ⟨s, m, e, hm, hu, rfl⟩
  · exact absurd hpos (lt_irrefl 0)
  cases s with
  | negative =>
    have : (0 : ℚ) ≤ m * 2 ^ e := by positivity
    simp only [signed] at hpos
    linarith
  | positive =>
    refine ⟨m, e, hm, hu, rfl, ?_⟩
    have hm1 : (1 : ℚ) ≤ m := by exact_mod_cast hm
    calc (2 : ℚ) ^ (-1074 : ℤ) ≤ 2 ^ e := zpow_le_zpow_right₀ (by norm_num) (placed_of_unpack hu).1.ge
      _ = 1 * 2 ^ e := (one_mul _).symm
      _ ≤ m * 2 ^ e := by gcongr

theorem value_le_of_le {d e : Float} {x : ℚ} (hx : rationalOf d.toModel.unpack = some x)
    (hpos : 0 < x) (hde : d ≤ e) (hmax : e ≤ maxDamping) :
    ∃ y, rationalOf e.toModel.unpack = some y ∧ x ≤ y := by
  obtain ⟨m, k, hm, hu, rfl, -⟩ := unpack_of_value_pos hx hpos
  obtain ⟨-, hne, hr⟩ := (float_le_iff d e).mp hde
  rw [hu] at hr
  -- `e` ranks at or above a positive number: it is a positive number or the positive infinity
  cases hv : e.toModel.unpack with
  | notANumber => exact absurd hv hne
  | infinity s =>
    cases s with
    | positive => exact absurd hmax (infinity_not_le_maxDamping hv)
    | negative =>
      rw [hv] at hr
      simp [rank, RankLt] at hr
  | zero s =>
    rw [hv] at hr
    simp [rank, RankLt] at hr
  | finite s m' k' hm' =>
    cases s with
    | negative =>
      rw [hv] at hr
      simp [rank, RankLt] at hr
    | positive =>
      rw [hv] at hr
      refine ⟨m' * 2 ^ k', rfl, ?_⟩
      simp only [rank, RankLt, Prod.mk.injEq] at hr
      rcases (by omega : k < k' ∨ k = k' ∧ m < m' ∨ k = k' ∧ m = m') with h | h | ⟨rfl, rfl⟩
      · exact (value_lt_of_placed (placed_of_unpack hu).1 (placed_of_unpack hv).1 (.inl h)).le
      · exact (value_lt_of_placed (placed_of_unpack hu).1 (placed_of_unpack hv).1 (.inr h)).le
      · exact le_rfl

theorem rationalOf_maxDamping : rationalOf maxDamping.toModel.unpack = some (10 ^ 16) := by
  rw [unpack_maxDamping]
  norm_num [rationalOf, signed]

theorem value_le_of_le_maxDamping {d : Float} {x : ℚ} (hx : rationalOf d.toModel.unpack = some x)
    (hpos : 0 < x) (hle : d ≤ maxDamping) : x ≤ 10 ^ 16 := by
  obtain ⟨y, hy, hxy⟩ := value_le_of_le hx hpos hle (by decide +kernel)
  rw [rationalOf_maxDamping] at hy
  cases hy
  exact hxy

theorem rationalOf_ten : rationalOf (10.0 : Float).toModel.unpack = some 10 := by
  rw [unpack_ten]
  norm_num [rationalOf, signed]

/-- Ten times a positive damping within the limit is a number at least `999/100` times the
damping, less the least subnormal: the product is rounded to within a unit of its leading
power of two, `2⁻⁵¹` of it for a normal product and the least subnormal below the normals. -/
theorem value_mul_ten_ge {d : Float} {x : ℚ} (hx : rationalOf d.toModel.unpack = some x)
    (hpos : 0 < x) (hle : x ≤ 10 ^ 16) :
    ∃ y, rationalOf (d * 10.0).toModel.unpack = some y ∧ 999 / 100 * x - 2 ^ (-1074 : ℤ) ≤ y := by
  have hup : x * 10 ≤ 2 ^ Int.clog 2 (x * 10) := by
    exact_mod_cast Int.self_le_zpow_clog (by norm_num : 1 < 2) (x * 10)
  have hlow : (2 : ℚ) ^ (Int.clog 2 (x * 10) - 1) < x * 10 := by
    have hclog := @Int.zpow_pred_clog_lt_self ℚ _ _ _ _ 2 (x * 10) (by norm_num) (by positivity)
    exact_mod_cast hclog
  generalize Int.clog 2 (x * 10) = N at hup hlow
  have hN : N ≤ 1022 := by
    by_contra h
    have hbig : (2 : ℚ) ^ (1022 : ℤ) ≤ 2 ^ (N - 1) := zpow_le_zpow_right₀ (by norm_num) (by omega)
    have h17 : (10 : ℚ) ^ 17 < 2 ^ (1022 : ℤ) :=
      calc (10 : ℚ) ^ 17 < 2 ^ (57 : ℤ) := by norm_num
        _ ≤ 2 ^ (1022 : ℤ) := zpow_le_zpow_right₀ (by norm_num) (by norm_num)
    have hloop : x * 10 < x * 10 :=
      calc x * 10 ≤ 10 ^ 17 := by linarith only [hle]
        _ < 2 ^ (1022 : ℤ) := h17
        _ ≤ 2 ^ (N - 1) := hbig
        _ < x * 10 := hlow
    exact lt_irrefl _ hloop
  obtain ⟨y, hy, herr⟩ := mul_error hx rationalOf_ten (N := max N (-1022)) (le_max_right _ _)
    (max_le hN (by norm_num))
    (by rw [abs_of_pos (by positivity)]; exact hup.trans (zpow_le_zpow_right₀ (by norm_num) (le_max_left _ _)))
  refine ⟨y, hy, ?_⟩
  have hy' : x * 10 - 2 ^ (max N (-1022) - 52) ≤ y := by linarith [(abs_le.mp herr).1]
  rcases le_total N (-1022) with h | h
  · -- a product below the normals is within the least subnormal
    rw [max_eq_right h, show (-1022 : ℤ) - 52 = -1074 by norm_num] at hy'
    linarith
  · -- a normal product is within `2⁻⁵¹` of itself
    rw [max_eq_left h] at hy'
    have hunit : (2 : ℚ) ^ (N - 52) ≤ x * 10 * 2 ^ (-51 : ℤ) := by
      rw [show N - 52 = (N - 1) + (-51) by ring, zpow_add₀ (by norm_num)]
      gcongr
    have hrel : x * 10 * 2 ^ (-51 : ℤ) ≤ x / 100 := by
      have h51 : (2 : ℚ) ^ (-51 : ℤ) ≤ 1 / 1000 := by norm_num
      nlinarith
    have hu : (0 : ℚ) < 2 ^ (-1074 : ℤ) := by positivity
    have hten : x * 10 - x / 100 ≤ y := hy'.trans' (sub_le_sub_left (hunit.trans hrel) _)
    linarith

theorem mul_ten_pow_le {x : ℚ} {k : ℕ} (hx : 2 ^ (-1074 : ℤ) ≤ x)
    (h : (999 / 100) ^ k * (x - 2 ^ (-1074 : ℤ) / 8) + 2 ^ (-1074 : ℤ) / 8 ≤ 10 ^ 16) :
    x * 10 ^ (k + 1) ≤ 10 ^ 18 := by
  have hu : (0 : ℚ) < 2 ^ (-1074 : ℤ) := by positivity
  have hx0 : 0 ≤ x := by linarith
  have hg : (0 : ℚ) ≤ (999 / 100) ^ k := by positivity
  -- the shift by an eighth of the least subnormal costs at most an eighth of the value
  have hgrown : (999 / 100) ^ k * x * 7 / 8 ≤ 10 ^ 16 := by
    have : (999 / 100 : ℚ) ^ k * (x * 7 / 8) ≤ (999 / 100) ^ k * (x - 2 ^ (-1074 : ℤ) / 8) := by
      gcongr
      linarith
    nlinarith
  -- at most 400 raises: `9 ^ 401` times the least subnormal is far past `10¹⁶`
  have hk : k ≤ 400 := by
    by_contra hk
    have h9 : (9 : ℚ) ^ 401 ≤ (999 / 100) ^ k :=
      (pow_le_pow_right₀ (by norm_num) (by omega)).trans (pow_le_pow_left₀ (by norm_num) (by norm_num) k)
    have hprod := mul_le_mul h9 hx hu.le hg
    have hsmall' : (9 : ℚ) ^ 401 * 2 ^ (-1074 : ℤ) * 7 / 8 ≤ 10 ^ 16 :=
      calc (9 : ℚ) ^ 401 * 2 ^ (-1074 : ℤ) * 7 / 8 ≤ (999 / 100) ^ k * x * 7 / 8 := by gcongr
        _ ≤ 10 ^ 16 := hgrown
    have hsmall := mul_le_mul_of_nonneg_right hsmall' (by positivity : (0 : ℚ) ≤ 2 ^ 1074)
    have hunit : (2 : ℚ) ^ (-1074 : ℤ) * 2 ^ 1074 = 1 := by
      rw [zpow_neg, zpow_ofNat]
      exact inv_mul_cancel₀ (by positivity)
    have hbig : (8 * 10 ^ 16 * 2 ^ 1074 : ℕ) < 7 * 9 ^ 401 := by decide +kernel
    have hbig' : (8 * 10 ^ 16 * 2 ^ 1074 : ℚ) < 7 * 9 ^ 401 := by exact_mod_cast hbig
    generalize (9 : ℚ) ^ 401 = A at hsmall hbig'
    generalize (2 : ℚ) ^ 1074 = B at hsmall hbig' hunit
    rw [show A * 2 ^ (-1074 : ℤ) * 7 / 8 * B = A * 7 / 8 * (2 ^ (-1074 : ℤ) * B) by ring,
      hunit] at hsmall
    linarith only [hsmall, hbig']
  -- so the rate loses a factor of `6/10` at most against ten: `(999/1000)^k ≥ 1 - k/1000`
  have hb : 6 / 10 * 10 ^ k ≤ (999 / 100 : ℚ) ^ k := by
    have hbern := one_add_mul_le_pow (show (-2 : ℚ) ≤ -1 / 1000 by norm_num) k
    have hk' : (k : ℚ) ≤ 400 := by exact_mod_cast hk
    rw [show (999 / 100 : ℚ) = 10 * (1 + -1 / 1000) by norm_num, mul_pow]
    have h10 : (0 : ℚ) < 10 ^ k := by positivity
    nlinarith
  have hb' : 6 / 10 * 10 ^ k * x ≤ (999 / 100 : ℚ) ^ k * x := mul_le_mul_of_nonneg_right hb hx0
  calc x * 10 ^ (k + 1) = 10 * (10 ^ k * x) := by ring
    _ ≤ 10 ^ 18 := by linarith

end Values

section Loops

variable {κ : Type} {o : SolverOptions} {solve : SparseSolver} {h : Linear.ColumnMatrix}
  {g diag : List Float}

/-- A damping loop has ended by one of its own exits: a step was accepted, the step was
negligible, or the damping is past its limit. -/
def StepState.Ended (s : StepState κ) : Prop :=
  s.accepted = true ∨ s.converged.isSome = true ∨ ¬s.damping ≤ maxDamping

theorem tryDamping_of_not_le {st : StepState κ} (hmax : ¬st.damping ≤ maxDamping) :
    ∀ fuel, tryDamping o solve h g diag st fuel = .ok st
  | 0 => rfl
  | _ + 1 => by simp [tryDamping, hmax]

/-- One trial of a damping loop within the limit, whatever fuel is left after it: one sparse
solve, then the loop stops at an own exit with the damping kept or lowered, fails, or goes on
with the damping raised tenfold. -/
theorem tryDamping_step {st : StepState κ} (hmax : st.damping ≤ maxDamping) :
    (∃ s, (∀ f, tryDamping o solve h g diag st (f + 1) = .ok s) ∧ s.Ended ∧
        (s.damping = st.damping ∨ s.damping = lowered st.damping) ∧ s.solves = st.solves + 1) ∨
      (∃ e, ∀ f, tryDamping o solve h g diag st (f + 1) = .error e) ∨
      ∃ q, ∀ f, tryDamping o solve h g diag st (f + 1) = tryDamping o solve h g diag
        { st with problem := q, damping := st.damping * 10.0, solves := st.solves + 1 } f := by
  simp only [tryDamping, hmax, decide_true, Bool.not_true, Bool.false_eq_true, if_false]
  generalize (solve (h.addDiagonal (diag.map (st.damping * ·))) (g.map (-·))).getD
    (g.map fun _ => Float.ofBits 0x7FF8000000000000) = δ
  cases hfin : allFinite δ
  · -- a step that is not finite only raises the damping
    simp only [Bool.not_false, if_true]
    exact .inr (.inr ⟨st.problem, fun f => rfl⟩)
  simp only [Bool.not_true, Bool.false_eq_true, if_false]
  cases SolverOptions.addend o.parameterTolerance with
  | error e => exact .inr (.inl ⟨e, fun f => rfl⟩)
  | ok tol =>
  simp only [bind, Except.bind]
  by_cases hpar : Linear.norm δ ≤ tol * (Linear.norm st.x + tol)
  · simp only [hpar, if_true]
    exact .inl ⟨_, fun f => rfl, .inr (.inl rfl), .inl rfl, rfl⟩
  simp only [hpar, if_false]
  generalize List.map (fun x => x.1 + x.2) (st.x.zip δ) = moved
  cases (st.problem.setState moved).cost with
  | error e => exact .inr (.inl ⟨e, fun f => rfl⟩)
  | ok c =>
    dsimp only
    cases (!(c.isNaN || c.isInf) && decide (c < st.cost))
    · -- the step is rejected: the blocks are set back and the damping raised
      exact .inr (.inr ⟨st.problem.setState st.x, fun f => rfl⟩)
    · -- the step is accepted, and the function tolerance is read
      cases SolverOptions.factor o.functionTolerance with
      | error e => exact .inr (.inl ⟨e, fun f => rfl⟩)
      | ok ftol =>
        refine .inl ⟨_, fun f => rfl, ?_, .inr ?_, ?_⟩
        · split <;> exact .inl rfl
        · split <;> rfl
        · split <;> rfl

/-- Fuel past the point where the damping passes its limit changes nothing. -/
theorem tryDamping_add : ∀ {f : Nat} {st : StepState κ}, PassesWithin st.damping f →
    ∀ k, tryDamping o solve h g diag st (f + k) = tryDamping o solve h g diag st f
  | 0, st, hp, k => by
    rw [Nat.zero_add, tryDamping_of_not_le hp.not_le, tryDamping_of_not_le hp.not_le]
  | f + 1, st, hp, k => by
    by_cases hmax : st.damping ≤ maxDamping
    · rw [show f + 1 + k = (f + k) + 1 by omega]
      rcases tryDamping_step hmax with ⟨s, hs, -⟩ | ⟨e, he⟩ | ⟨q, hq⟩
      · rw [hs, hs]
      · rw [he, he]
      · -- the state is named first: its damping is then read off, not computed
        have hp' : PassesWithin
            ({ st with problem := q, damping := st.damping * 10.0, solves := st.solves + 1 } :
              StepState κ).damping f := hp.mul_ten hmax
        rw [hq, hq]
        exact tryDamping_add hp' k
    · rw [tryDamping_of_not_le hmax, tryDamping_of_not_le hmax]

/-- A loop given fuel enough for its damping to pass the limit ends by one of its own exits. -/
theorem tryDamping_ended : ∀ {f : Nat} {st s : StepState κ}, PassesWithin st.damping f →
    tryDamping o solve h g diag st f = .ok s → s.Ended
  | 0, st, s, hp, hrun => by
    cases hrun
    exact .inr (.inr hp.not_le)
  | f + 1, st, s, hp, hrun => by
    by_cases hmax : st.damping ≤ maxDamping
    · rcases tryDamping_step hmax with ⟨s', hs', hend, -⟩ | ⟨e, he⟩ | ⟨q, hq⟩
      · rw [hs'] at hrun
        cases hrun
        exact hend
      · rw [he] at hrun
        cases hrun
      · have hp' : PassesWithin
            ({ st with problem := q, damping := st.damping * 10.0, solves := st.solves + 1 } :
              StepState κ).damping f := hp.mul_ten hmax
        rw [hq] at hrun
        exact tryDamping_ended hp' hrun
    · rw [tryDamping_of_not_le hmax] at hrun
      cases hrun
      exact .inr (.inr hmax)

theorem tryDamping_damping : ∀ {f : Nat} {st s : StepState κ},
    tryDamping o solve h g diag st f = .ok s → ¬st.damping ≤ 0 → ¬s.damping ≤ 0
  | 0, st, s, hrun, hd => by
    cases hrun
    exact hd
  | f + 1, st, s, hrun, hd => by
    by_cases hmax : st.damping ≤ maxDamping
    · rcases tryDamping_step hmax with ⟨s', hs', -, hdamp, -⟩ | ⟨e, he⟩ | ⟨q, hq⟩
      · rw [hs'] at hrun
        cases hrun
        rcases hdamp with hdamp | hdamp <;> rw [hdamp]
        · exact hd
        · exact not_le_zero_lowered _
      · rw [he] at hrun
        cases hrun
      · have hd' : ¬({ st with problem := q, damping := st.damping * 10.0, solves := st.solves + 1 } :
            StepState κ).damping ≤ 0 := not_le_zero_mul_ten hd hmax
        rw [hq] at hrun
        exact tryDamping_damping hrun hd'
    · rw [tryDamping_of_not_le hmax] at hrun
      cases hrun
      exact hd

theorem tryDamping_solves : ∀ {f : Nat} {st s : StepState κ} {x : ℚ},
    tryDamping o solve h g diag st f = .ok s → rationalOf st.damping.toModel.unpack = some x →
      0 < x → s.solves = st.solves ∨ ∃ k, s.solves = st.solves + (k + 1) ∧
        (999 / 100) ^ k * (x - 2 ^ (-1074 : ℤ) / 8) + 2 ^ (-1074 : ℤ) / 8 ≤ 10 ^ 16
  | 0, st, s, x, hrun, _, _ => by
    cases hrun
    exact .inl rfl
  | f + 1, st, s, x, hrun, hx, hpos => by
    by_cases hmax : st.damping ≤ maxDamping
    · have hx16 := value_le_of_le_maxDamping hx hpos hmax
      have hfirst : (999 / 100 : ℚ) ^ 0 * (x - 2 ^ (-1074 : ℤ) / 8) + 2 ^ (-1074 : ℤ) / 8 ≤ 10 ^ 16 := by
        simpa using hx16
      rcases tryDamping_step hmax with ⟨s', hs', -, -, hsolves⟩ | ⟨e, he⟩ | ⟨q, hq⟩
      · rw [hs'] at hrun
        cases hrun
        exact .inr ⟨0, hsolves, hfirst⟩
      · rw [he] at hrun
        cases hrun
      · obtain ⟨y, hy, hge⟩ := value_mul_ten_ge hx hpos hx16
        obtain ⟨-, -, -, -, -, hleast⟩ := unpack_of_value_pos hx hpos
        have hu : (0 : ℚ) < 2 ^ (-1074 : ℤ) := by positivity
        have hypos : 0 < y := by linarith
        rw [hq] at hrun
        rcases tryDamping_solves hrun hy hypos with heq | ⟨k, hk, hbound⟩
        · exact .inr ⟨0, heq, hfirst⟩
        · refine .inr ⟨k + 1, by rw [hk]; dsimp only; omega, ?_⟩
          -- one raise more: `999/100 (x - c) ≤ y - c`, as `c` is an eighth of the subnormal
          calc (999 / 100 : ℚ) ^ (k + 1) * (x - 2 ^ (-1074 : ℤ) / 8) + 2 ^ (-1074 : ℤ) / 8
              = (999 / 100) ^ k * (999 / 100 * (x - 2 ^ (-1074 : ℤ) / 8)) + 2 ^ (-1074 : ℤ) / 8 := by
                ring
            _ ≤ (999 / 100) ^ k * (y - 2 ^ (-1074 : ℤ) / 8) + 2 ^ (-1074 : ℤ) / 8 := by
                gcongr
                linarith only [hge, hu]
            _ ≤ 10 ^ 16 := hbound
    · rw [tryDamping_of_not_le hmax] at hrun
      cases hrun
      exact .inl rfl

/-- A loop entered at a positive value `x` of at most `10¹⁸` makes `t` sparse solves with
`x · 10^t ≤ 10^18`. -/
theorem tryDamping_solves_le {f : Nat} {st s : StepState κ} {x : ℚ}
    (hrun : tryDamping o solve h g diag st f = .ok s)
    (hx : rationalOf st.damping.toModel.unpack = some x) (hpos : 0 < x) (hx18 : x ≤ 10 ^ 18) :
    ∃ t, s.solves = st.solves + t ∧ x * 10 ^ t ≤ 10 ^ 18 := by
  rcases tryDamping_solves hrun hx hpos with heq | ⟨k, hk, hbound⟩
  · exact ⟨0, heq, by simpa using hx18⟩
  · obtain ⟨-, -, -, -, -, hleast⟩ := unpack_of_value_pos hx hpos
    exact ⟨k + 1, hk, mul_ten_pow_le hleast hbound⟩

end Loops

section Runs

/-- A damping loop as a solve records it, by entry damping and sparse solves: entered at that
damping with no solve made and given the fuel of an iteration, it made that many solves. -/
def LoopRun (κ : Type) (o : SolverOptions) (solve : SparseSolver) (l : Float × Nat) : Prop :=
  ∃ (h : Linear.ColumnMatrix) (g diag : List Float) (st s : StepState κ), st.damping = l.1 ∧
    st.solves = 0 ∧ tryDamping o solve h g diag st trialBound = .ok s ∧ s.solves = l.2

/-- A damping, as the loop state holds it, that reads above zero wherever it reads as a number. -/
def DampingAbove (j : Json) : Prop := ∀ d, SolverOptions.compared j = .ok d → ¬d ≤ 0

variable {κ : Type} {o : SolverOptions} {solve : SparseSolver}

theorem LoopRun.solves_eq_zero {l : Float × Nat} (hl : LoopRun κ o solve l)
    (hmax : ¬l.1 ≤ maxDamping) : l.2 = 0 := by
  obtain ⟨d, t⟩ := l
  obtain ⟨h, g, diag, st, s, rfl, h0, hrun, rfl⟩ := hl
  rw [tryDamping_of_not_le hmax] at hrun
  cases hrun
  exact h0

theorem LoopRun.mul_pow_le {l : Float × Nat} (hl : LoopRun κ o solve l) {x : ℚ}
    (hx : rationalOf l.1.toModel.unpack = some x) (hpos : 0 < x) (hx18 : x ≤ 10 ^ 18) :
    x * 10 ^ l.2 ≤ 10 ^ 18 := by
  obtain ⟨d, t⟩ := l
  obtain ⟨h, g, diag, st, s, rfl, h0, hrun, rfl⟩ := hl
  obtain ⟨t, ht, hbound⟩ := tryDamping_solves_le hrun hx hpos hx18
  rw [ht, h0, Nat.zero_add]
  exact hbound

theorem iterate_loops {n it : Nat} {st st' : LoopState κ}
    (hrun : iterate o solve n st it = .ok st') :
    st' = st ∨ (st'.summary.loops = st.summary.loops ∧ st'.damping = st.damping) ∨
      ∃ d, SolverOptions.compared st.damping = .ok d ∧ ∃ h g diag s,
        tryDamping o solve h g diag (⟨st.problem, st.x, st.cost, d, false, none, 0⟩ : StepState κ)
          trialBound = .ok s ∧
        st'.summary.loops = st.summary.loops ++ [(d, s.solves)] ∧ st'.damping = .float s.damping := by
  unfold iterate at hrun
  split at hrun
  · cases hrun
    exact .inl rfl
  obtain ⟨⟨h, g⟩, -, hrun⟩ := Outcome.bind_eq_ok hrun
  dsimp only at hrun
  obtain ⟨gtol, -, hrun⟩ := Outcome.bind_eq_ok hrun
  split at hrun
  · cases hrun
    exact .inr (.inl ⟨rfl, rfl⟩)
  obtain ⟨d, hd, hrun⟩ := Outcome.bind_eq_ok hrun
  obtain ⟨s, hs, hrun⟩ := Outcome.bind_eq_ok hrun
  refine .inr (.inr ⟨d, hd, h, g, _, s, hs, ?_⟩)
  split at hrun
  · cases hrun
    exact ⟨rfl, rfl⟩
  split at hrun
  · cases hrun
    exact ⟨rfl, rfl⟩
  · cases hrun
    exact ⟨rfl, rfl⟩

theorem runIterations_loops {n : Nat} {expired : Nat → Bool} {budget it : Nat}
    {st st' : LoopState κ} (hrun : runIterations o solve n expired st it budget = .ok st')
    (hruns : ∀ l ∈ st.summary.loops, LoopRun κ o solve l) (hlen : st.summary.loops.length < it) :
    (∀ l ∈ st'.summary.loops, LoopRun κ o solve l) ∧ st'.summary.loops.length < it + budget :=
  runIterations_invariant
    (fun it st => (∀ l ∈ st.summary.loops, LoopRun κ o solve l) ∧ st.summary.loops.length < it)
    (fun it st st' ⟨hruns, hlen⟩ hiter => by
      rcases iterate_loops hiter with rfl | ⟨hsame, -⟩ | ⟨d, -, h, g, diag, s, hs, hloops, -⟩
      · exact ⟨hruns, by omega⟩
      · rw [hsame]
        exact ⟨hruns, by omega⟩
      · rw [hloops]
        refine ⟨fun l hl => ?_, by simp; omega⟩
        rcases List.mem_append.mp hl with hl | hl
        · exact hruns l hl
        · rw [List.mem_singleton.mp hl]
          exact ⟨h, g, diag, _, s, rfl, rfl, hs, rfl⟩)
    (fun _ _ ⟨hruns, hlen⟩ => ⟨hruns, by dsimp only; omega⟩)
    (fun _ _ ⟨hruns, hlen⟩ => ⟨hruns, by omega⟩) hrun ⟨hruns, hlen⟩

theorem runIterations_above {n : Nat} {expired : Nat → Bool} {budget it : Nat}
    {st st' : LoopState κ} (hrun : runIterations o solve n expired st it budget = .ok st')
    (hd : DampingAbove st.damping) (hloops : ∀ l ∈ st.summary.loops, ¬l.1 ≤ 0) :
    DampingAbove st'.damping ∧ ∀ l ∈ st'.summary.loops, ¬l.1 ≤ 0 :=
  runIterations_invariant
    (fun _ st => DampingAbove st.damping ∧ ∀ l ∈ st.summary.loops, ¬l.1 ≤ 0)
    (fun it st st' ⟨hd, hloops⟩ hiter => by
      rcases iterate_loops hiter with rfl | ⟨hsame, hdamp⟩ | ⟨d, hread, h, g, diag, s, hs, hl, hdamp⟩
      · exact ⟨hd, hloops⟩
      · rw [hsame, hdamp]
        exact ⟨hd, hloops⟩
      · -- the loop is entered at the damping read, and leaves a damping above zero
        have hd' : ¬d ≤ 0 := hd d hread
        refine ⟨fun d' hd'' => ?_, fun l hl' => ?_⟩
        · rw [hdamp] at hd''
          cases hd''
          exact tryDamping_damping hs hd'
        · rw [hl] at hl'
          rcases List.mem_append.mp hl' with hl' | hl'
          · exact hloops l hl'
          · rw [List.mem_singleton.mp hl']
            exact hd')
    (fun _ _ h => h) (fun _ _ h => h) hrun ⟨hd, hloops⟩

/-- The loops a solve records: each run with the fuel of an iteration, no more of them than the
iteration limit, and all entered above zero when the initial damping reads above zero. -/
theorem solveWith_loops {clock : Nat → Float} {p q : Problem κ} {s : Summary}
    (h : p.solveWith clock solve o = .ok (s, q)) :
    (∀ l ∈ s.loops, LoopRun κ o solve l) ∧
      (∀ m, SolverOptions.iterationLimit o.maxIterations = .ok m →
        (s.loops.length : ℤ) ≤ max m 0) ∧
      (DampingAbove o.initialDamping → ∀ l ∈ s.loops, ¬l.1 ≤ 0) := by
  rcases solveWith_cases h with ⟨-, -, -, -, hnone, -⟩ |
    ⟨c, m, limit, st, -, -, hm, hpos, hst, -, -, -, hloops, -, -⟩
  · rw [hnone]
    exact ⟨by simp, fun _ _ => by simp, fun _ => by simp⟩
  obtain ⟨hruns, hlen⟩ := runIterations_loops hst (by simp) (by simp)
  refine ⟨hloops ▸ hruns, fun m' hm' => ?_, fun hd => hloops ▸
    (runIterations_above hst hd (by simp)).2⟩
  rw [hm] at hm'
  cases hm'
  rw [hloops]
  omega

theorem sparseSolves_eq_sum (s : Summary) : s.sparseSolves = (s.loops.map (·.2)).sum := by
  simp [Summary.sparseSolves, List.sum, List.foldr_map]

theorem solves_le_logb {x : ℚ} {t : ℕ} (hpos : 0 < x) (h : x * 10 ^ t ≤ 10 ^ 18) :
    (t : ℝ) ≤ Real.logb 10 (10 ^ 16 / x) + 2 := by
  have hx : (0 : ℝ) < x := by exact_mod_cast hpos
  have h' : (x : ℝ) * 10 ^ t ≤ 10 ^ 18 := by exact_mod_cast h
  have key : (t : ℝ) - 2 ≤ Real.logb 10 (10 ^ 16 / x) := by
    rw [Real.le_logb_iff_rpow_le (by norm_num) (by positivity), Real.rpow_sub (by norm_num),
      Real.rpow_natCast, le_div_iff₀ hx, show (10 : ℝ) ^ (2 : ℝ) = 100 by norm_num]
    linarith
  linarith

/-- A loop entered at or above a float of positive value `x ≤ 10¹⁸` makes at most the bound at
`x`: within the limit it is entered at a value at least `x`, whose bound is smaller, and past
the limit it makes no solve. -/
theorem LoopRun.solves_le_logb_of_le {l : Float × Nat} (hl : LoopRun κ o solve l) {d : Float}
    {x : ℚ} (hx : rationalOf d.toModel.unpack = some x) (hpos : 0 < x) (hx18 : x ≤ 10 ^ 18)
    (hd : d ≤ l.1) : (l.2 : ℝ) ≤ Real.logb 10 (10 ^ 16 / x) + 2 := by
  by_cases hmax : l.1 ≤ maxDamping
  · obtain ⟨y, hy, hxy⟩ := value_le_of_le hx hpos hd hmax
    have hypos : 0 < y := lt_of_lt_of_le hpos hxy
    have hy18 : y ≤ 10 ^ 18 := (value_le_of_le_maxDamping hy hypos hmax).trans (by norm_num)
    calc (l.2 : ℝ) ≤ Real.logb 10 (10 ^ 16 / y) + 2 :=
          solves_le_logb hypos (hl.mul_pow_le hy hypos hy18)
      _ ≤ Real.logb 10 (10 ^ 16 / x) + 2 := by
        have hxr : (0 : ℝ) < x := by exact_mod_cast hpos
        have hxyr : (x : ℝ) ≤ y := by exact_mod_cast hxy
        gcongr
        norm_num
  · rw [hl.solves_eq_zero hmax, Nat.cast_zero]
    simpa using solves_le_logb (t := 0) hpos (by simpa using hx18)

theorem sparseSolves_le {s : Summary} {B : ℝ} (h : ∀ l ∈ s.loops, (l.2 : ℝ) ≤ B) :
    (s.sparseSolves : ℝ) ≤ s.loops.length * B := by
  have hsum := List.sum_le_card_nsmul (s.loops.map fun l => (l.2 : ℝ)) B fun r hr => by
    obtain ⟨l, hl, rfl⟩ := List.mem_map.mp hr
    exact h l hl
  rw [List.length_map, nsmul_eq_mul] at hsum
  have hcast : (s.sparseSolves : ℝ) = (s.loops.map fun l => (l.2 : ℝ)).sum := by
    simp [sparseSolves_eq_sum, Nat.cast_list_sum, List.map_map, Function.comp_def]
  rw [hcast]
  exact hsum

/-- A solve makes finitely many sparse solves. Each damping loop entered above zero ends by one
of its own exits within `dampingTrials` trials, more fuel changing nothing, and a solve whose
initial damping reads above zero enters every loop above zero. A loop entered past the limit
makes no solve; a loop entered at a positive value `x` of at most `10¹⁸` makes at most
`log₁₀ (10¹⁶ / x) + 2`. There are no more loops than the iteration limit `m`, so for any float
`d` of positive value `x ≤ 10¹⁸` at or below every entry damping, the solve makes at most
`max m 0 · (log₁₀ (10¹⁶ / x) + 2)` sparse solves. -/
theorem sparse_solves_bounded (o : SolverOptions) (solve : SparseSolver) :
    (∀ (h : Linear.ColumnMatrix) (g diag : List Float) (st : StepState κ) (fuel : Nat),
      ¬st.damping ≤ 0 → dampingTrials ≤ fuel →
        tryDamping o solve h g diag st fuel = tryDamping o solve h g diag st dampingTrials ∧
        ∀ s, tryDamping o solve h g diag st fuel = .ok s → s.Ended) ∧
    ∀ (clock : Nat → Float) (p q : Problem κ) (s : Summary),
      p.solveWith clock solve o = .ok (s, q) →
      (DampingAbove o.initialDamping → ∀ l ∈ s.loops, ¬l.1 ≤ 0) ∧
      (∀ l ∈ s.loops, ¬l.1 ≤ maxDamping → l.2 = 0) ∧
      (∀ l ∈ s.loops, ∀ x : ℚ, rationalOf l.1.toModel.unpack = some x → 0 < x → x ≤ 10 ^ 18 →
        (l.2 : ℝ) ≤ Real.logb 10 (10 ^ 16 / x) + 2) ∧
      ∀ m, SolverOptions.iterationLimit o.maxIterations = .ok m →
        (s.loops.length : ℤ) ≤ max m 0 ∧
        ∀ (d : Float) (x : ℚ), rationalOf d.toModel.unpack = some x → 0 < x → x ≤ 10 ^ 18 →
          (∀ l ∈ s.loops, d ≤ l.1) →
          (s.sparseSolves : ℝ) ≤ ((max m 0 : ℤ) : ℝ) * (Real.logb 10 (10 ^ 16 / x) + 2) := by
  refine ⟨fun h g diag st fuel hd hf => ⟨?_, fun s hrun => ?_⟩, fun clock p q s hsolve => ?_⟩
  · obtain ⟨k, rfl⟩ := Nat.exists_eq_add_of_le hf
    exact tryDamping_add (passesWithin_of_not_le_zero hd le_rfl) k
  · exact tryDamping_ended (passesWithin_of_not_le_zero hd hf) hrun
  obtain ⟨hruns, hlen, habove⟩ := solveWith_loops hsolve
  have hlog : ∀ l ∈ s.loops, ∀ x : ℚ, rationalOf l.1.toModel.unpack = some x → 0 < x →
      x ≤ 10 ^ 18 → (l.2 : ℝ) ≤ Real.logb 10 (10 ^ 16 / x) + 2 :=
    fun l hl x hx hpos hx18 => solves_le_logb hpos ((hruns l hl).mul_pow_le hx hpos hx18)
  refine ⟨habove, fun l hl => (hruns l hl).solves_eq_zero, hlog, fun m hm => ⟨hlen m hm, ?_⟩⟩
  intro d x hx hpos hx18 hd
  have hB : (0 : ℝ) ≤ Real.logb 10 (10 ^ 16 / x) + 2 := by
    simpa using solves_le_logb (t := 0) hpos (by simpa using hx18)
  have hlenr : (s.loops.length : ℝ) ≤ ((max m 0 : ℤ) : ℝ) := by exact_mod_cast hlen m hm
  calc (s.sparseSolves : ℝ) ≤ s.loops.length * (Real.logb 10 (10 ^ 16 / x) + 2) :=
        sparseSolves_le fun l hl => (hruns l hl).solves_le_logb_of_le hx hpos hx18 (hd l hl)
    _ ≤ ((max m 0 : ℤ) : ℝ) * (Real.logb 10 (10 ^ 16 / x) + 2) := by gcongr

/-- Under the default options a solve of `offsetProblem` runs three damping loops of one sparse
solve each, entered at dampings at least `2⁻²⁰`, within the bound of `100` iterations at that
damping. -/
theorem offsetProblem_sparse_solves :
    ∃ s q, offsetProblem.solve {} = .ok (s, q) ∧ s.loops.map (·.2) = [1, 1, 1] ∧
      (s.sparseSolves : ℝ) ≤
        ((max 100 0 : ℤ) : ℝ) * (Real.logb 10 (10 ^ 16 / ((2 ^ (-20 : ℤ) : ℚ) : ℝ)) + 2) := by
  have hd : rationalOf (9.5367431640625e-07 : Float).toModel.unpack = some (2 ^ (-20 : ℤ)) := by
    decide +kernel
  have hok : ((offsetProblem.solve {}).toOption.map fun r =>
      r.1.loops.map (·.2) == [1, 1, 1] &&
        r.1.loops.all fun l => decide ((9.5367431640625e-07 : Float) ≤ l.1)) = some true := by
    decide +kernel
  obtain ⟨r, hs, hr⟩ := Outcome.ok_of_toOption_map hok
  simp only [Bool.and_eq_true, beq_iff_eq, List.all_eq_true, decide_eq_true_eq] at hr
  refine ⟨r.1, r.2, hs, hr.1, ?_⟩
  exact ((sparse_solves_bounded {} Linear.solveSystem).2 _ _ _ _ hs).2.2.2 100 rfl |>.2 _ _ hd
    (by positivity) (by norm_num) hr.2

end Runs

section Frame

variable {κ : Type} {p : Problem κ}

theorem argsOf_setState_of_constant {r : ResidualBlock}
    (hr : ∀ i ∈ r.blocks, (p.blocks.getD i default).constant = true) (x : List Float) :
    (p.setState x).argsOf r = p.argsOf r := by
  unfold argsOf
  refine List.map_congr_left fun i hi => ?_
  simp only [List.getD_eq_getElem?_getD, p.getElem?_setState_of_constant x (hr i hi)]

theorem cost_setState_of_constant
    (hr : ∀ r ∈ p.residuals, ∀ i ∈ r.blocks, (p.blocks.getD i default).constant = true)
    (x : List Float) : (p.setState x).cost = p.cost := by
  have hres : (p.setState x).residuals = p.residuals := rfl
  have hcost : ∀ r ∈ p.residuals, (p.setState x).residualCost r = p.residualCost r :=
    fun r hr' => by
      unfold residualCost
      rw [argsOf_setState_of_constant (hr r hr') x]
  unfold cost
  rw [hres]
  generalize (0.0 : Float) = acc
  generalize p.residuals = rs at hcost ⊢
  -- the sum runs over the residuals, each costing the same on both sides
  induction rs generalizing acc with
  | nil => rfl
  | cons r rs ih =>
    rw [List.foldlM_cons, List.foldlM_cons, hcost r List.mem_cons_self]
    cases p.residualCost r with
    | error e => rfl
    | ok c => exact ih (acc + c) fun r' h' => hcost r' (List.mem_cons_of_mem _ h')

end Frame

section ZeroDamping

/-- A free number `x` at `2` that nothing reads, and the residual `y - z` of two constant numbers
at `2`. -/
def loneProblem : Problem String :=
  { keys := ["x", "y", "z"],
    blocks := [⟨[2.0], [1], false⟩, ⟨[2.0], [1], true⟩, ⟨[2.0], [1], true⟩],
    residuals := [⟨ResidualBlock.ofVectors fun args =>
      .ok (List.zipWith (· - ·) (args.getD 0 []) (args.getD 1 [])), [1, 2], none⟩] }

/-- Options of no initial damping whose gradient and parameter tolerances are never met. -/
def zeroDampingOptions : SolverOptions :=
  { gradientTolerance := .float (-1.0), parameterTolerance := .float (-1.0),
    initialDamping := .float 0.0 }

/-- The damping loop of the first iteration of a solve of `loneProblem` under
`zeroDampingOptions`, after `n` sparse solves: its values, its cost and no damping. -/
def loneStart (n : Nat) : StepState String := ⟨loneProblem, [2.0], 0.0, 0.0, false, none, n⟩

theorem loneProblem_cost : loneProblem.cost = .ok 0.0 := by
  have hbits : (loneProblem.cost.toOption.map fun c => c.toModel.toBits) =
      some (0.0 : Float).toModel.toBits := by
    decide +kernel
  obtain ⟨c, hc, hbits⟩ := Outcome.ok_of_toOption_map hbits
  rw [hc, float_eq_of_toBits hbits]

theorem loneProblem_constant : ∀ r ∈ loneProblem.residuals, ∀ i ∈ r.blocks,
    (loneProblem.blocks.getD i default).constant = true := by
  intro r hr i hi
  simp only [loneProblem, List.mem_singleton] at hr
  subst hr
  simp only [List.mem_cons, List.not_mem_nil, or_false] at hi
  rcases hi with rfl | rfl <;> rfl

/-- With no damping, the damping loop started at `loneStart` is back at its start after every
trial, one sparse solve further, whatever the normal equations and the sparse solver: every
trial is rejected or not finite. -/
theorem loneStart_loop_returns (solve : SparseSolver) (h : Linear.ColumnMatrix)
    (g diag : List Float) :
    ∀ fuel n, tryDamping zeroDampingOptions solve h g diag (loneStart n) fuel =
      .ok (loneStart (n + fuel)) := by
  have hmax : ∀ n, (loneStart n).damping ≤ maxDamping := fun _ =>
    show (0.0 : Float) ≤ maxDamping by decide +kernel
  intro fuel
  induction fuel with
  | zero => intro n; rfl
  | succ f ih =>
    intro n
    simp only [tryDamping, hmax, decide_true, Bool.not_true, Bool.false_eq_true, if_false]
    generalize (solve (h.addDiagonal (diag.map ((loneStart n).damping * ·)))
      (g.map (-·))).getD (g.map fun _ => Float.ofBits 0x7FF8000000000000) = δ
    have hzero : (0.0 : Float) * 10.0 = 0.0 := float_eq_of_toBits (by decide +kernel)
    have hraise : ({ loneStart n with
        solves := (loneStart n).solves + 1, damping := (loneStart n).damping * 10.0 } :
          StepState String) = loneStart (n + 1) := by
      simp only [loneStart, hzero]
    have hend : n + 1 + f = n + (f + 1) := by omega
    cases hfin : allFinite δ
    · simp only [Bool.not_false, if_true]
      rw [hraise, ih, hend]
    simp only [Bool.not_true, Bool.false_eq_true, if_false]
    -- the tolerance side is below zero, and no norm is
    have hneg : (-1.0 : Float) * (Linear.norm (loneStart n).x + -1.0) < 0 :=
      show (-1.0 : Float) * (Linear.norm [2.0] + -1.0) < 0 by decide +kernel
    have hpar : ¬Linear.norm δ ≤ (-1.0 : Float) * (Linear.norm (loneStart n).x + -1.0) :=
      fun hle => sqrt_not_lt_zero _ (float_lt_of_le_of_lt hle hneg)
    have htol : SolverOptions.addend zeroDampingOptions.parameterTolerance = .ok (-1.0) := rfl
    rw [htol]
    dsimp only [bind, Except.bind]
    rw [if_neg hpar]
    generalize List.map (fun x => x.1 + x.2) ((loneStart n).x.zip δ) = moved
    -- whatever the step, the cost stays at zero, which is not below itself
    have hcost : ((loneStart n).problem.setState moved).cost = .ok 0.0 :=
      (cost_setState_of_constant loneProblem_constant moved).trans loneProblem_cost
    have hrej : (!((0.0 : Float).isNaN || (0.0 : Float).isInf) &&
        decide ((0.0 : Float) < (loneStart n).cost)) = false :=
      show (!((0.0 : Float).isNaN || (0.0 : Float).isInf) && decide ((0.0 : Float) < 0.0)) = false by
        decide +kernel
    have hset : (loneStart n).problem.setState (loneStart n).x = (loneStart n).problem :=
      setState_state loneProblem
    rw [hcost]
    dsimp only
    rw [hrej, if_neg Bool.false_ne_true, hset]
    have hraise' : (⟨(loneStart n).problem, (loneStart n).x, (loneStart n).cost,
        (loneStart n).damping * 10.0, (loneStart n).accepted, (loneStart n).converged,
        (loneStart n).solves + 1⟩ : StepState String) = loneStart (n + 1) := hraise
    rw [hraise', ih, hend]

/-- The bound `log₁₀ (10¹⁶ / d) + 2` on the sparse solves of a damping loop fails outside the
positive dampings up to `10¹⁸`. At zero: the first iteration of a solve of `loneProblem` under
`zeroDampingOptions` enters its damping loop (the gradient test fails), and the loop never ends
by an exit of its own, making one sparse solve per unit of fuel, as many as it is given. Above
`10¹⁸`: a solve of `offsetProblem` from the damping `10¹⁹` enters one loop, at that damping,
and makes no solve, while `100 · (log₁₀ (10¹⁶ / 10¹⁹) + 2)` is below zero. -/
theorem damping_bound_fails_outside_range :
    (¬(loneStart 0).Ended ∧
      ∃ h g, loneProblem.normalEquations loneProblem.numFree
          (SolverOptions.factor zeroDampingOptions.jacobianStep) = .ok (h, g) ∧
        SolverOptions.comparedWith zeroDampingOptions.gradientTolerance = .ok (-1.0) ∧
        ¬maxAbs g ≤ -1.0 ∧
        SolverOptions.compared zeroDampingOptions.initialDamping = .ok (loneStart 0).damping ∧
        ∀ (solve : SparseSolver) (fuel : Nat), tryDamping zeroDampingOptions solve h g
          (h.diagonal.map clampDiagonal) (loneStart 0) fuel = .ok (loneStart fuel)) ∧
    ∃ s q, offsetProblem.solve { initialDamping := .float 1e19 } = .ok (s, q) ∧
      s.loops.map (·.2) = [0] ∧
      (∀ l ∈ s.loops, rationalOf l.1.toModel.unpack = some (10 ^ 19)) ∧
      ((max 100 0 : ℤ) : ℝ) * (Real.logb 10 (10 ^ 16 / ((10 ^ 19 : ℚ) : ℝ)) + 2) <
        s.sparseSolves := by
  have hmax : (loneStart 0).damping ≤ maxDamping := by decide +kernel
  have hgrad : (loneProblem.normalEquations loneProblem.numFree
      (SolverOptions.factor zeroDampingOptions.jacobianStep)).toOption.map
        (fun r => decide (maxAbs r.2 ≤ -1.0)) = some false := by
    decide +kernel
  have hok : ((offsetProblem.solve { initialDamping := .float 1e19 }).toOption.map fun r =>
      r.1.loops.map (·.2) == [0] &&
        r.1.loops.all fun l => rationalOf l.1.toModel.unpack == some (10 ^ 19)) = some true := by
    decide +kernel
  have hlog : Real.logb 10 (10 ^ 16 / ((10 ^ 19 : ℚ) : ℝ)) = -3 := by
    rw [show (10 : ℝ) ^ 16 / ((10 ^ 19 : ℚ) : ℝ) = 10 ^ (-3 : ℝ) by norm_num,
      Real.logb_rpow (by norm_num) (by norm_num)]
  refine ⟨⟨fun hend => ?_, ?_⟩, ?_⟩
  · rcases hend with hacc | hconv | hpast
    · cases hacc
    · cases hconv
    · exact hpast hmax
  · obtain ⟨r, hne, hr⟩ := Outcome.ok_of_toOption_map hgrad
    exact ⟨r.1, r.2, hne, rfl, of_decide_eq_false hr, rfl,
      fun solve fuel => by simpa using loneStart_loop_returns solve _ _ _ fuel 0⟩
  · obtain ⟨r, hs, hr⟩ := Outcome.ok_of_toOption_map hok
    simp only [Bool.and_eq_true, beq_iff_eq, List.all_eq_true] at hr
    refine ⟨r.1, r.2, hs, hr.1, hr.2, ?_⟩
    have hzero : r.1.sparseSolves = 0 := by
      simp [sparseSolves_eq_sum, hr.1]
    rw [hzero, hlog]
    norm_num

end ZeroDamping

end Lighthouse.Problem
