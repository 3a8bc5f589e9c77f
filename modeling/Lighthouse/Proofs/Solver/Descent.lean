import Lighthouse.Proofs.Solver.State
import Lighthouse.Proofs.Binary64.Order
import Mathlib
/-!
# What a solve keeps

A solve of a problem `p` moves its free blocks through a chain of accepted steps: each step goes
to a vector of the free parameters whose cost is finite and lower than the cost before it
(`Descent`). Trial vectors that are rejected are written into the blocks to be costed and then
undone, so between trials the blocks always hold `p` set to the current vector (`Tracks`).

Each level of the solve keeps this: a damping loop either leaves vector and cost alone or
accepts one step (`tryDamping_spec`), an iteration runs at most one damping loop
(`iterate_spec`), and a run of iterations is iterations in turn (`runIterations_spec`). Hence,
whatever the clock reads (`solveWith_bookkeeping`), a solve that returns leaves the constant
blocks as they were and the free blocks at the last accepted vector, reports the cost of those
values as its final cost, accepts at most one step per iteration, runs no more iterations than
its limit (none when the limit is not positive), and fails exactly when the initial cost is not
finite. The final cost is below the initial cost exactly when a step was accepted; otherwise
the two are the same value, so that a NaN initial cost is not at least the final one.
-/
namespace Lighthouse

theorem Linear.size_foldl_set {α β : Type} (f : β → Nat) (g : Array α → β → α) (l : List β)
    (a : Array α) : (l.foldl (fun x j => x.set! (f j) (g x j)) a).size = a.size := by
  induction l generalizing a with
  | nil => rfl
  | cons j l ih =>
    rw [List.foldl_cons, ih]
    simp

/-- A sparse solver whose solutions have one entry per unknown. -/
def SparseSolver.Sized (solve : SparseSolver) : Prop :=
  ∀ m b x, solve m b = some x → x.length = m.size

theorem Linear.sized_solveSystem : SparseSolver.Sized Linear.solveSystem := by
  intro m b x h
  unfold Linear.solveSystem at h
  simp only [bind, Option.bind] at h
  split at h
  · cases h
  · cases h
    rw [Array.length_toList, Linear.size_foldl_set, Array.size_replicate]

namespace Problem

variable {κ : Type}

section Sizes

theorem length_foldl_snd {α γ : Type} (F : γ × List Float → α → γ × List Float)
    (hF : ∀ b a, (F b a).2.length = b.2.length) (l : List α) (b : γ × List Float) :
    (l.foldl F b).2.length = b.2.length :=
  List.foldlRecOn (motive := fun acc => acc.2.length = b.2.length) l F rfl fun c hc a _ =>
    (hF c a).trans hc

theorem normalEquations_size {p : Problem κ} {n : Nat} {step : Outcome Float}
    {h : Linear.ColumnMatrix} {g : List Float}
    (hne : p.normalEquations n step = .ok (h, g)) : h.size = n ∧ g.length = n := by
  unfold normalEquations at hne
  obtain ⟨lins, -, hne⟩ := Outcome.bind_eq_ok hne
  obtain ⟨⟨trips, g'⟩, hfold, hne⟩ := Outcome.bind_eq_ok hne
  cases hne
  refine ⟨rfl, Outcome.foldlM_invariant (fun acc => acc.2.length = n) ?_ (by simp) hfold⟩
  rintro ⟨trips, g⟩ ⟨v, jacs, w⟩ acc' hg hstep
  dsimp only at hg hstep
  -- every entry of the gradient is updated in place, so no block changes its length
  split at hstep
  · split at hstep
    · cases hstep
    · cases hstep
      exact (length_foldl_snd _ (fun _ _ => by simp) jacs (trips, g)).trans hg
  · cases hstep
    exact (length_foldl_snd _ (fun _ _ => by simp) jacs (trips, g)).trans hg

theorem length_dampedStep {solve : SparseSolver} (hsolve : solve.Sized) {h : Linear.ColumnMatrix}
    {g d : List Float} {n : Nat} (hh : h.size = n) (hg : g.length = n) :
    ((solve (h.addDiagonal d) (g.map (-·))).getD
      (g.map fun _ => Float.ofBits 0x7FF8000000000000)).length = n := by
  rcases hs : solve (h.addDiagonal d) (g.map (-·)) with _ | x
  · simp [hg]
  · rw [Option.getD_some, hsolve _ _ _ hs]
    exact hh

end Sizes

/-- Steps accepted by a solve of `p` from cost `c₀`: `Descent p c₀ x c k` when `k` steps, each
to a vector of the free parameters whose cost is finite and lower than the one before, lead from
the problem's own values to `x` at cost `c`. -/
inductive Descent (p : Problem κ) (c₀ : Float) : List Float → Float → Nat → Prop
  | start : Descent p c₀ p.state c₀ 0
  | step {x : List Float} {c : Float} {k : Nat} (x' : List Float) (c' : Float) :
      Descent p c₀ x c k → x'.length = p.numFree → (p.setState x').cost = .ok c' →
      (c'.isNaN || c'.isInf) = false → c' < c → Descent p c₀ x' c' (k + 1)

namespace Descent

variable {p : Problem κ} {c₀ c : Float} {x : List Float} {k : Nat}

theorem length (h : Descent p c₀ x c k) : x.length = p.numFree := by
  cases h with
  | start => exact p.length_state
  | step _ _ _ hx => exact hx

theorem cost_eq (h₀ : p.cost = .ok c₀) (h : Descent p c₀ x c k) : (p.setState x).cost = .ok c := by
  cases h with
  | start => rw [setState_state, h₀]
  | step _ _ _ _ hc => exact hc

theorem eq_start (h : Descent p c₀ x c 0) : x = p.state ∧ c = c₀ := by
  cases h
  exact ⟨rfl, rfl⟩

theorem lt_start (h : Descent p c₀ x c k) (hk : 0 < k) : c < c₀ := by
  induction h with
  | start => omega
  | @step x c k _ _ hd _ _ _ hlt ih =>
    rcases Nat.eq_zero_or_pos k with rfl | hk'
    · rw [← hd.eq_start.2]
      exact hlt
    · exact Binary64.float_lt_trans hlt (ih hk')

theorem pos_iff_lt (h : Descent p c₀ x c k) : 0 < k ↔ c < c₀ := by
  refine ⟨h.lt_start, fun hlt => Nat.pos_of_ne_zero fun hk => ?_⟩
  subst hk
  rw [h.eq_start.2] at hlt
  exact Binary64.float_lt_irrefl c₀ hlt

theorem le_start (h : Descent p c₀ x c k) (hn : c₀.isNaN = false) : c ≤ c₀ := by
  rcases Nat.eq_zero_or_pos k with rfl | hk
  · rw [h.eq_start.2]
    exact Binary64.float_le_refl hn
  · exact Binary64.float_le_of_lt (h.lt_start hk)

end Descent

/-- `q` is `p` set to the vector `x`, which covers the free parameters of `p`. -/
def Tracks (p q : Problem κ) (x : List Float) : Prop := q = p.setState x ∧ x.length = p.numFree

theorem Tracks.setState_self {p q : Problem κ} {x : List Float} (h : Tracks p q x) :
    Tracks p (q.setState x) x := by
  obtain ⟨rfl, hx⟩ := h
  exact ⟨p.setState_setState x hx.ge x, hx⟩

theorem Tracks.setState {p q : Problem κ} {x y : List Float} (h : Tracks p q x)
    (hy : y.length = p.numFree) : Tracks p (q.setState y) y := by
  obtain ⟨rfl, hx⟩ := h
  exact ⟨p.setState_setState x hx.ge y, hy⟩

/-- What a damping loop makes of the vector and cost it starts with: it keeps both and accepts
nothing, or it accepts one step to a vector of finite and lower cost. -/
def Trial (p : Problem κ) (x : List Float) (c : Float) (x' : List Float) (c' : Float)
    (accepted : Bool) : Prop :=
  accepted = false ∧ x' = x ∧ c' = c ∨
    accepted = true ∧ x'.length = p.numFree ∧ (p.setState x').cost = .ok c' ∧
      (c'.isNaN || c'.isInf) = false ∧ c' < c

theorem Trial.refl (p : Problem κ) (x : List Float) (c : Float) : Trial p x c x c false :=
  .inl ⟨rfl, rfl, rfl⟩

theorem Trial.descent {p : Problem κ} {c₀ c c' : Float} {x x' : List Float} {k : Nat}
    {accepted : Bool} (ht : Trial p x c x' c' accepted) (hd : Descent p c₀ x c k) :
    ∃ k' ≤ k + 1, Descent p c₀ x' c' k' := by
  rcases ht with ⟨-, rfl, rfl⟩ | ⟨-, hlen, hcost, hfin, hlt⟩
  · exact ⟨k, k.le_succ, hd⟩
  · exact ⟨k + 1, le_rfl, hd.step x' c' hlen hcost hfin hlt⟩

section Loops

variable {p : Problem κ} {o : SolverOptions} {solve : SparseSolver}

theorem length_addStep {x d : List Float} {n : Nat} (hx : x.length = n) (hd : d.length = n) :
    ((x.zip d).map fun e => e.1 + e.2).length = n := by
  rw [List.length_map, List.length_zip, hx, hd, Nat.min_self]

/-- A damping loop keeps the blocks at its vector and accepts at most one step. -/
theorem tryDamping_spec (hsolve : solve.Sized) {h : Linear.ColumnMatrix} {g diag : List Float}
    (hh : h.size = p.numFree) (hg : g.length = p.numFree) :
    ∀ {fuel : Nat} {st st' : StepState κ}, tryDamping o solve h g diag st fuel = .ok st' →
      Tracks p st.problem st.x → st.accepted = false →
      Tracks p st'.problem st'.x ∧ Trial p st.x st.cost st'.x st'.cost st'.accepted
  | 0, st, _, hrun, ht, ha => by
    cases hrun
    exact ⟨ht, ha ▸ Trial.refl p st.x st.cost⟩
  | fuel + 1, st, st', hrun, ht, ha => by
    unfold tryDamping at hrun
    split at hrun
    · cases hrun
      exact ⟨ht, ha ▸ Trial.refl p st.x st.cost⟩
    dsimp only at hrun
    split at hrun
    · -- a step that is not finite only raises the damping
      exact (tryDamping_spec hsolve hh hg hrun ht ha :)
    obtain ⟨tol, -, hrun⟩ := Outcome.bind_eq_ok hrun
    split at hrun
    · cases hrun
      exact ⟨ht, ha ▸ Trial.refl p st.x st.cost⟩
    obtain ⟨newCost, hcost, hrun⟩ := Outcome.bind_eq_ok hrun
    split at hrun
    · -- the step is accepted: the blocks keep the trial vector
      rename_i hacc
      simp only [Bool.and_eq_true, Bool.not_eq_eq_eq_not, Bool.not_true,
        decide_eq_true_eq] at hacc
      rw [ht.1, p.setState_setState _ ht.2.ge] at hcost
      have hlen := length_addStep ht.2
        (length_dampedStep hsolve (d := diag.map (st.damping * ·)) hh hg)
      obtain ⟨ftol, -, hrun⟩ := Outcome.bind_eq_ok hrun
      cases hrun
      split <;> exact ⟨ht.setState hlen, .inr ⟨rfl, hlen, hcost, hacc.1, hacc.2⟩⟩
    · -- the step is rejected: the blocks are set back to the vector
      exact (tryDamping_spec hsolve hh hg hrun ht.setState_self ha :)

/-- What holds of the loop state of a solve of `p` from cost `c₀` before and after every
iteration. -/
structure LoopInv (p : Problem κ) (c₀ : Float) (st : LoopState κ) : Prop where
  tracks : Tracks p st.problem st.x
  descent : ∃ k ≤ st.summary.iterations, Descent p c₀ st.x st.cost k
  initialCost : st.summary.initialCost = c₀
  usable : st.summary.termination ≠ .failure

/-- An iteration keeps the invariant and records its own number. -/
theorem iterate_spec (hsolve : solve.Sized) {st st' : LoopState κ} {c₀ : Float} {it : Nat}
    (hrun : iterate o solve p.numFree st it = .ok st') (hinv : LoopInv p c₀ st)
    (hit : st.summary.iterations < it) :
    LoopInv p c₀ st' ∧ st'.summary.iterations ≤ it := by
  obtain ⟨k, hk, hd⟩ := hinv.descent
  unfold iterate at hrun
  split at hrun
  · cases hrun
    exact ⟨hinv, hit.le⟩
  obtain ⟨⟨h, g⟩, hne, hrun⟩ := Outcome.bind_eq_ok hrun
  obtain ⟨hh, hg⟩ := normalEquations_size hne
  dsimp only at hrun
  obtain ⟨gtol, -, hrun⟩ := Outcome.bind_eq_ok hrun
  split at hrun
  · cases hrun
    exact ⟨⟨hinv.tracks, ⟨k, by dsimp only; omega, hd⟩, hinv.initialCost, by simp⟩, le_rfl⟩
  obtain ⟨d, -, hrun⟩ := Outcome.bind_eq_ok hrun
  obtain ⟨s, hs, hrun⟩ := Outcome.bind_eq_ok hrun
  obtain ⟨htr, htrial⟩ := tryDamping_spec hsolve hh hg hs hinv.tracks rfl
  obtain ⟨k', hk', hd'⟩ := htrial.descent hd
  have hdesc : ∃ k ≤ it, Descent p c₀ s.x s.cost k := ⟨k', by omega, hd'⟩
  split at hrun
  · cases hrun
    exact ⟨⟨htr, hdesc, hinv.initialCost, by simp⟩, le_rfl⟩
  split at hrun
  · cases hrun
    exact ⟨⟨htr.setState_self, hdesc, hinv.initialCost, by simp⟩, le_rfl⟩
  · cases hrun
    exact ⟨⟨htr, hdesc, hinv.initialCost, hinv.usable⟩, le_rfl⟩

theorem runIterations_invariant {n : Nat} {expired : Nat → Bool} (P : Nat → LoopState κ → Prop)
    (hiter : ∀ it st st', P it st → iterate o solve n st it = .ok st' → P (it + 1) st')
    (hstop : ∀ it st, P it st → P (it + 1) { st with
      done := true, summary := { st.summary with message := "Maximum solver time reached" } })
    (hlater : ∀ it st, P it st → P (it + 1) st) :
    ∀ {budget it : Nat} {st st' : LoopState κ},
      runIterations o solve n expired st it budget = .ok st' → P it st → P (it + budget) st'
  | 0, _, _, _, hrun, hp => by
    cases hrun
    exact hp
  | budget + 1, it, st, st', hrun, hp => by
    have hskip : ∀ k it st, P it st → P (it + k) st := by
      intro k
      induction k with
      | zero => exact fun _ _ h => h
      | succ k ih => exact fun it st h => hlater _ _ (ih it st h)
    unfold runIterations at hrun
    split at hrun
    · -- the time ran out before this iteration
      cases hrun
      simpa only [Nat.add_assoc, Nat.add_comm 1 budget] using hskip budget _ _ (hstop it st hp)
    obtain ⟨st₁, hst₁, hrun⟩ := Outcome.bind_eq_ok hrun
    have hp₁ := hiter it st st₁ hp hst₁
    split at hrun
    · cases hrun
      simpa only [Nat.add_assoc, Nat.add_comm 1 budget] using hskip budget _ _ hp₁
    · simpa only [Nat.add_assoc, Nat.add_comm 1 budget] using
        runIterations_invariant P hiter hstop hlater hrun hp₁

/-- A run of iterations keeps the invariant and numbers its iterations within its budget. -/
theorem runIterations_spec (hsolve : solve.Sized) {expired : Nat → Bool} {c₀ : Float}
    {budget it : Nat} {st st' : LoopState κ}
    (hrun : runIterations o solve p.numFree expired st it budget = .ok st')
    (hinv : LoopInv p c₀ st) (hit : st.summary.iterations < it) :
    LoopInv p c₀ st' ∧ st'.summary.iterations < it + budget :=
  runIterations_invariant (fun it st => LoopInv p c₀ st ∧ st.summary.iterations < it)
    (fun _ _ _ ⟨hinv, hit⟩ hst => (iterate_spec hsolve hst hinv hit).imp_right Nat.lt_succ_of_le)
    (fun _ _ ⟨hinv, hit⟩ => ⟨⟨hinv.tracks, hinv.descent, hinv.initialCost, hinv.usable⟩,
      Nat.lt_succ_of_lt hit⟩)
    (fun _ _ ⟨hinv, hit⟩ => ⟨hinv, Nat.lt_succ_of_lt hit⟩) hrun ⟨hinv, hit⟩

/-- The accepted steps of a solve of `p` that ended with summary `s` and problem `q`: from the
initial cost, a descent of at most one step per iteration to the values `q` holds. -/
def Settled (p : Problem κ) (s : Summary) (q : Problem κ) : Prop :=
  p.cost = .ok s.initialCost ∧
    ∃ x k, Descent p s.initialCost x s.finalCost k ∧ Tracks p q x ∧ k ≤ s.iterations

theorem settled_self {p : Problem κ} {s : Summary} (hcost : p.cost = .ok s.initialCost)
    (hfinal : s.finalCost = s.initialCost) : Settled p s p := by
  refine ⟨hcost, p.state, 0, ?_, ⟨p.setState_state.symm, p.length_state⟩, Nat.zero_le _⟩
  rw [hfinal]
  exact Descent.start

theorem settled_of_loopInv {p : Problem κ} {st : LoopState κ} {c₀ : Float} {s : Summary}
    (hcost : p.cost = .ok c₀) (hinv : LoopInv p c₀ st) (hinit : s.initialCost = c₀)
    (hfinal : s.finalCost = st.cost) (hit : s.iterations = st.summary.iterations) :
    Settled p s st.problem := by
  obtain ⟨k, hk, hd⟩ := hinv.descent
  refine ⟨hinit ▸ hcost, st.x, k, ?_, hinv.tracks, hit ▸ hk⟩
  rw [hinit, hfinal]
  exact hd

end Loops

theorem solveWith_cases {clock : Nat → Float} {solve : SparseSolver} {p q : Problem κ}
    {o : SolverOptions} {s : Summary} (h : p.solveWith clock solve o = .ok (s, q)) :
    (p.cost = .ok s.initialCost ∧ q = p ∧ s.finalCost = s.initialCost ∧ s.iterations = 0 ∧
        s.loops = [] ∧
        (s.termination = .failure ↔ (s.initialCost.isNaN || s.initialCost.isInf) = true)) ∨
      ∃ c m limit st, p.cost = .ok c ∧ (c.isNaN || c.isInf) = false ∧
        SolverOptions.iterationLimit o.maxIterations = .ok m ∧ 0 < m ∧
        runIterations o solve p.numFree (fun it => clock it > limit)
          { summary :=
              { termination := .noConvergence, numResidualBlocks := p.residuals.length,
                numParameters := p.numFree, initialCost := c, finalCost := c },
            problem := p, x := p.state, cost := c, damping := o.initialDamping }
          1 m.toNat = .ok st ∧
        q = st.problem ∧ s.finalCost = st.cost ∧ s.iterations = st.summary.iterations ∧
        s.loops = st.summary.loops ∧ s.termination = st.summary.termination ∧
        s.initialCost = st.summary.initialCost := by
  unfold solveWith at h
  obtain ⟨cost, hcost, h⟩ := Outcome.bind_eq_ok h
  dsimp only at h
  split at h
  · -- the initial cost is not finite
    rename_i hinf
    cases h
    exact .inl ⟨hcost, rfl, rfl, rfl, rfl, iff_of_true rfl hinf⟩
  rename_i hfin
  split at h
  · cases h
    exact .inl ⟨hcost, rfl, rfl, rfl, rfl, iff_of_false (by simp) hfin⟩
  obtain ⟨_, -, h⟩ := Outcome.bind_eq_ok h
  split at h
  · cases h
  obtain ⟨m, hm, h⟩ := Outcome.bind_eq_ok h
  split at h
  · cases h
    exact .inl ⟨hcost, rfl, rfl, rfl, rfl, iff_of_false (by simp) hfin⟩
  obtain ⟨limit, -, h⟩ := Outcome.bind_eq_ok h
  obtain ⟨st, hst, h⟩ := Outcome.bind_eq_ok h
  cases h
  -- the summary reported is the loop's, with at most its message changed
  split <;> exact .inr ⟨cost, m, limit, st, hcost, by simpa using hfin, hm, by omega, hst, rfl, rfl,
    rfl, rfl, rfl, rfl⟩

theorem solveWith_spec (clock : Nat → Float) {solve : SparseSolver} (hsolve : solve.Sized)
    {p q : Problem κ} {o : SolverOptions} {s : Summary}
    (h : p.solveWith clock solve o = .ok (s, q)) :
    Settled p s q ∧
      (∀ m, SolverOptions.iterationLimit o.maxIterations = .ok m → (s.iterations : Int) ≤ max m 0) ∧
      (s.termination = .failure ↔ (s.initialCost.isNaN || s.initialCost.isInf) = true) := by
  rcases solveWith_cases h with ⟨hcost, rfl, hfinal, hzero, -, hfail⟩ |
    ⟨c, m, limit, st, hcost, hfin, hm, hpos, hst, rfl, hfinal, hiter, -, hterm, hinit⟩
  · exact ⟨settled_self hcost hfinal, fun _ _ => by simp [hzero], hfail⟩
  obtain ⟨hinv, hit⟩ := runIterations_spec hsolve hst
    ⟨⟨p.setState_state.symm, p.length_state⟩, ⟨0, le_rfl, Descent.start⟩, rfl, by simp⟩ Nat.one_pos
  have hc : s.initialCost = c := hinit.trans hinv.initialCost
  have hbound : ∀ m', SolverOptions.iterationLimit o.maxIterations = .ok m' →
      (s.iterations : Int) ≤ max m' 0 := by
    intro m' hm'
    rw [hm] at hm'
    cases hm'
    omega
  exact ⟨settled_of_loopInv hcost hinv hc hfinal hiter, hbound,
    iff_of_false (hterm ▸ hinv.usable) (by rw [hc, hfin]; simp)⟩

/-- What a solve of `p` with options `o` that ended with summary `s` and problem `q` reports. -/
structure SolveReport (p : Problem κ) (o : SolverOptions) (s : Summary) (q : Problem κ) :
    Prop where
  /-- The initial cost is the cost of the initial values. -/
  initialCost : p.cost = .ok s.initialCost
  /-- The final cost is the cost of the values the blocks hold. -/
  finalCost : q.cost = .ok s.finalCost
  /-- Constant blocks are as they were. -/
  constant : ∀ i, (p.blocks.getD i default).constant = true → q.blocks[i]? = p.blocks[i]?
  /-- The free blocks hold the end of a descent of at most one step per iteration; the final
  cost is below the initial cost exactly when a step was accepted, and with no step accepted the
  blocks and the cost are the initial ones. -/
  descent : ∃ x k, Descent p s.initialCost x s.finalCost k ∧ q = p.setState x ∧ k ≤ s.iterations ∧
    (0 < k ↔ s.finalCost < s.initialCost) ∧ (k = 0 → q = p ∧ s.finalCost = s.initialCost)
  /-- No more iterations than the limit, and none for a limit that is not positive. -/
  iterations_le : ∀ m, SolverOptions.iterationLimit o.maxIterations = .ok m →
    (s.iterations : Int) ≤ max m 0
  /-- The solve fails exactly when the initial cost is not finite. -/
  failure_iff : s.termination = .failure ↔ (s.initialCost.isNaN || s.initialCost.isInf) = true
  /-- The final cost is at most an initial cost that is a number. -/
  finalCost_le : s.initialCost.isNaN = false → s.finalCost ≤ s.initialCost

/-- The bookkeeping of a solve holds whatever the clock reads, for every sparse solver whose
solutions have one entry per unknown. -/
theorem solveWith_bookkeeping (clock : Nat → Float) {solve : SparseSolver} (hsolve : solve.Sized)
    {p q : Problem κ} {o : SolverOptions} {s : Summary}
    (h : p.solveWith clock solve o = .ok (s, q)) : SolveReport p o s q := by
  obtain ⟨⟨hcost, x, k, hd, ⟨rfl, -⟩, hk⟩, hiter, hfail⟩ := solveWith_spec clock hsolve h
  have hzero : k = 0 → p.setState x = p ∧ s.finalCost = s.initialCost := by
    rintro rfl
    obtain ⟨rfl, hc⟩ := hd.eq_start
    exact ⟨p.setState_state, hc⟩
  exact ⟨hcost, hd.cost_eq hcost, fun i hi => p.getElem?_setState_of_constant x hi,
    ⟨x, k, hd, rfl, hk, hd.pos_iff_lt, hzero⟩, hiter, hfail, hd.le_start⟩

/-- A problem of one free number `x` at `1` and one constant number `y` at `0`, with the
residual `x - y`. -/
def offsetProblem : Problem String :=
  { keys := ["x", "y"], blocks := [⟨[1.0], [1], false⟩, ⟨[0.0], [1], true⟩],
    residuals := [⟨ResidualBlock.ofVectors fun args =>
      .ok (List.zipWith (· - ·) (args.getD 0 []) (args.getD 1 [])), [0, 1], none⟩] }

/-- Under the default options a solve of `offsetProblem` accepts steps for four iterations, down
from its initial cost, and reports its bookkeeping. -/
theorem offsetProblem_solve_report :
    ∃ s q, offsetProblem.solve {} = .ok (s, q) ∧ s.iterations = 4 ∧
      s.finalCost < s.initialCost ∧ SolveReport offsetProblem {} s q := by
  have hok : ((offsetProblem.solve {}).toOption.map fun r =>
      r.1.iterations == 4 && decide (r.1.finalCost < r.1.initialCost)) = some true := by
    decide +kernel
  obtain ⟨r, h, hr⟩ := Outcome.ok_of_toOption_map hok
  simp only [Bool.and_eq_true, beq_iff_eq, decide_eq_true_eq] at hr
  exact ⟨r.1, r.2, h, hr.1, hr.2, solveWith_bookkeeping _ Linear.sized_solveSystem h⟩

/-- The bounds of a solve fail at their edges. A negative iteration limit bounds no count: a solve
under it runs no iteration, and zero is not at most `-1`. A solve from a cost that is NaN fails
with that cost as its final cost, and a NaN is not at most itself. -/
theorem solve_bounds_fail_at_edges :
    (SolverOptions.iterationLimit (.int (-1)) = .ok (-1) ∧
      ∃ s q, offsetProblem.solve { maxIterations := .int (-1) } = .ok (s, q) ∧
        ¬(s.iterations : Int) ≤ -1) ∧
    ∃ s q, (offsetProblem.setState [Float.ofBits 0x7FF8000000000000]).solve {} = .ok (s, q) ∧
      s.termination = .failure ∧ ¬s.finalCost ≤ s.initialCost := by
  have hlimit : ((offsetProblem.solve { maxIterations := .int (-1) }).toOption.map
      fun r => r.1.iterations) = some 0 := by
    decide +kernel
  have hnan : (((offsetProblem.setState [Float.ofBits 0x7FF8000000000000]).solve {}).toOption.map
      fun r => r.1.termination == .failure && !decide (r.1.finalCost ≤ r.1.initialCost)) =
        some true := by
    decide +kernel
  obtain ⟨r, h, hzero⟩ := Outcome.ok_of_toOption_map hlimit
  obtain ⟨r', h', hr'⟩ := Outcome.ok_of_toOption_map hnan
  simp only [Bool.and_eq_true, beq_iff_eq, Bool.not_eq_eq_eq_not, Bool.not_true,
    decide_eq_false_iff_not] at hr'
  refine ⟨⟨rfl, r.1, r.2, h, ?_⟩, r'.1, r'.2, h', hr'.1, hr'.2⟩
  rw [hzero]
  decide

end Problem

end Lighthouse
