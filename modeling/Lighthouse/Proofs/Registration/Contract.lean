import Lighthouse.Proofs.Registration.Build
import Lighthouse.Proofs.Solver.Descent
import Lighthouse.Proofs.Geometry.Undefined
import Mathlib
/-!
# What a registration returns

`register` fails with no lighthouses, and with slaves but no bin in which the master and a slave
both saw a tracker. Otherwise it solves the problem it built and returns what the solve decides,
read through the initial cost: a cost that cannot be evaluated is a fault of the registration, a
cost that is not finite a failure that leaves the transforms as they were, and a finite cost a
usable solve (or a fault of the solve) after which the master is at zero and every slave at the
values of its own block in the solved problem. Those values are the solver's state: the solved
problem is the built one set to the slaves' transforms laid end to end (`registerSolved_spec`).

A finite cost is not what a transform always gives: a slave whose rotation vector is not a number
cannot be measured at all, so its registration raises (`residual_of_isNaN_rotation`).
-/
namespace Lighthouse

namespace Problem

variable {κ : Type} {p : Problem κ} {clock : Nat → Float} {solve : SparseSolver} {o : SolverOptions}

theorem solveWith_of_cost_error {e : Fault} (h : p.cost = .error e) :
    p.solveWith clock solve o = .error e := by
  unfold solveWith
  rw [h]
  rfl

theorem solveWith_of_not_finite {c : Float} (h : p.cost = .ok c) (hc : (c.isNaN || c.isInf) = true) :
    ∃ s, p.solveWith clock solve o = .ok (s, p) ∧ s.termination = .failure ∧ s.initialCost = c := by
  unfold solveWith
  rw [h]
  simp only [bind, Except.bind, hc, if_true]
  refine ⟨_, rfl, ?_, ?_⟩ <;> rfl

variable [BEq κ]

theorem flatMap_values_of_indices {α : Type} (q : Problem κ) (f : α → κ) (g : α → List Float) :
    ∀ {is : List Nat} {ys : List α}, is.map some = ys.map (fun y => q.indexOf? (f y)) →
      (∀ i ∈ is, i < q.blocks.length) →
      is.flatMap (fun i => (q.blocks.getD i default).values) =
        ys.flatMap fun y => ((q.block? (f y)).map (·.values)).getD (g y)
  | [], [], _, _ => rfl
  | [], _ :: _, h, _ => by simp at h
  | _ :: _, [], h, _ => by simp at h
  | i :: is, y :: ys, h, hb => by
    simp only [List.map_cons, List.cons.injEq] at h
    obtain ⟨hi, hrest⟩ := h
    rw [List.flatMap_cons, List.flatMap_cons,
      flatMap_values_of_indices q f g hrest fun j hj => hb j (List.mem_cons_of_mem i hj)]
    have hlt := hb i List.mem_cons_self
    simp only [block?, ← hi, Option.bind_some, List.getElem?_eq_getElem hlt, Option.map_some,
      Option.getD_some, List.getD_eq_getElem?_getD]

end Problem

namespace Registration

open Problem

variable {master : String} {v : List Float} {slaves : List (String × List Float)}
  {poses : PoseTable} {o : SolverOptions} {lossScale : Option Float} {p q : Problem RegistrationKey}

/-- The transforms a usable registration writes: the master at zero, every slave at the values of
its block in the solved problem `q`, or as it was if it had none. -/
def registerSolved (master : String) (slaves : List (String × List Float))
    (q : Problem RegistrationKey) : List (String × List Float) :=
  (master, List.replicate 6 0.0) :: slaves.map fun x =>
    (x.1, ((q.block? (.lighthouse x.1)).map (·.values)).getD x.2)

/-- In a problem laid out for the slaves and set to the vector `x`, every slave's block is
free, has the slave's shape and holds what is written for it, and what is written for the
slaves, laid end to end, is `x`. -/
theorem registerSolved_spec {master : String} {cs : List Correspondence} {x : List Float}
    (hl : Layout master lossScale slaves cs p) (ht : Tracks p q x) :
    List.Forall₂ (fun t y => t.1 = y.1 ∧ q.block? (.lighthouse y.1) = some ⟨t.2, [y.2.length], false⟩)
        (registerSolved master slaves q).tail slaves ∧
      q = p.setState ((registerSolved master slaves q).tail.flatMap Prod.snd) := by
  obtain ⟨rfl, hx⟩ := ht
  refine ⟨?_, ?_⟩
  · simp only [registerSolved, List.tail_cons, List.forall₂_map_left_iff, List.forall₂_same,
      true_and]
    intro y hy
    -- the slave's free block, refilled in place: same shape, still free
    obtain ⟨place, hq⟩ := block?_setState x (hl.slaveBlocks y hy)
    rw [hq]
    cases place <;> rfl
  · -- the slaves' blocks are the free blocks in order, so their values are the state `x`
    have hfree : (p.setState x).freeIndices.map some =
        slaves.map fun y => (p.setState x).indexOf? (.lighthouse y.1) := by
      rw [freeIndices_setState, hl.free]
      rfl
    have hvalues := flatMap_values_of_indices (p.setState x) (fun y => RegistrationKey.lighthouse y.1)
      Prod.snd hfree fun i hi => ((p.setState x).mem_freeIndices.mp hi).1
    have hstate : (p.setState x).state = x := p.state_setState x hx
    simp only [registerSolved, List.tail_cons, List.flatMap_map]
    rw [← hvalues]
    unfold state at hstate
    rw [hstate]

theorem registrationResidual_of_isNaN_rotation {mTs mTt sTt : List Float} {t a b : Transform}
    (h : Transform.ofList mTs = .ok t) (hr : t.r.x.isNaN = true)
    (ha : Transform.ofList mTt = .ok a) (hb : Transform.ofList sTt = .ok b) :
    registrationResidual [mTs, mTt, sTt] = .error Rotation.zeroNormFault := by
  simp only [registrationResidual, List.getD_cons_zero, List.getD_cons_succ, h, ha, hb, bind,
    Except.bind, Transform.residual_of_isNaN_rotation hr]

/-! ### The branches of a registration -/

theorem register_nil : register [] poses o lossScale =
    .ok ({ termination := .failure, message := "No lighthouses" }, [], []) := rfl

theorem unmatched_eq_false (hm : slaves = [] ∨ p.residuals ≠ []) :
    (!slaves.isEmpty && p.residuals.isEmpty) = false := by
  rcases hm with rfl | hm
  · rfl
  · simp [hm]

theorem register_unmatched (hp : registrationProblem ((master, v) :: slaves) poses lossScale = .ok p)
    (hs : slaves ≠ []) (hr : p.residuals = []) :
    ∃ j, register ((master, v) :: slaves) poses o lossScale =
      .ok ({ termination := .failure,
             message := "No correspondences between master and slave lighthouses" },
        (master, v) :: slaves, j) := by
  obtain ⟨x, xs, rfl⟩ := List.exists_cons_of_ne_nil hs
  simp only [register, hp, bind, Except.bind, hr]
  exact ⟨_, rfl⟩

section Matched

variable (hp : registrationProblem ((master, v) :: slaves) poses lossScale = .ok p)
  (hm : slaves = [] ∨ p.residuals ≠ [])
include hp hm

theorem register_of_solve_error {e : Fault} (he : p.solve o = .error e) :
    register ((master, v) :: slaves) poses o lossScale = .error e := by
  simp only [register, hp, bind, Except.bind, unmatched_eq_false hm, he]
  rfl

theorem register_of_failure {s : Summary} (hs : p.solve o = .ok (s, q))
    (hf : s.termination = .failure) :
    ∃ j, register ((master, v) :: slaves) poses o lossScale = .ok (s, (master, v) :: slaves, j) := by
  have hu : s.usable = false := by simp [Summary.usable, hf]
  simp only [register, hp, bind, Except.bind, unmatched_eq_false hm, hs, hu]
  exact ⟨_, rfl⟩

theorem register_of_usable {s : Summary} (hs : p.solve o = .ok (s, q))
    (hf : s.termination ≠ .failure) :
    ∃ j, register ((master, v) :: slaves) poses o lossScale =
      .ok (s, registerSolved master slaves q, j) := by
  have hu : s.usable = true := by simp [Summary.usable, hf]
  simp only [register, hp, bind, Except.bind, unmatched_eq_false hm, hs, hu]
  exact ⟨_, rfl⟩

end Matched

/-! ### The contract -/

/-- What a registration of the master `master` at `v` and the slaves `slaves`, over the problem
`p` laid out by the correspondences `cs`, returns as `r`. Unless the slaves went unmatched, the
initial cost decides: its fault is the registration's, a cost that is not finite fails and keeps
the transforms, and a finite cost ends in a fault of the solve or in a usable solve whose
transforms are those of the solved blocks. -/
structure Outcomes (master : String) (v : List Float) (slaves : List (String × List Float))
    (cs : List Correspondence) (p : Problem RegistrationKey) (o : SolverOptions)
    (r : Outcome (Summary × List (String × List Float) × Journal)) : Prop where
  unmatched : slaves ≠ [] → cs = [] →
    ∃ j, r = .ok ({ termination := .failure,
                    message := "No correspondences between master and slave lighthouses" },
      (master, v) :: slaves, j)
  costFault : slaves = [] ∨ cs ≠ [] → ∀ e, p.cost = .error e → r = .error e
  notFinite : slaves = [] ∨ cs ≠ [] → ∀ c, p.cost = .ok c → (c.isNaN || c.isInf) = true →
    ∃ s j, r = .ok (s, (master, v) :: slaves, j) ∧ s.termination = .failure ∧ s.initialCost = c
  finite : slaves = [] ∨ cs ≠ [] → ∀ c, p.cost = .ok c → (c.isNaN || c.isInf) = false →
    (∃ e, p.solve o = .error e ∧ r = .error e) ∨
      ∃ s q ts j, p.solve o = .ok (s, q) ∧ s.termination ≠ .failure ∧ s.initialCost = c ∧
        r = .ok (s, (master, List.replicate 6 0.0) :: ts, j) ∧
        List.Forall₂ (fun t y => t.1 = y.1 ∧
          q.block? (.lighthouse y.1) = some ⟨t.2, [y.2.length], false⟩) ts slaves ∧
        q = p.setState (ts.flatMap Prod.snd) ∧ q.cost = .ok s.finalCost

theorem Layout.residuals_eq_nil_iff {cs : List Correspondence}
    (hl : Layout master lossScale slaves cs p) : p.residuals = [] ↔ cs = [] := by
  have hlen := congrArg List.length hl.residuals
  simp only [List.length_map] at hlen
  rw [← List.length_eq_zero_iff, hlen, List.length_eq_zero_iff]

theorem register_outcomes {cs : List Correspondence}
    (hp : registrationProblem ((master, v) :: slaves) poses lossScale = .ok p)
    (hl : Layout master lossScale slaves cs p) :
    Outcomes master v slaves cs p o (register ((master, v) :: slaves) poses o lossScale) := by
  have hm : slaves = [] ∨ cs ≠ [] → slaves = [] ∨ p.residuals ≠ [] :=
    fun h => h.imp_right fun hcs hr => hcs (hl.residuals_eq_nil_iff.mp hr)
  refine ⟨fun hs hcs => register_unmatched hp hs (hl.residuals_eq_nil_iff.mpr hcs), ?_, ?_, ?_⟩
  · intro hcs e he
    exact register_of_solve_error hp (hm hcs) (solveWith_of_cost_error he)
  · intro hcs c hc hinf
    obtain ⟨s, hs, hf, hinit⟩ : ∃ s, p.solve o = .ok (s, p) ∧ s.termination = .failure ∧
        s.initialCost = c :=
      solveWith_of_not_finite hc hinf
    obtain ⟨j, hj⟩ := register_of_failure hp (hm hcs) hs hf
    exact ⟨s, j, hj, hf, hinit⟩
  · intro hcs c hc hfin
    rcases hsolve : p.solve o with e | ⟨s, q⟩
    · exact .inl ⟨e, rfl, register_of_solve_error hp (hm hcs) hsolve⟩
    -- a solve that returns read through its bookkeeping: the same initial cost, hence not a
    -- failure, and the accepted steps that the solved problem tracks
    obtain ⟨⟨hcost, x, k, hd, ht, -⟩, -, hfail⟩ := solveWith_spec _ Linear.sized_solveSystem hsolve
    have hinit : s.initialCost = c := by
      rw [hc] at hcost
      exact (Except.ok.inj hcost).symm
    have hf : s.termination ≠ .failure := fun h => by
      have hnf := hfail.mp h
      rw [hinit, hfin] at hnf
      cases hnf
    obtain ⟨j, hj⟩ := register_of_usable hp (hm hcs) hsolve hf
    obtain ⟨hforall, hset⟩ := registerSolved_spec hl ht
    refine .inr ⟨s, q, _, j, rfl, hf, hinit, hj, hforall, hset, ?_⟩
    rw [ht.1]
    exact hd.cost_eq hcost

/-- A registration without lighthouses fails; with a master and distinct slaves over a table of
distinct trackers, the correspondences are the bins in which the master and a slave both saw a
tracker, each once, the problem built is laid out by them, and the registration ends as
`Outcomes` says. -/
theorem registration_contract (poses : PoseTable) (o : SolverOptions) (lossScale : Option Float) :
    register [] poses o lossScale =
        .ok ({ termination := .failure, message := "No lighthouses" }, [], []) ∧
      ∀ (master : String) (v : List Float) (slaves : List (String × List Float)),
        (slaves.map Prod.fst).Nodup → (poses.trackers.map Prod.fst).Nodup →
        (∀ c, c ∈ correspondences master slaves poses ↔ c.Seen master slaves poses) ∧
        ((correspondences master slaves poses).map Correspondence.place).Nodup ∧
        ∃ p, registrationProblem ((master, v) :: slaves) poses lossScale = .ok p ∧
          Layout master lossScale slaves (correspondences master slaves poses) p ∧
          Outcomes master v slaves (correspondences master slaves poses) p o
            (register ((master, v) :: slaves) poses o lossScale) := by
  refine ⟨register_nil, fun master v slaves hser htr =>
    ⟨fun _ => mem_correspondences_iff, nodup_places hser htr, ?_⟩⟩
  obtain ⟨p, hp, hl⟩ : ∃ p, registrationProblem ((master, v) :: slaves) poses lossScale = .ok p ∧
      Layout master lossScale slaves (correspondences master slaves poses) p :=
    registrationProblem_layout hser htr
  exact ⟨p, hp, hl, register_outcomes hp hl⟩

/-- One tracker seen by the lighthouses `A` and `B` in one bin, at the origin of both. -/
def oneBinPoses : PoseTable :=
  ⟨[("T", [(0.0, [("A", List.replicate 6 0.0), ("B", List.replicate 6 0.0)])])]⟩

theorem registration_of_one_slave :
    ([("B", List.replicate 6 0.0)].map Prod.fst).Nodup ∧ (oneBinPoses.trackers.map Prod.fst).Nodup ∧
      (∀ c, c ∈ correspondences "A" [("B", List.replicate 6 0.0)] oneBinPoses ↔
        c.Seen "A" [("B", List.replicate 6 0.0)] oneBinPoses) ∧
      ((correspondences "A" [("B", List.replicate 6 0.0)] oneBinPoses).map
        Correspondence.place).Nodup ∧
      ∃ p, registrationProblem [("A", List.replicate 6 0.0), ("B", List.replicate 6 0.0)]
          oneBinPoses (some 1.0) = .ok p ∧
        Layout "A" (some 1.0) [("B", List.replicate 6 0.0)]
          (correspondences "A" [("B", List.replicate 6 0.0)] oneBinPoses) p ∧
        Outcomes "A" (List.replicate 6 0.0) [("B", List.replicate 6 0.0)]
          (correspondences "A" [("B", List.replicate 6 0.0)] oneBinPoses) p {}
          (register [("A", List.replicate 6 0.0), ("B", List.replicate 6 0.0)] oneBinPoses {}
            (some 1.0)) :=
  ⟨by decide, by decide, (registration_contract oneBinPoses {} (some 1.0)).2 "A"
    (List.replicate 6 0.0) [("B", List.replicate 6 0.0)] (by decide) (by decide)⟩

/-- A slave whose rotation vector is not a number: its registration neither fails with the
transforms kept nor writes them, it raises. -/
theorem register_raises_on_rotation_not_a_number :
    register [("A", List.replicate 6 0.0), ("B", [0.0, 0.0, 0.0, 0.0 / 0.0, 0.0, 0.0])]
      oneBinPoses {} (some 1.0) = .error Rotation.zeroNormFault := by
  have hres : registrationResidual [[0.0, 0.0, 0.0, 0.0 / 0.0, 0.0, 0.0], List.replicate 6 0.0,
      List.replicate 6 0.0] = .error Rotation.zeroNormFault :=
    registrationResidual_of_isNaN_rotation rfl rfl rfl rfl
  have hp : registrationProblem [("A", List.replicate 6 0.0),
      ("B", [0.0, 0.0, 0.0, 0.0 / 0.0, 0.0, 0.0])] oneBinPoses (some 1.0) =
      .ok ⟨[.lighthouse "B", .pose "T" 0.0 0 "A", .pose "T" 0.0 0 "B"],
        [⟨[0.0, 0.0, 0.0, 0.0 / 0.0, 0.0, 0.0], [6], false⟩, ⟨List.replicate 6 0.0, [6], true⟩,
          ⟨List.replicate 6 0.0, [6], true⟩],
        [⟨ResidualBlock.ofVectors registrationResidual, [0, 1, 2], some 1.0⟩]⟩ := rfl
  refine register_of_solve_error hp (.inr (List.cons_ne_nil _ _)) (solveWith_of_cost_error ?_)
  simp only [Problem.cost, List.foldlM_cons, Problem.residualCost, ResidualBlock.ofVectors,
    Problem.argsOf, List.map_cons, List.map_nil, List.getD_cons_zero, List.getD_cons_succ,
    ParamBlock.array, hres, bind, Except.bind]

end Registration

end Lighthouse
