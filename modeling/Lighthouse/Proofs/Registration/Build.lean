import Lighthouse.Registration
import Lighthouse.Proofs.Solver.Blocks
import Mathlib
/-!
# The registration problem

`registrationProblem` adds, slave by slave, the slave's transform as a free block and then, for
every tracker and every time bin in which the master and the slave both saw the tracker, the two
poses as constant blocks and one residual block over the three. A pose block is named by the
tracker, the place of the bin among the tracker's bins and the lighthouse, so all slaves that
meet the master in one bin share the master's pose block.

Those bins are the `correspondences`, slave by slave, tracker by tracker, bin by bin. With
distinct slave serials and distinct trackers the problem is laid out as they say
(`registrationProblem_layout`): one residual per correspondence, in order, over the blocks under
its three keys, every pose block constant and holding the pose it names, and the slaves'
transforms the only free blocks, in order. The proof runs the folds of the construction as one
fold over the correspondences (`registrationProblem_eq`) and carries two invariants: `Keys`, that
every key is a slave's or a pose key holding the pose the table gives it, and `Layout`.
-/
namespace Lighthouse

namespace RegistrationKey

/-- What keys are compared by: a lighthouse key by its serial, a pose key by its tracker, the
place of its bin and its lighthouse. -/
def ident : RegistrationKey → String ⊕ (String × Nat × String)
  | .lighthouse s => .inl s
  | .pose t _ i l => .inr (t, i, l)

theorem beq_iff (a b : RegistrationKey) : (a == b) = true ↔ a.ident = b.ident := by
  change a.beq b = true ↔ _
  cases a <;> cases b <;> simp [beq, ident, and_assoc]

theorem beq_self (a : RegistrationKey) : (a == a) = true := (beq_iff a a).mpr rfl

end RegistrationKey

namespace Registration

open Problem

theorem indexOf?_congr (p : Problem RegistrationKey) {k k' : RegistrationKey}
    (h : k.ident = k'.ident) : p.indexOf? k = p.indexOf? k' := by
  unfold indexOf?
  congr 1
  funext x
  exact Bool.eq_iff_iff.mpr (by rw [RegistrationKey.beq_iff, RegistrationKey.beq_iff, h])

theorem block?_congr (p : Problem RegistrationKey) {k k' : RegistrationKey}
    (h : k.ident = k'.ident) : p.block? k = p.block? k' := by
  simp only [block?, indexOf?_congr p h]

theorem foldlM_flatMap {α β γ : Type} (f : γ → β → Outcome γ) (g : α → List β) :
    ∀ (l : List α) (init : γ),
      (l.flatMap g).foldlM f init = l.foldlM (fun acc x => (g x).foldlM f acc) init
  | [], _ => rfl
  | x :: l, init => by
    rw [List.flatMap_cons, List.foldlM_append, List.foldlM_cons]
    exact congrArg _ (funext fun acc => foldlM_flatMap f g l acc)

/-! ### Correspondences -/

/-- A tracker seen in one time bin by the master and by a slave, with the two poses. -/
structure Correspondence where
  slave : String
  tracker : String
  bin : Float
  /-- The place of the bin among the tracker's bins. -/
  slot : Nat
  masterPose : List Float
  slavePose : List Float

namespace Correspondence

def masterKey (master : String) (c : Correspondence) : RegistrationKey :=
  .pose c.tracker c.bin c.slot master

def slaveKey (c : Correspondence) : RegistrationKey := .pose c.tracker c.bin c.slot c.slave

/-- The keys of the blocks a residual of the correspondence reads, in order. -/
def keys (master : String) (c : Correspondence) : List RegistrationKey :=
  [.lighthouse c.slave, c.masterKey master, c.slaveKey]

end Correspondence

/-- The correspondence of a bin of a tracker, at its place, when the master and the slave both
saw the tracker then. -/
def binCorrespondence (master slave tracker : String) :
    (Float × List (String × List Float)) × Nat → Option Correspondence
  | ((bin, seen), slot) =>
    match seen.find? (·.1 == master), seen.find? (·.1 == slave) with
    | some (_, mp), some (_, sp) => some ⟨slave, tracker, bin, slot, mp, sp⟩
    | _, _ => none

/-- The correspondences of one slave, tracker by tracker and bin by bin. -/
def slaveCorrespondences (master slave : String) (poses : PoseTable) : List Correspondence :=
  poses.trackers.flatMap fun x => x.2.zipIdx.filterMap (binCorrespondence master slave x.1)

def correspondences (master : String) (slaves : List (String × List Float)) (poses : PoseTable) :
    List Correspondence :=
  slaves.flatMap fun x => slaveCorrespondences master x.1 poses

/-- One correspondence added to a problem: the two poses as constant blocks, then the residual. -/
def addCorrespondence (master : String) (lossScale : Option Float) (p : Problem RegistrationKey)
    (c : Correspondence) : Outcome (Problem RegistrationKey) :=
  ((p.addBlock (c.masterKey master) (NumArray.vector c.masterPose) true).addBlock c.slaveKey
    (NumArray.vector c.slavePose) true).addResidual RegistrationKey.shown
      (ResidualBlock.ofVectors registrationResidual) (c.keys master) lossScale

/-- The construction as one fold over the correspondences of each slave. -/
theorem registrationProblem_eq (master : String) (v : List Float)
    (slaves : List (String × List Float)) (poses : PoseTable) (lossScale : Option Float) :
    registrationProblem ((master, v) :: slaves) poses lossScale =
      slaves.foldlM (fun p x => (slaveCorrespondences master x.1 poses).foldlM
        (addCorrespondence master lossScale) (p.addBlock (.lighthouse x.1) (NumArray.vector x.2) false))
        {} := by
  unfold registrationProblem
  dsimp only
  congr 1
  funext p x
  obtain ⟨slave, t⟩ := x
  dsimp only
  rw [slaveCorrespondences, foldlM_flatMap]
  congr 1
  funext q y
  obtain ⟨tracker, bins⟩ := y
  dsimp only
  rw [List.foldlM_filterMap]
  congr 1
  funext r z
  obtain ⟨⟨bin, seen⟩, slot⟩ := z
  -- both sides look the two lighthouses up in the bin and agree case by case
  rcases hm : seen.find? (·.1 == master) with _ | ⟨_, mp⟩ <;>
    rcases hs : seen.find? (·.1 == slave) with _ | ⟨_, sp⟩ <;>
    simp only [binCorrespondence, hm, hs] <;> rfl

/-! ### Poses named by keys -/

/-- The pose the table gives a pose key: that of the key's lighthouse in the bin at the key's place
among its tracker's bins. It reads what keys are compared by, not the bin the key carries. -/
def PoseOf (poses : PoseTable) (k : RegistrationKey) (pose : List Float) : Prop :=
  ∃ tracker slot lighthouse bins entry, k.ident = .inr (tracker, slot, lighthouse) ∧
    (tracker, bins) ∈ poses.trackers ∧ bins[slot]? = some entry ∧
    (entry.2.find? (·.1 == lighthouse)).map Prod.snd = some pose

theorem PoseOf.congr {poses : PoseTable} {k k' : RegistrationKey} {pose : List Float}
    (h : PoseOf poses k pose) (hk : k.ident = k'.ident) : PoseOf poses k' pose := by
  obtain ⟨t, i, l, bins, e, hid, hrest⟩ := h
  exact ⟨t, i, l, bins, e, hk ▸ hid, hrest⟩

theorem PoseOf.unique {poses : PoseTable} (htr : (poses.trackers.map Prod.fst).Nodup)
    {k k' : RegistrationKey} {pose pose' : List Float} (h : PoseOf poses k pose)
    (h' : PoseOf poses k' pose') (hk : k.ident = k'.ident) : pose = pose' := by
  obtain ⟨t, i, l, bins, e, hid, hmem, hbin, hpose⟩ := h
  obtain ⟨t', i', l', bins', e', hid', hmem', hbin', hpose'⟩ := h'
  rw [hid, hid', Sum.inr.injEq, Prod.mk.injEq, Prod.mk.injEq] at hk
  obtain ⟨rfl, rfl, rfl⟩ := hk
  have hbins : (t, bins) = (t, bins') := List.inj_on_of_nodup_map htr hmem hmem' rfl
  cases hbins
  rw [hbin] at hbin'
  cases hbin'
  rw [hpose] at hpose'
  exact Option.some.inj hpose'

theorem binCorrespondence_spec {master slave tracker : String}
    {x : (Float × List (String × List Float)) × Nat} {c : Correspondence}
    (h : binCorrespondence master slave tracker x = some c) :
    c.slave = slave ∧ c.tracker = tracker ∧ c.bin = x.1.1 ∧ c.slot = x.2 ∧
      (x.1.2.find? (·.1 == master)).map Prod.snd = some c.masterPose ∧
      (x.1.2.find? (·.1 == slave)).map Prod.snd = some c.slavePose := by
  obtain ⟨⟨bin, seen⟩, slot⟩ := x
  simp only [binCorrespondence] at h
  split at h
  · rename_i hm hs
    cases h
    simp [hm, hs]
  · cases h

theorem mem_slaveCorrespondences {master slave : String} {poses : PoseTable} {c : Correspondence}
    (h : c ∈ slaveCorrespondences master slave poses) :
    c.slave = slave ∧ PoseOf poses (c.masterKey master) c.masterPose ∧
      PoseOf poses c.slaveKey c.slavePose := by
  simp only [slaveCorrespondences, List.mem_flatMap, List.mem_filterMap] at h
  obtain ⟨⟨tracker, bins⟩, hmem, x, hx, hc⟩ := h
  obtain ⟨hslave, htracker, hbin, hslot, hmp, hsp⟩ := binCorrespondence_spec hc
  have hat : bins[c.slot]? = some (c.bin, x.1.2) := by
    rw [hslot, hbin]
    exact List.mem_zipIdx_iff_getElem?.mp hx
  refine ⟨hslave, ⟨tracker, c.slot, master, bins, (c.bin, x.1.2), ?_, hmem, hat, hmp⟩,
    ⟨tracker, c.slot, c.slave, bins, (c.bin, x.1.2), ?_, hmem, hat, hslave ▸ hsp⟩⟩ <;>
    simp [Correspondence.masterKey, Correspondence.slaveKey, RegistrationKey.ident, htracker]

/-- Where a correspondence was seen: its slave, its tracker and the place of its bin. -/
def Correspondence.place (c : Correspondence) : String × String × Nat := (c.slave, c.tracker, c.slot)

/-- A bin in which the master and the slave of `c`, one of `slaves`, both saw the tracker of `c`,
with the poses they saw. -/
def Correspondence.Seen (master : String) (slaves : List (String × List Float)) (poses : PoseTable)
    (c : Correspondence) : Prop :=
  (∃ x ∈ slaves, x.1 = c.slave) ∧ ∃ bins seen, (c.tracker, bins) ∈ poses.trackers ∧
    bins[c.slot]? = some (c.bin, seen) ∧
    (seen.find? (·.1 == master)).map Prod.snd = some c.masterPose ∧
    (seen.find? (·.1 == c.slave)).map Prod.snd = some c.slavePose

theorem mem_correspondences_iff {master : String} {slaves : List (String × List Float)}
    {poses : PoseTable} {c : Correspondence} :
    c ∈ correspondences master slaves poses ↔ c.Seen master slaves poses := by
  simp only [correspondences, slaveCorrespondences, List.mem_flatMap, List.mem_filterMap]
  constructor
  · rintro ⟨x, hx, ⟨tracker, bins⟩, hmem, y, hy, hc⟩
    obtain ⟨hslave, htracker, hbin, hslot, hmp, hsp⟩ := binCorrespondence_spec hc
    have hat : bins[c.slot]? = some (c.bin, y.1.2) := by
      rw [hslot, hbin]
      exact List.mem_zipIdx_iff_getElem?.mp hy
    exact ⟨⟨x, hx, hslave.symm⟩, bins, y.1.2, htracker ▸ hmem, hat, hmp, hslave ▸ hsp⟩
  · rintro ⟨⟨x, hx, hslave⟩, bins, seen, hmem, hat, hmp, hsp⟩
    obtain ⟨⟨m, mp⟩, hfm, rfl⟩ := Option.map_eq_some_iff.mp hmp
    obtain ⟨⟨s, sp⟩, hfs, rfl⟩ := Option.map_eq_some_iff.mp hsp
    refine ⟨x, hx, (c.tracker, bins), hmem, ((c.bin, seen), c.slot),
      List.mem_zipIdx_iff_getElem?.mpr hat, ?_⟩
    simp only [binCorrespondence, hslave, hfm, hfs]

theorem nodup_flatMap_of_marks {α β γ : Type} {l : List α} {f : α → List β} (g : α → γ)
    (mark : β → γ) (hl : (l.map g).Nodup) (hf : ∀ x ∈ l, (f x).Nodup)
    (hm : ∀ x ∈ l, ∀ y ∈ f x, mark y = g x) : (l.flatMap f).Nodup := by
  refine List.nodup_flatMap.mpr ⟨hf, ?_⟩
  refine (List.pairwise_map.mp hl).imp_of_mem fun {a b} ha hb hab y hya hyb => ?_
  exact hab ((hm a ha y hya).symm.trans (hm b hb y hyb))

theorem nodup_places {master : String} {slaves : List (String × List Float)} {poses : PoseTable}
    (hser : (slaves.map Prod.fst).Nodup) (htr : (poses.trackers.map Prod.fst).Nodup) :
    ((correspondences master slaves poses).map Correspondence.place).Nodup := by
  simp only [correspondences, slaveCorrespondences, List.map_flatMap]
  -- slave by slave, then tracker by tracker: each level is marked by its own name
  refine nodup_flatMap_of_marks Prod.fst (·.1) hser (fun x _ => ?_) fun x _ y hy => ?_
  · refine nodup_flatMap_of_marks Prod.fst (·.2.1) htr (fun t _ => ?_) fun t _ y hy => ?_
    · -- within a tracker, the places of the bins are distinct
      rw [List.map_filterMap]
      refine (List.pairwise_map.mp (List.nodup_zipIdx_map_snd t.2)).filterMap _ ?_
      intro a a' hne b hb b' hb' heq
      obtain ⟨c, hc, rfl⟩ := Option.map_eq_some_iff.mp hb
      obtain ⟨c', hc', rfl⟩ := Option.map_eq_some_iff.mp hb'
      have hslot := (binCorrespondence_spec hc).2.2.2.1
      have hslot' := (binCorrespondence_spec hc').2.2.2.1
      exact hne (hslot.symm.trans ((congrArg (·.2.2) heq).trans hslot'))
    · obtain ⟨c, hc, rfl⟩ := List.mem_map.mp hy
      obtain ⟨y, -, hc⟩ := List.mem_filterMap.mp hc
      exact (binCorrespondence_spec hc).2.1
  · obtain ⟨t, -, hy⟩ := List.mem_flatMap.mp hy
    obtain ⟨c, hc, rfl⟩ := List.mem_map.mp hy
    obtain ⟨y, -, hc⟩ := List.mem_filterMap.mp hc
    exact (binCorrespondence_spec hc).1

/-! ### The invariants of the construction -/

/-- The keys of a problem built for the slaves `done`: keys and blocks side by side, every
lighthouse key a slave's, and every pose key holding, as a constant block, the pose the table
gives it. -/
structure Keys (poses : PoseTable) (done : List (String × List Float))
    (p : Problem RegistrationKey) : Prop where
  aligned : p.Aligned
  known : ∀ k, (p.indexOf? k).isSome = true →
    (∃ x ∈ done, k.ident = .inl x.1) ∨
      ∃ pose, PoseOf poses k pose ∧ p.block? k = some ⟨pose, [pose.length], true⟩

/-- A problem laid out for the slaves `done` and the correspondences `cs`: one residual per
correspondence, in order, over the blocks under its keys, with the registration residual and the
loss scale; each slave's transform a free block; each pose a constant block; and the slaves'
transforms the only free blocks, in order. -/
structure Layout (master : String) (lossScale : Option Float) (done : List (String × List Float))
    (cs : List Correspondence) (p : Problem RegistrationKey) : Prop where
  residuals : p.residuals.map (fun r => r.blocks.map some) = cs.map fun c => (c.keys master).map p.indexOf?
  functions : ∀ r ∈ p.residuals,
    r.eval = ResidualBlock.ofVectors registrationResidual ∧ r.lossScale = lossScale
  slaveBlocks : ∀ x ∈ done, p.block? (.lighthouse x.1) = some ⟨x.2, [x.2.length], false⟩
  poseBlocks : ∀ c ∈ cs, p.block? (c.masterKey master) = some ⟨c.masterPose, [c.masterPose.length], true⟩ ∧
    p.block? c.slaveKey = some ⟨c.slavePose, [c.slavePose.length], true⟩
  free : p.freeIndices.map some = done.map fun x => p.indexOf? (.lighthouse x.1)
  slaves : ∀ c ∈ cs, ∃ x ∈ done, x.1 = c.slave

section Steps

variable {poses : PoseTable} {master : String} {lossScale : Option Float}
  {done : List (String × List Float)} {cs : List Correspondence} {p : Problem RegistrationKey}

theorem Layout.isSome_indexOf? (hl : Layout master lossScale done cs p) {c : Correspondence}
    (hc : c ∈ cs) : ∀ k ∈ c.keys master, (p.indexOf? k).isSome = true := by
  obtain ⟨x, hx, hslave⟩ := hl.slaves c hc
  have hlh := hl.slaveBlocks x hx
  rw [hslave] at hlh
  obtain ⟨hm, hs⟩ := hl.poseBlocks c hc
  intro k hk
  simp only [Correspondence.keys, List.mem_cons, List.not_mem_nil, or_false] at hk
  rcases hk with rfl | rfl | rfl
  · obtain ⟨i, hi, -⟩ := indexOf?_of_block? hlh
    simp [hi]
  · obtain ⟨i, hi, -⟩ := indexOf?_of_block? hm
    simp [hi]
  · obtain ⟨i, hi, -⟩ := indexOf?_of_block? hs
    simp [hi]

theorem Layout.residuals_of_found {q : Problem RegistrationKey}
    (hl : Layout master lossScale done cs p) (hres : q.residuals = p.residuals)
    (hidx : ∀ k i, p.indexOf? k = some i → q.indexOf? k = some i) :
    q.residuals.map (fun r => r.blocks.map some) = cs.map fun c => (c.keys master).map q.indexOf? := by
  rw [hres, hl.residuals]
  refine List.map_congr_left fun c hc => List.map_congr_left fun k hk => ?_
  obtain ⟨i, hi⟩ := Option.isSome_iff_exists.mp (hl.isSome_indexOf? hc k hk)
  rw [hi, hidx k i hi]

theorem Layout.of_found {q : Problem RegistrationKey} (hl : Layout master lossScale done cs p)
    (hres : q.residuals = p.residuals) (hfree : q.freeIndices = p.freeIndices)
    (hidx : ∀ k i, p.indexOf? k = some i → q.indexOf? k = some i)
    (hblock : ∀ k b, p.block? k = some b → q.block? k = some b) :
    Layout master lossScale done cs q := by
  refine ⟨hl.residuals_of_found hres hidx, hres ▸ hl.functions,
    fun x hx => hblock _ _ (hl.slaveBlocks x hx),
    fun c hc => ⟨hblock _ _ (hl.poseBlocks c hc).1, hblock _ _ (hl.poseBlocks c hc).2⟩, ?_,
    hl.slaves⟩
  rw [hfree, hl.free]
  refine List.map_congr_left fun x hx => ?_
  obtain ⟨i, hi, -⟩ := indexOf?_of_block? (hl.slaveBlocks x hx)
  rw [hi, hidx _ i hi]

theorem addSlave_spec (hk : Keys poses done p) (hl : Layout master lossScale done cs p)
    {x : String × List Float} (hx : x.1 ∉ done.map Prod.fst) :
    Keys poses (done ++ [x]) (p.addBlock (.lighthouse x.1) (NumArray.vector x.2) false) ∧
      Layout master lossScale (done ++ [x]) cs
        (p.addBlock (.lighthouse x.1) (NumArray.vector x.2) false) := by
  -- the slave's key is new: no key of the problem is compared alike with it
  have hnew : p.indexOf? (.lighthouse x.1) = none := by
    cases hi : p.indexOf? (.lighthouse x.1) with
    | none => rfl
    | some i =>
      rcases hk.known (.lighthouse x.1) (by simp [hi]) with
        ⟨y, hy, hid⟩ | ⟨pose, ⟨_, _, _, _, _, he, _⟩, -⟩
      · simp only [RegistrationKey.ident, Sum.inl.injEq] at hid
        exact absurd (List.mem_map.mpr ⟨y, hy, hid.symm⟩) hx
      · simp [RegistrationKey.ident] at he
  have hself := block?_addBlock_self (v := NumArray.vector x.2) (c := false) hk.aligned hnew
    (RegistrationKey.beq_self _)
  have hblock : ∀ k b, p.block? k = some b →
      (p.addBlock (.lighthouse x.1) (NumArray.vector x.2) false).block? k = some b :=
    fun _ _ hb => block?_addBlock_of_some hk.aligned hnew hb
  obtain ⟨i, hi, -⟩ := indexOf?_of_block? hself
  refine ⟨⟨hk.aligned.addBlock_new hnew, fun k hks => ?_⟩,
    ⟨hl.residuals_of_found (residuals_addBlock _ _ _ _) fun _ _ h => indexOf?_addBlock_of_some h,
      by rw [residuals_addBlock]; exact hl.functions, fun y hy => ?_,
      fun c hc => ⟨hblock _ _ (hl.poseBlocks c hc).1, hblock _ _ (hl.poseBlocks c hc).2⟩, ?_,
      fun c hc => ?_⟩⟩
  · rw [indexOf?_addBlock_new hnew] at hks
    cases hpk : p.indexOf? k with
    | some j =>
      rcases hk.known k (by simp [hpk]) with ⟨y, hy, hid⟩ | ⟨pose, hpose, hb⟩
      · exact .inl ⟨y, List.mem_append_left _ hy, hid⟩
      · exact .inr ⟨pose, hpose, block?_addBlock_of_some hk.aligned hnew hb⟩
    | none =>
      rw [hpk, Option.none_or] at hks
      split at hks
      · rename_i hbeq
        exact .inl ⟨x, by simp, ((RegistrationKey.beq_iff _ _).mp hbeq).symm⟩
      · cases hks
  · rcases List.mem_append.mp hy with hy | hy
    · exact hblock _ _ (hl.slaveBlocks y hy)
    · rw [List.mem_singleton.mp hy]
      exact hself
  · rw [freeIndices_addBlock_new hnew, if_neg Bool.false_ne_true, List.map_append,
      hl.free, List.map_append]
    refine congrArg₂ (· ++ ·) (List.map_congr_left fun y hy => ?_) ?_
    · obtain ⟨j, hj, -⟩ := indexOf?_of_block? (hl.slaveBlocks y hy)
      rw [hj, indexOf?_addBlock_of_some hj]
    · simp only [List.map_cons, List.map_nil, hi]
      rw [indexOf?_addBlock_new hnew, hnew, Option.none_or, if_pos (RegistrationKey.beq_self _),
        hk.aligned] at hi
      rw [hi]
  · obtain ⟨y, hy, hslave⟩ := hl.slaves c hc
    exact ⟨y, List.mem_append_left _ hy, hslave⟩

theorem addPose_spec (htr : (poses.trackers.map Prod.fst).Nodup) (hk : Keys poses done p)
    {k : RegistrationKey} {pose : List Float} (hpose : PoseOf poses k pose) :
    Keys poses done (p.addBlock k (NumArray.vector pose) true) ∧
      (p.addBlock k (NumArray.vector pose) true).block? k = some ⟨pose, [pose.length], true⟩ ∧
      (p.addBlock k (NumArray.vector pose) true).residuals = p.residuals ∧
      (p.addBlock k (NumArray.vector pose) true).freeIndices = p.freeIndices ∧
      (∀ k' i, p.indexOf? k' = some i → (p.addBlock k (NumArray.vector pose) true).indexOf? k' = some i) ∧
      (∀ k' b, p.block? k' = some b → (p.addBlock k (NumArray.vector pose) true).block? k' = some b) := by
  cases hi : p.indexOf? k with
  | some i =>
    -- a known pose key already holds this very pose, constant: nothing changes
    rcases hk.known k (by simp [hi]) with ⟨y, -, hid⟩ | ⟨pose', hpose', hb⟩
    · obtain ⟨_, _, _, _, _, hid', _⟩ := hpose
      rw [hid'] at hid
      cases hid
    have heq : pose' = pose := hpose'.unique htr hpose rfl
    subst heq
    obtain ⟨j, hj, hbj⟩ := indexOf?_of_block? hb
    rw [hi] at hj
    cases hj
    have hsame : p.addBlock k (NumArray.vector pose') true = p :=
      addBlock_of_constant hi fun b hb' => by
        rw [hbj] at hb'
        cases hb'
        rfl
    rw [hsame]
    exact ⟨hk, hb, rfl, rfl, fun _ _ h => h, fun _ _ h => h⟩
  | none =>
    have hself := block?_addBlock_self (v := NumArray.vector pose) (c := true) hk.aligned hi
      (RegistrationKey.beq_self _)
    refine ⟨⟨hk.aligned.addBlock_new hi, fun k' hks => ?_⟩, hself, residuals_addBlock _ _ _ _,
      by rw [freeIndices_addBlock_new hi]; simp, fun _ _ h => indexOf?_addBlock_of_some h,
      fun _ _ h => block?_addBlock_of_some hk.aligned hi h⟩
    rw [indexOf?_addBlock_new hi] at hks
    cases hpk : p.indexOf? k' with
    | some j =>
      rcases hk.known k' (by simp [hpk]) with h | ⟨pose', hpose', hb⟩
      · exact .inl h
      · exact .inr ⟨pose', hpose', block?_addBlock_of_some hk.aligned hi hb⟩
    | none =>
      rw [hpk, Option.none_or] at hks
      split at hks
      · rename_i hbeq
        have hid := (RegistrationKey.beq_iff _ _).mp hbeq
        refine .inr ⟨pose, hpose.congr hid, ?_⟩
        rw [block?_congr _ hid.symm]
        exact hself
      · cases hks

theorem addCorrespondence_spec (htr : (poses.trackers.map Prod.fst).Nodup)
    (hk : Keys poses done p) (hl : Layout master lossScale done cs p) {c : Correspondence}
    (hslave : ∃ x ∈ done, x.1 = c.slave) (hm : PoseOf poses (c.masterKey master) c.masterPose)
    (hs : PoseOf poses c.slaveKey c.slavePose) :
    ∃ q, addCorrespondence master lossScale p c = .ok q ∧ Keys poses done q ∧
      Layout master lossScale done (cs ++ [c]) q := by
  obtain ⟨hk₁, hm₁, hres₁, hfree₁, hidx₁, hblock₁⟩ := addPose_spec htr hk hm
  obtain ⟨hk₂, hs₂, hres₂, hfree₂, hidx₂, hblock₂⟩ := addPose_spec htr hk₁ hs
  have hl₂ := (hl.of_found hres₁ hfree₁ hidx₁ hblock₁).of_found hres₂ hfree₂ hidx₂ hblock₂
  obtain ⟨x, hx, hxs⟩ := hslave
  have hm₂ := hblock₂ _ _ hm₁
  have hlh := hl₂.slaveBlocks x hx
  rw [hxs] at hlh
  have hknown : ∀ k ∈ c.keys master, ((p.addBlock (c.masterKey master) (NumArray.vector c.masterPose) true).addBlock
      c.slaveKey (NumArray.vector c.slavePose) true |>.indexOf? k).isSome = true := by
    intro k hk'
    simp only [Correspondence.keys, List.mem_cons, List.not_mem_nil, or_false] at hk'
    rcases hk' with rfl | rfl | rfl
    · obtain ⟨i, hi, -⟩ := indexOf?_of_block? hlh
      simp [hi]
    · obtain ⟨i, hi, -⟩ := indexOf?_of_block? hm₂
      simp [hi]
    · obtain ⟨i, hi, -⟩ := indexOf?_of_block? hs₂
      simp [hi]
  refine ⟨_, addResidual_of_known hknown, ⟨hk₂.aligned, hk₂.known⟩, ⟨?_, ?_, hl₂.slaveBlocks, ?_,
    hl₂.free, ?_⟩⟩
  · simp only [List.map_append, List.map_cons, List.map_nil, hl₂.residuals,
      map_some_filterMap_indexOf? hknown]
    rfl
  · intro r hr
    rcases List.mem_append.mp hr with hr | hr
    · exact hl₂.functions r hr
    · rw [List.mem_singleton.mp hr]
      exact ⟨rfl, rfl⟩
  · intro c' hc'
    rcases List.mem_append.mp hc' with hc' | hc'
    · exact hl₂.poseBlocks c' hc'
    · rw [List.mem_singleton.mp hc']
      exact ⟨hm₂, hs₂⟩
  · intro c' hc'
    rcases List.mem_append.mp hc' with hc' | hc'
    · exact hl₂.slaves c' hc'
    · rw [List.mem_singleton.mp hc']
      exact ⟨x, hx, hxs⟩

end Steps

/-! ### The whole construction -/

section Run

variable {poses : PoseTable} {master : String} {lossScale : Option Float}

theorem addCorrespondences_spec (htr : (poses.trackers.map Prod.fst).Nodup)
    {done : List (String × List Float)} {slave : String} (hslave : ∃ x ∈ done, x.1 = slave) :
    ∀ {rest : List Correspondence} {cs : List Correspondence} {p : Problem RegistrationKey},
      (∀ c ∈ rest, c ∈ slaveCorrespondences master slave poses) →
      Keys poses done p → Layout master lossScale done cs p →
      ∃ q, rest.foldlM (addCorrespondence master lossScale) p = .ok q ∧ Keys poses done q ∧
        Layout master lossScale done (cs ++ rest) q
  | [], cs, p, _, hk, hl => ⟨p, rfl, hk, by simpa using hl⟩
  | c :: rest, cs, p, hrest, hk, hl => by
    obtain ⟨hcs, hm, hs⟩ := mem_slaveCorrespondences (hrest c List.mem_cons_self)
    obtain ⟨q, hq, hkq, hlq⟩ := addCorrespondence_spec htr hk hl (hcs ▸ hslave) hm hs
    obtain ⟨r, hr, hkr, hlr⟩ := addCorrespondences_spec htr hslave
      (fun c' hc' => hrest c' (List.mem_cons_of_mem c hc')) hkq hlq
    refine ⟨r, by rw [List.foldlM_cons, hq]; exact hr, hkr, ?_⟩
    simpa using hlr

theorem addSlaves_spec (htr : (poses.trackers.map Prod.fst).Nodup) :
    ∀ {rest done : List (String × List Float)} {p : Problem RegistrationKey},
      ((done ++ rest).map Prod.fst).Nodup →
      Keys poses done p → Layout master lossScale done (correspondences master done poses) p →
      ∃ q, rest.foldlM (fun p x => (slaveCorrespondences master x.1 poses).foldlM
          (addCorrespondence master lossScale)
          (p.addBlock (.lighthouse x.1) (NumArray.vector x.2) false)) p = .ok q ∧
        Keys poses (done ++ rest) q ∧
        Layout master lossScale (done ++ rest) (correspondences master (done ++ rest) poses) q
  | [], done, p, _, hk, hl => ⟨p, rfl, by simpa using hk, by simpa using hl⟩
  | x :: rest, done, p, hnd, hk, hl => by
    -- the next slave is none of those before it
    have hx : x.1 ∉ done.map Prod.fst := by
      rw [List.map_append, List.map_cons] at hnd
      exact fun hm => (List.nodup_append.mp hnd).2.2 _ hm _ List.mem_cons_self rfl
    obtain ⟨hk₁, hl₁⟩ := addSlave_spec hk hl hx
    have hnew : ∃ y ∈ done ++ [x], y.1 = x.1 := ⟨x, List.mem_append_right _ List.mem_cons_self, rfl⟩
    obtain ⟨q, hq, hkq, hlq⟩ := addCorrespondences_spec htr hnew (fun _ h => h) hk₁ hl₁
    have hcs : correspondences master (done ++ [x]) poses =
        correspondences master done poses ++ slaveCorrespondences master x.1 poses := by
      simp [correspondences, List.flatMap_append]
    rw [← hcs] at hlq
    have hnd' : (((done ++ [x]) ++ rest).map Prod.fst).Nodup := by simpa using hnd
    obtain ⟨r, hr, hkr, hlr⟩ := addSlaves_spec htr hnd' hkq hlq
    refine ⟨r, by rw [List.foldlM_cons, hq]; exact hr, ?_, ?_⟩
    · simpa using hkr
    · simpa using hlr

/-- With distinct slave serials and distinct trackers, the registration problem is built, laid out
as the correspondences of the slaves say. -/
theorem registrationProblem_layout {v : List Float} {slaves : List (String × List Float)}
    (hser : (slaves.map Prod.fst).Nodup)
    (htr : (poses.trackers.map Prod.fst).Nodup) :
    ∃ p, registrationProblem ((master, v) :: slaves) poses lossScale = .ok p ∧
      Layout master lossScale slaves (correspondences master slaves poses) p := by
  have hinit : Layout master lossScale [] (correspondences master [] poses) {} :=
    ⟨rfl, by simp, by simp, by simp [correspondences], rfl, by simp [correspondences]⟩
  have hkeys : Keys poses [] ({} : Problem RegistrationKey) :=
    ⟨rfl, fun k h => by simp [indexOf?] at h⟩
  have hnd : (([] ++ slaves).map Prod.fst).Nodup := by simpa using hser
  obtain ⟨q, hq, -, hl⟩ := addSlaves_spec htr hnd hkeys hinit
  exact ⟨q, by rw [registrationProblem_eq]; exact hq, by simpa using hl⟩

end Run

end Registration

end Lighthouse
