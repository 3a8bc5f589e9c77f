import Lighthouse.Pose.Estimator
import Lighthouse.Proofs.Binary64.Order
/-!
# Which bins a pose estimate solves, and with what

`Estimator.estimate` walks the lighthouses, the trackers and the bins of each pair, and in each
bin gathers one correspondence per sensor: the sensor's position in the tracker's table and the
image point of its mean sweep angles. Here that walk is written as a list of solves
(`Estimator.calls`): a bin is solved when its usable sensors (`Estimator.usable`: from zero to
below the table's length, with samples on both axes, in increasing order) number at least the
estimator's minimum, and the solve gets their positions (`rowPoint`) and image points, corrected
when the estimator corrects and the lighthouse is calibrated (`cameraAngles`).

For tables of rows of at least three numbers and bundles with no negative sensor index,
`estimate_calls` says that the estimate hands exactly those solves to its perspective-n-point
solver, in that order, whatever the solver: each answer counts a solution and records its pose
under its tracker, bin and lighthouse, and each failure counts a failure
(`solver_failure_counted`). A negative index reads a row from the end of the table, so a sensor
that is not in the table can add a correspondence and a solve (`negative_sensor_solved`).
-/
namespace Lighthouse

/-- The coordinates of a point, in order. -/
def Vec3.coords (p : Vec3) : List Float := [p.x, p.y, p.z]

namespace Estimator

/-- A table of `n` sensors, each a row of `c` numbers that starts with the sensor's position. -/
structure SensorTable (table : NumArray) (n c : Nat) : Prop where
  shape : table.shape = [n, c]
  wide : 3 ≤ c
  size : table.values.length = n * c

/-- The position of sensor `s` in a table: the first three numbers of its row. -/
def rowPoint (table : NumArray) (s : Nat) : Vec3 :=
  let k := s * table.shape.getD 1 0
  ⟨table.values.getD k 0, table.values.getD (k + 1) 0, table.values.getD (k + 2) 0⟩

/-- The angles a solve sees for a sensor: its mean angles, corrected by the lighthouse's
calibration when the estimator corrects and the lighthouse has one. -/
def cameraAngles (e : Estimator) (params : Option (RotorCorrection × RotorCorrection))
    (angles : Float × Float) : Float × Float :=
  match e.correct, params with
  | true, some p => correctAngles angles p
  | _, _ => angles

/-- A sensor of a bin that a solve uses, with its mean angles: one from zero to below the
table's length `n`, with samples on both axes. -/
def usableAt (b : Bundle) (tracker lighthouse : String) (bin : Float) (n : Nat) (s : Int) :
    Option (Int × Float × Float) :=
  if 0 ≤ s ∧ s < n then
    (meanAngles (b.angles? tracker lighthouse bin s 0) (b.angles? tracker lighthouse bin s 1)).map
      ((s, ·))
  else none

/-- The usable sensors of a bin with their mean angles, in increasing order. -/
def usable (b : Bundle) (tracker lighthouse : String) (bin : Float) (n : Nat) :
    List (Int × Float × Float) :=
  (b.sensors tracker lighthouse bin).filterMap (usableAt b tracker lighthouse bin n)

/-- One solve of an estimate: the tracker, bin and lighthouse it is for, with the positions and
image points of the sensors it uses. -/
structure Call where
  tracker : String
  bin : Float
  lighthouse : String
  points : Array Vec3
  image : Array (Float × Float)

/-- The solve of a bin, when it has at least the minimum of usable sensors. -/
def callAt (e : Estimator) (b : Bundle) (tracker lighthouse : String) (table : NumArray)
    (params : Option (RotorCorrection × RotorCorrection)) (bin : Float) : Option Call :=
  let u := usable b tracker lighthouse bin (table.shape.headD 0)
  if Float.ofNat u.length < e.minCorrespondences then none
  else some ⟨tracker, bin, lighthouse, (u.map fun x => rowPoint table x.1.toNat).toArray,
    (u.map fun x => e.imagePoint (e.cameraAngles params x.2)).toArray⟩

/-- The solves of an estimate: lighthouse by lighthouse, tracker by tracker, bin by bin. -/
def calls (e : Estimator) (b : Bundle) (trackers : List (String × NumArray))
    (lighthouses : List (String × Option (RotorCorrection × RotorCorrection))) : List Call :=
  lighthouses.flatMap fun (lh, params) =>
    trackers.flatMap fun (tr, table) => (b.bins tr lh).filterMap (e.callAt b tr lh table params)

def answers (e : Estimator) (pnp : PnpSolver) (c : Call) : Bool :=
  (pnp (e.scene c.points c.image)).isSome

/-- The pose of a solve, when the solver gives one, recorded under its tracker, bin and
lighthouse. -/
def record (e : Estimator) (pnp : PnpSolver) (poses : PoseTable) (c : Call) : PoseTable :=
  match pnp (e.scene c.points c.image) with
  | some a => poses.insert c.tracker c.bin c.lighthouse (poseOf a)
  | none => poses

/-- The counts and poses of an estimate after one more solve: a solution and its pose recorded
when the solver answers, a failure when it does not. -/
def step (e : Estimator) (pnp : PnpSolver) (acc : Nat × Nat × PoseTable) (c : Call) :
    Nat × Nat × PoseTable :=
  match pnp (e.scene c.points c.image) with
  | some a => (acc.1 + 1, acc.2.1, acc.2.2.insert c.tracker c.bin c.lighthouse (poseOf a))
  | none => (acc.1, acc.2.1 + 1, acc.2.2)

/-- An estimator with the given counts, and the poses recorded so far. -/
def withCounts (e : Estimator) (acc : Nat × Nat × PoseTable) : Estimator × PoseTable :=
  ({ e with solutions := acc.1, failures := acc.2.1 }, acc.2.2)

/-! ### Tables and sensors -/

theorem mem_sensors {b : Bundle} {tracker lighthouse : String} {bin : Float} {s : Int}
    (h : s ∈ b.sensors tracker lighthouse bin) : ∃ c ∈ b, c.sensor = s := by
  rw [Bundle.sensors, List.mem_mergeSort, List.mem_eraseDups, List.mem_map] at h
  obtain ⟨c, hc, rfl⟩ := h
  exact ⟨c, (List.mem_filter.mp hc).1, rfl⟩

theorem take_three_drop (l : List Float) {k : Nat} (h : k + 3 ≤ l.length) :
    (l.drop k).take 3 = [l.getD k 0, l.getD (k + 1) 0, l.getD (k + 2) 0] := by
  apply List.ext_getElem
  · simp only [List.length_take, List.length_drop, List.length_cons, List.length_nil]
    omega
  · intro i _ hi
    simp only [List.length_cons, List.length_nil] at hi
    obtain _ | _ | _ | i := i
    · simp [List.getD_eq_getElem?_getD, List.getElem?_eq_getElem (show k < l.length by omega)]
    · simp [List.getD_eq_getElem?_getD,
        List.getElem?_eq_getElem (show k + 1 < l.length by omega)]
    · simp [List.getD_eq_getElem?_getD,
        List.getElem?_eq_getElem (show k + 2 < l.length by omega)]
    · omega

namespace SensorTable

variable {table : NumArray} {n c : Nat}

theorem tableLength_eq (h : SensorTable table n c) : tableLength table = .ok n := by
  simp [tableLength, h.shape]

theorem length_eq (h : SensorTable table n c) : table.shape.headD 0 = n := by
  simp [h.shape]

theorem sensorPoint_eq (h : SensorTable table n c) {s : Nat} (hs : s < n) :
    sensorPoint table s = .ok (rowPoint table s).coords := by
  have hrow : (s + 1) * c ≤ n * c := Nat.mul_le_mul_right c hs
  have hk : s * c + 3 ≤ table.values.length := by
    rw [h.size]
    rw [Nat.succ_mul] at hrow
    have := h.wide
    omega
  have hmin : min (min 3 c) c = 3 := by
    have := h.wide
    omega
  simp only [sensorPoint, h.shape, Int.natCast_nonneg, Int.not_lt.mpr, ↓reduceIte,
    List.foldl_nil, Int.toNat_natCast, List.take_take, Nat.mul_one]
  rw [hmin, take_three_drop _ hk]
  simp [rowPoint, Vec3.coords, h.shape]

end SensorTable

/-! ### The correspondences of a bin -/

/-- One sensor of a bin taken into its correspondences, as `correspondences` takes it. -/
def gather (e : Estimator) (b : Bundle) (tracker lighthouse : String) (bin : Float)
    (table : NumArray) (params : Option (RotorCorrection × RotorCorrection))
    (acc : Array (List Float) × Array (Float × Float)) (s : Int) :
    Outcome (Array (List Float) × Array (Float × Float)) := do
  if s ≥ ((← tableLength table) : Int) then return acc
  match meanAngles (b.angles? tracker lighthouse bin s 0) (b.angles? tracker lighthouse bin s 1)
  with
  | none => pure acc
  | some angles =>
    let angles := match e.correct, params with
      | true, some p => correctAngles angles p
      | _, _ => angles
    let p ← sensorPoint table s
    pure (acc.1.push p, acc.2.push (e.imagePoint angles))

theorem correspondences_eq (e : Estimator) (b : Bundle) (tracker lighthouse : String)
    (bin : Float) (table : NumArray) (params : Option (RotorCorrection × RotorCorrection)) :
    e.correspondences b tracker lighthouse bin table params =
      (b.sensors tracker lighthouse bin).foldlM (gather e b tracker lighthouse bin table params)
        (#[], #[]) := rfl

section Gather

variable {e : Estimator} {b : Bundle} {tracker lighthouse : String} {bin : Float}
  {table : NumArray} {params : Option (RotorCorrection × RotorCorrection)} {n c : Nat}

theorem gather_eq (ht : SensorTable table n c) (acc : Array (List Float) × Array (Float × Float))
    {s : Int} (hs : 0 ≤ s) :
    gather e b tracker lighthouse bin table params acc s =
      .ok (match usableAt b tracker lighthouse bin n s with
        | some x => (acc.1.push (rowPoint table x.1.toNat).coords,
            acc.2.push (e.imagePoint (e.cameraAngles params x.2)))
        | none => acc) := by
  unfold gather usableAt
  rw [ht.tableLength_eq]
  dsimp only [Bind.bind, Except.bind]
  by_cases hn : s < n
  · -- a sensor in the table: its row is read when it has samples on both axes
    obtain ⟨k, rfl⟩ := Int.eq_ofNat_of_zero_le hs
    have hk : k < n := by omega
    rw [if_neg (by omega), if_pos ⟨hs, hn⟩]
    cases meanAngles (b.angles? tracker lighthouse bin k 0) (b.angles? tracker lighthouse bin k 1)
    with
    | none => rfl
    | some angles =>
      rw [ht.sensorPoint_eq hk]
      rfl
  · -- a sensor past the table is skipped
    rw [if_pos (by omega), if_neg (by omega)]
    rfl

theorem foldlM_gather (ht : SensorTable table n c) :
    ∀ (l : List Int), (∀ s ∈ l, 0 ≤ s) → ∀ acc : Array (List Float) × Array (Float × Float),
      l.foldlM (gather e b tracker lighthouse bin table params) acc =
        .ok (acc.1 ++ ((l.filterMap (usableAt b tracker lighthouse bin n)).map fun x =>
              (rowPoint table x.1.toNat).coords).toArray,
          acc.2 ++ ((l.filterMap (usableAt b tracker lighthouse bin n)).map fun x =>
              e.imagePoint (e.cameraAngles params x.2)).toArray)
  | [], _, acc => by simp; rfl
  | s :: l, hl, acc => by
    rw [List.foldlM_cons, gather_eq ht acc (hl s List.mem_cons_self)]
    dsimp only [Bind.bind, Except.bind]
    rw [foldlM_gather ht l (fun s' hs' => hl s' (.tail _ hs')), List.filterMap_cons]
    cases usableAt b tracker lighthouse bin n s with
    | none => rfl
    | some x => simp

theorem correspondences_usable (ht : SensorTable table n c)
    (hs : ∀ s ∈ b.sensors tracker lighthouse bin, 0 ≤ s) :
    e.correspondences b tracker lighthouse bin table params =
      .ok ((((usable b tracker lighthouse bin n).map fun x => rowPoint table x.1.toNat).map
          Vec3.coords).toArray,
        ((usable b tracker lighthouse bin n).map fun x =>
          e.imagePoint (e.cameraAngles params x.2)).toArray) := by
  rw [correspondences_eq, foldlM_gather ht _ hs, List.map_map]
  simp only [Array.empty_append, usable]
  rfl

end Gather

/-! ### Solving a bin -/

theorem length_flatten_coords : ∀ ps : List Vec3, (ps.map Vec3.coords).flatten.length = 3 * ps.length
  | [] => rfl
  | p :: ps => by
    simp only [List.map_cons, List.flatten_cons, List.length_append, length_flatten_coords ps,
      Vec3.coords, List.length_cons, List.length_nil]
    omega

theorem triples_flatten_coords : ∀ ps : List Vec3, triples (ps.map Vec3.coords).flatten = ps
  | [] => rfl
  | p :: ps => by
    simp only [List.map_cons, List.flatten_cons, Vec3.coords, List.cons_append, List.nil_append,
      triples, triples_flatten_coords ps]

section Solve

variable {e : Estimator} {pnp : PnpSolver}

theorem solveCorrespondences_coords (ps : List Vec3) (img : List (Float × Float))
    (himg : img.length = ps.length) :
    e.solveCorrespondences pnp (ps.map Vec3.coords).toArray img.toArray =
      .ok (if Float.ofNat ps.length < e.minCorrespondences then (e, none)
        else e.solve pnp ps.toArray img.toArray) := by
  unfold solveCorrespondences
  simp only [List.size_toArray, List.length_map, length_flatten_coords,
    triples_flatten_coords, himg]
  split_ifs <;> first | rfl | omega

@[simp] theorem scene_counts (j k : Nat) :
    ({ e with solutions := j, failures := k } : Estimator).scene = e.scene := rfl

@[simp] theorem imagePoint_counts (j k : Nat) :
    ({ e with solutions := j, failures := k } : Estimator).imagePoint = e.imagePoint := rfl

@[simp] theorem cameraAngles_counts (j k : Nat) :
    ({ e with solutions := j, failures := k } : Estimator).cameraAngles = e.cameraAngles := rfl

theorem foldl_step (cs : List Call) :
    ∀ (j k : Nat) (poses : PoseTable), cs.foldl (e.step pnp) (j, k, poses) =
      (j + cs.countP (e.answers pnp), k + cs.countP (fun c => !e.answers pnp c),
        cs.foldl (e.record pnp) poses) := by
  induction cs with
  | nil => intro j k poses; rfl
  | cons c cs ih =>
    intro j k poses
    rw [List.foldl_cons, List.foldl_cons, List.countP_cons, List.countP_cons]
    cases hc : pnp (e.scene c.points c.image) with
    | none =>
      have hs : e.step pnp (j, k, poses) c = (j, k + 1, poses) := by simp [step, hc]
      have hr : e.record pnp poses c = poses := by simp [record, hc]
      rw [hs, hr, ih]
      refine Prod.ext ?_ (Prod.ext ?_ rfl) <;> simp [answers, hc]
      omega
    | some a =>
      have hs : e.step pnp (j, k, poses) c =
          (j + 1, k, poses.insert c.tracker c.bin c.lighthouse (poseOf a)) := by simp [step, hc]
      have hr : e.record pnp poses c = poses.insert c.tracker c.bin c.lighthouse (poseOf a) := by
        simp [record, hc]
      rw [hs, hr, ih]
      refine Prod.ext ?_ (Prod.ext ?_ rfl) <;> simp [answers, hc]
      omega

end Solve

/-! ### The estimate, bin by bin -/

/-- One bin of an estimate: its correspondences solved, and the pose recorded when there is
one. -/
def solveBin (pnp : PnpSolver) (b : Bundle) (tracker lighthouse : String) (table : NumArray)
    (params : Option (RotorCorrection × RotorCorrection)) (acc : Estimator × PoseTable)
    (bin : Float) : Outcome (Estimator × PoseTable) := do
  let (e, poses) := acc
  let (obj, img) ← e.correspondences b tracker lighthouse bin table params
  let (e, pose) ← e.solveCorrespondences pnp obj img
  pure (match pose with
    | some p => (e, poses.insert tracker bin lighthouse p)
    | none => (e, poses))

theorem estimate_eq (e : Estimator) (pnp : PnpSolver) (b : Bundle)
    (trackers : List (String × NumArray))
    (lighthouses : List (String × Option (RotorCorrection × RotorCorrection))) :
    e.estimate pnp b trackers lighthouses =
      lighthouses.foldlM (fun acc l =>
        trackers.foldlM (fun acc t =>
          (b.bins t.1 l.1).foldlM (solveBin pnp b t.1 l.1 t.2 l.2) acc) acc) (e, {}) := rfl

theorem calls_eq (e : Estimator) (b : Bundle) (trackers : List (String × NumArray))
    (lighthouses : List (String × Option (RotorCorrection × RotorCorrection))) :
    e.calls b trackers lighthouses =
      lighthouses.flatMap fun l =>
        trackers.flatMap fun t => (b.bins t.1 l.1).filterMap (e.callAt b t.1 l.1 t.2 l.2) := rfl

section Run

variable {e : Estimator} {pnp : PnpSolver} {b : Bundle} {tracker lighthouse : String}
  {table : NumArray} {params : Option (RotorCorrection × RotorCorrection)} {n c : Nat}

theorem solveBin_eq (ht : SensorTable table n c) (hb : ∀ c ∈ b, 0 ≤ c.sensor)
    (acc : Nat × Nat × PoseTable) (bin : Float) :
    solveBin pnp b tracker lighthouse table params (e.withCounts acc) bin =
      .ok (e.withCounts (match e.callAt b tracker lighthouse table params bin with
        | some call => e.step pnp acc call
        | none => acc)) := by
  have hs : ∀ s ∈ b.sensors tracker lighthouse bin, 0 ≤ s := fun s h => by
    obtain ⟨c, hc, rfl⟩ := mem_sensors h
    exact hb c hc
  obtain ⟨j, k, poses⟩ := acc
  unfold solveBin withCounts
  dsimp only
  rw [correspondences_usable (e := { e with solutions := j, failures := k }) ht hs]
  dsimp only [Bind.bind, Except.bind]
  rw [solveCorrespondences_coords _ _ (by simp)]
  simp only [List.length_map, imagePoint_counts, cameraAngles_counts]
  unfold callAt
  rw [ht.length_eq]
  set u := usable b tracker lighthouse bin n
  by_cases hk : Float.ofNat u.length < e.minCorrespondences
  · rw [if_pos hk, if_pos hk]
    rfl
  · -- enough usable sensors: the solver's answer is counted and its pose recorded
    rw [if_neg hk, if_neg hk]
    have hk' : ¬Float.ofNat (u.map fun x => rowPoint table x.1.toNat).toArray.size <
        e.minCorrespondences := by simpa using hk
    simp only [solve, scene_counts, step, if_neg hk']
    cases pnp (e.scene (u.map fun x => rowPoint table x.1.toNat).toArray
      (u.map fun x => e.imagePoint (e.cameraAngles params x.2)).toArray) <;> rfl

theorem foldlM_solveBin (ht : SensorTable table n c) (hb : ∀ c ∈ b, 0 ≤ c.sensor) :
    ∀ (bins : List Float) (acc : Nat × Nat × PoseTable),
      bins.foldlM (solveBin pnp b tracker lighthouse table params) (e.withCounts acc) =
        .ok (e.withCounts
          ((bins.filterMap (e.callAt b tracker lighthouse table params)).foldl (e.step pnp) acc))
  | [], _ => rfl
  | bin :: bins, acc => by
    rw [List.foldlM_cons, solveBin_eq ht hb acc bin, List.filterMap_cons]
    dsimp only [Bind.bind, Except.bind]
    cases e.callAt b tracker lighthouse table params bin with
    | none => exact foldlM_solveBin ht hb bins acc
    | some call => exact foldlM_solveBin ht hb bins (e.step pnp acc call)

theorem foldlM_trackers (hb : ∀ c ∈ b, 0 ≤ c.sensor) (lighthouse : String)
    (params : Option (RotorCorrection × RotorCorrection)) :
    ∀ (trackers : List (String × NumArray)), (∀ t ∈ trackers, ∃ n c, SensorTable t.2 n c) →
      ∀ acc : Nat × Nat × PoseTable,
      trackers.foldlM (fun acc t => (b.bins t.1 lighthouse).foldlM
          (solveBin pnp b t.1 lighthouse t.2 params) acc) (e.withCounts acc) =
        .ok (e.withCounts ((trackers.flatMap fun t =>
          (b.bins t.1 lighthouse).filterMap (e.callAt b t.1 lighthouse t.2 params)).foldl
            (e.step pnp) acc))
  | [], _, _ => rfl
  | t :: trackers, htables, acc => by
    obtain ⟨n, c, ht⟩ := htables t List.mem_cons_self
    rw [List.foldlM_cons, foldlM_solveBin ht hb]
    dsimp only [Bind.bind, Except.bind]
    rw [foldlM_trackers hb lighthouse params trackers (fun t' h => htables t' (.tail _ h)),
      List.flatMap_cons, List.foldl_append]

theorem foldlM_lighthouses (hb : ∀ c ∈ b, 0 ≤ c.sensor) (trackers : List (String × NumArray))
    (htables : ∀ t ∈ trackers, ∃ n c, SensorTable t.2 n c) :
    ∀ (lighthouses : List (String × Option (RotorCorrection × RotorCorrection)))
      (acc : Nat × Nat × PoseTable),
      lighthouses.foldlM (fun acc l => trackers.foldlM (fun acc t =>
          (b.bins t.1 l.1).foldlM (solveBin pnp b t.1 l.1 t.2 l.2) acc) acc) (e.withCounts acc) =
        .ok (e.withCounts ((e.calls b trackers lighthouses).foldl (e.step pnp) acc))
  | [], _ => rfl
  | l :: lighthouses, acc => by
    rw [List.foldlM_cons, foldlM_trackers hb l.1 l.2 trackers htables]
    dsimp only [Bind.bind, Except.bind]
    rw [foldlM_lighthouses hb trackers htables lighthouses, calls_eq, calls_eq,
      List.flatMap_cons, List.foldl_append]

end Run

/-- With sensor tables of rows of at least three numbers and no negative sensor index, an
estimate makes exactly the solves that `calls` lists, in that order. Each solve the solver
answers counts a solution and records its pose under its tracker, bin and lighthouse; each it
fails counts a failure; so the solutions and failures added are as many as the solves. -/
theorem estimate_calls (e : Estimator) (pnp : PnpSolver) (b : Bundle)
    (trackers : List (String × NumArray))
    (lighthouses : List (String × Option (RotorCorrection × RotorCorrection)))
    (htables : ∀ t ∈ trackers, ∃ n c, SensorTable t.2 n c) (hsensors : ∀ c ∈ b, 0 ≤ c.sensor) :
    e.estimate pnp b trackers lighthouses =
      .ok ({ e with
          solutions := e.solutions + (e.calls b trackers lighthouses).countP (e.answers pnp)
          failures := e.failures +
            (e.calls b trackers lighthouses).countP (fun c => !e.answers pnp c) },
        (e.calls b trackers lighthouses).foldl (e.record pnp) {}) := by
  have h := @foldlM_lighthouses e pnp b hsensors trackers htables lighthouses
    (e.solutions, e.failures, {})
  rw [foldl_step] at h
  rw [estimate_eq]
  exact h

/-- A tracker `T` with four sensors and a tracker `U` with five, each seen on both axes in one
bin of lighthouse `L`, and a solver that fails on four points: the estimate counts a failure for
`T` and a solution for `U`, and records the pose of `U` alone. -/
theorem solver_failure_counted :
    let b : Bundle :=
      [⟨"T", "L", 0.0, 0, 0, [0.02]⟩, ⟨"T", "L", 0.0, 1, 0, [0.03]⟩,
        ⟨"T", "L", 0.0, 2, 0, [0.04]⟩, ⟨"T", "L", 0.0, 3, 0, [0.05]⟩,
        ⟨"T", "L", 0.0, 0, 1, [0.01]⟩, ⟨"T", "L", 0.0, 1, 1, [0.01]⟩,
        ⟨"T", "L", 0.0, 2, 1, [0.02]⟩, ⟨"T", "L", 0.0, 3, 1, [0.02]⟩,
        ⟨"U", "L", 0.0, 0, 0, [0.02]⟩, ⟨"U", "L", 0.0, 1, 0, [0.03]⟩,
        ⟨"U", "L", 0.0, 2, 0, [0.04]⟩, ⟨"U", "L", 0.0, 3, 0, [0.05]⟩,
        ⟨"U", "L", 0.0, 4, 0, [0.06]⟩, ⟨"U", "L", 0.0, 0, 1, [0.01]⟩,
        ⟨"U", "L", 0.0, 1, 1, [0.01]⟩, ⟨"U", "L", 0.0, 2, 1, [0.02]⟩,
        ⟨"U", "L", 0.0, 3, 1, [0.02]⟩, ⟨"U", "L", 0.0, 4, 1, [0.03]⟩]
    let tables : List (String × NumArray) :=
      [("T", ⟨[4, 3], [0, 0, 0, 0.1, 0, 0, 0, 0.1, 0, 0, 0, 0.1]⟩),
        ("U", ⟨[5, 3], [0, 0, 0, 0.1, 0, 0, 0, 0.1, 0, 0, 0, 0.1, 0.1, 0.1, 0.1]⟩)]
    let pnp : PnpSolver := fun sc =>
      if sc.points.size = 4 then none else some (⟨0, 0, 0⟩, ⟨0, 0, 1⟩)
    (∀ t ∈ tables, ∃ n c, SensorTable t.2 n c) ∧ (∀ c ∈ b, 0 ≤ c.sensor) ∧
      ∃ r, ({} : Estimator).estimate pnp b tables [("L", none)] = .ok r ∧
        r.1.solutions = 1 ∧ r.1.failures = 1 ∧
        r.2.entries.map (fun p => (p.1, p.2.2.1)) = [("U", "L")] := by
  intro b tables pnp
  have htables : ∀ t ∈ tables, ∃ n c, SensorTable t.2 n c := by
    intro t ht
    simp only [tables, List.mem_cons, List.not_mem_nil, or_false] at ht
    rcases ht with rfl | rfl
    · exact ⟨4, 3, rfl, le_refl 3, rfl⟩
    · exact ⟨5, 3, rfl, le_refl 3, rfl⟩
  have hsensors : ∀ c ∈ b, 0 ≤ c.sensor := by decide
  refine ⟨htables, hsensors, _, estimate_calls {} pnp b tables [("L", none)] htables hsensors, ?_⟩
  -- the sorts are by well-founded recursion: the lists are sorted already, so they stay
  have hbins : ∀ tr, tr ∈ ["T", "U"] → b.bins tr "L" = [0.0] := by
    intro tr htr
    simp only [List.mem_cons, List.not_mem_nil, or_false] at htr
    unfold Bundle.bins Bundle.distinctSorted Bundle.sortFloats
    rcases htr with rfl | rfl <;>
    · rw [List.mergeSort_of_pairwise]
      · rfl
      · decide +kernel
  have hsT : b.sensors "T" "L" 0.0 = [0, 1, 2, 3] := by
    unfold Bundle.sensors
    rw [List.mergeSort_of_pairwise]
    · decide +kernel
    · decide +kernel
  have hsU : b.sensors "U" "L" 0.0 = [0, 1, 2, 3, 4] := by
    unfold Bundle.sensors
    rw [List.mergeSort_of_pairwise]
    · decide +kernel
    · decide +kernel
  simp only [calls, tables, List.flatMap_cons, List.flatMap_nil, List.append_nil,
    hbins "T" (by simp), hbins "U" (by simp), List.filterMap_cons, List.filterMap_nil, callAt,
    usable, hsT, hsU]
  decide +kernel

/-- A negative sensor index reads a row from the end of the table. With sensors -1, 0, 1 and 2
of a four-row table seen on both axes, the bin has three usable sensors, too few for a solve,
yet the estimate solves it with four. -/
theorem negative_sensor_solved :
    let b : Bundle :=
      [⟨"T", "L", 0.0, -1, 0, [0.023805]⟩, ⟨"T", "L", 0.0, 0, 0, [0.024995]⟩,
        ⟨"T", "L", 0.0, 1, 0, [0.07486]⟩, ⟨"T", "L", 0.0, 2, 0, [0.024995]⟩,
        ⟨"T", "L", 0.0, -1, 1, [-0.014285]⟩, ⟨"T", "L", 0.0, 0, 1, [-0.014999]⟩,
        ⟨"T", "L", 0.0, 1, 1, [-0.014999]⟩, ⟨"T", "L", 0.0, 2, 1, [0.034986]⟩]
    let table : NumArray := ⟨[4, 3], [0, 0, 0, 0.1, 0, 0, 0, 0.1, 0, 0, 0, 0.1]⟩
    (Estimator.usable b "T" "L" 0.0 4).length = 3 ∧
      (Estimator.calls {} b [("T", table)] [("L", none)]).isEmpty = true ∧
      (match ({} : Estimator).estimate PnpSolver.epnp b [("T", table)] [("L", none)] with
        | .ok r => r.1.solutions == 1 && r.1.failures == 0
        | .error _ => false) = true := by
  intro b table
  -- the sorts are by well-founded recursion: the lists are sorted already, so they stay
  have hbins : b.bins "T" "L" = [0.0] := by
    unfold Bundle.bins Bundle.distinctSorted Bundle.sortFloats
    rw [List.mergeSort_of_pairwise]
    · rfl
    · decide +kernel
  have hsensors : b.sensors "T" "L" 0.0 = [-1, 0, 1, 2] := by
    unfold Bundle.sensors
    rw [List.mergeSort_of_pairwise]
    · decide +kernel
    · decide +kernel
  refine ⟨?_, ?_, ?_⟩
  · simp only [Estimator.usable, hsensors]
    decide +kernel
  · simp only [Estimator.calls, List.flatMap_cons, List.flatMap_nil, List.append_nil, hbins,
      List.filterMap_cons, List.filterMap_nil, Estimator.callAt, Estimator.usable, hsensors]
    decide +kernel
  · simp only [Estimator.estimate_eq, List.foldlM_cons, List.foldlM_nil, hbins,
      Estimator.solveBin, Estimator.correspondences_eq, hsensors]
    decide +kernel

end Estimator

end Lighthouse
