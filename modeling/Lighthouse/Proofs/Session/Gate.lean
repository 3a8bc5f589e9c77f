import Lighthouse.Proofs.Session.Trigger
import Mathlib
/-!
# Which lights a session stores

A light is stored exactly when the session is recording, its tracker and its lighthouse are
configured and ready, both thresholds can be read, and at least the count of its pulses pass
them (`onLight_stored_iff`); a pulse passes when it is not beyond the angle gate and not shorter
than the duration gate, the duration given in microseconds and divided by a million. The light
stored is the light with only its passing pulses, in order, stamped with the session clock; the
session counts every light it is given and every light it stores.

What "ready" means is a property of the sessions a session can become (`Reachable`): a tracker
that was last given a table of some dimensions is ready exactly when the table has rows, and a
lighthouse is ready exactly when a calibration record arrived for it or the calibration file the
session was made with gave its transform (`Readiness`). Only three operations move these flags:
making the session, a new calibration record and a new sensor table. Everything else, the
triggers and their solves included, leaves the trackers as they are and the lighthouses ready
for the same reasons (`Unmoved`).
-/
namespace Lighthouse

namespace Session

open Effect

/-- The readiness of a lighthouse: its serial, whether it has a calibration record, and whether
it is ready. -/
def readinessOf (lh : LighthouseState) : String × Bool × Bool :=
  (lh.serial, lh.calibration.isSome, lh.ready)

/-- `s'` has the trackers of `s`, and lighthouses ready for the same reasons as those of `s`. -/
structure Unmoved (s s' : Session) : Prop where
  trackers : s'.trackers = s.trackers
  lighthouses : s'.lighthouses.map readinessOf = s.lighthouses.map readinessOf

instance : IsPreorder Session Unmoved where
  refl _ := ⟨rfl, rfl⟩
  trans _ _ _ h₁ h₂ := ⟨h₂.trackers.trans h₁.trackers, h₂.lighthouses.trans h₁.lighthouses⟩

theorem Unmoved.of_eq {s s' : Session} (ht : s'.trackers = s.trackers)
    (hl : s'.lighthouses = s.lighthouses) : Unmoved s s' :=
  ⟨ht, by rw [hl]⟩

section Unmoved

theorem note_unmoved (s : Session) (e : JournalEntry) : Unmoved s (s.note e) := .of_eq rfl rfl

theorem publish_unmoved (s : Session) (p : Publication) : Unmoved s (s.publish p) := by
  unfold publish
  split <;> exact .of_eq rfl rfl

theorem withRecorder_unmoved {α : Type} (r : Recorder) (e : Effect (Recorder × Disk) α)
    (s : Session) : Unmoved s ((withRecorder r e).runFrom s).2 := by
  unfold withRecorder
  simp only [runFrom_bind, runFrom_get]
  rcases e.runFrom (r, s.disk) with ⟨res, r', d'⟩
  simp only [runFrom_set, runFrom_ofOutcome]
  exact .of_eq rfl rfl

theorem recordEvent_unmoved (eventType : String) (data : Json) :
    Keeps Unmoved (recordEvent eventType data) := by
  apply keeps_get_bind
  intro s
  split
  · split
    · exact withRecorder_unmoved _ _ s
    · exact refl_of Unmoved s
  · exact refl_of Unmoved s

theorem answer_unmoved (ok : Bool) (msg : String) : Keeps Unmoved (answer ok msg) :=
  keeps_bind (keeps_modify fun s => note_unmoved s _) fun _ =>
    keeps_bind (recordEvent_unmoved _ _) fun _ => keeps_pure _

theorem estimateAndRegister_unmoved (ms : List Measurement) :
    Keeps Unmoved (estimateAndRegister ms) := by
  unfold estimateAndRegister
  refine keeps_bind (keeps_modify fun s => .of_eq rfl rfl) fun _ => keeps_get_bind fun s => ?_
  refine keeps_bind_at (keeps_ofOutcome _ s) fun bundle => ?_
  refine keeps_bind (keeps_modify fun x => note_unmoved x _) fun _ => ?_
  refine keeps_bind (keeps_ofOutcome _) fun estimated => ?_
  obtain ⟨estimator, poses⟩ := estimated
  refine keeps_bind (keeps_modify fun x => .of_eq rfl rfl) fun _ => ?_
  refine keeps_bind (keeps_ofOutcome _) fun registered => ?_
  obtain ⟨summary, solved, notes⟩ := registered
  exact keeps_bind (keeps_modify fun x => .of_eq rfl rfl) fun _ =>
    keeps_bind (recordEvent_unmoved _ _) fun _ => keeps_pure _

theorem readinessOf_install {solved : List (String × List Float)} {lh lh' : LighthouseState}
    (h : install solved lh = .ok lh') : readinessOf lh' = readinessOf lh := by
  unfold install at h
  split at h
  · obtain ⟨t, -, h⟩ := Outcome.bind_eq_ok h
    cases h
    rfl
  · cases h
    rfl

theorem readinessOf_mapM_install {solved : List (String × List Float)} :
    ∀ {lhs lhs' : List LighthouseState}, lhs.mapM (install solved) = .ok lhs' →
      lhs'.map readinessOf = lhs.map readinessOf
  | [], _, h => by
    cases h
    rfl
  | lh :: lhs, _, h => by
    rw [List.mapM_cons] at h
    obtain ⟨lh', hlh, h⟩ := Outcome.bind_eq_ok h
    obtain ⟨lhs', hlhs, h⟩ := Outcome.bind_eq_ok h
    cases h
    rw [List.map_cons, List.map_cons, readinessOf_install hlh, readinessOf_mapM_install hlhs]

theorem installAll_unmoved (solved : List (String × List Float)) :
    Keeps Unmoved (installAll solved) := by
  intro s
  rcases hm : s.lighthouses.mapM (install solved) with f | lhs
  · rw [installAll_error hm]
    exact refl_of Unmoved s
  · rw [installAll_ok hm]
    exact ⟨rfl, readinessOf_mapM_install hm⟩

theorem writeCalibration_unmoved (data : SiteCalibration) :
    Keeps Unmoved (writeCalibration data) := by
  unfold writeCalibration
  refine keeps_get_bind fun s => ?_
  dsimp only
  rcases (data.write s.config.calfile).runFrom s.disk with ⟨written, disk⟩
  dsimp only
  refine keeps_bind_at (Unmoved.of_eq rfl rfl : Unmoved s { s with disk }) fun _ => ?_
  cases written with
  | error f =>
    dsimp only
    split
    · exact keeps_bind (keeps_throw f) fun _ => keeps_modify fun x => note_unmoved x _
    · exact keeps_modify fun x => note_unmoved x _
  | ok _ => exact keeps_modify fun x => trans_of Unmoved (note_unmoved x _) (note_unmoved _ _)

theorem adopt_unmoved (poses : PoseTable) (solved : List (String × List Float)) :
    Keeps Unmoved (adopt poses solved) := by
  unfold adopt
  refine keeps_bind (installAll_unmoved solved) fun _ => keeps_get_bind fun x => ?_
  dsimp only
  exact keeps_bind (keeps_modify fun y => publish_unmoved y _) (fun _ =>
    keeps_bind (writeCalibration_unmoved _) fun _ => keeps_bind (keeps_ofOutcome _) fun _ =>
      keeps_modify fun y => publish_unmoved y _) x

theorem solve_unmoved (ms : List Measurement) : Keeps Unmoved (solve ms) := by
  unfold solve
  refine keeps_bind (estimateAndRegister_unmoved ms) fun found => ?_
  obtain ⟨poses, summary, solved⟩ := found
  dsimp only
  split
  · exact keeps_pure _
  · exact keeps_bind (adopt_unmoved poses solved) fun _ => keeps_pure _

theorem trigger_unmoved (stopOnly : Bool) : Keeps Unmoved (trigger stopOnly) := by
  intro s
  cases hrec : s.store.recording
  · cases stopOnly
    · rw [trigger_idle hrec]
      exact trans_of Unmoved (Unmoved.of_eq rfl rfl : Unmoved s { s with store := s.store.start })
        (answer_unmoved _ _ _)
    · rw [trigger_stop_idle hrec]
      exact refl_of Unmoved s
  · rw [trigger_recording hrec]
    refine trans_of Unmoved (Unmoved.of_eq rfl rfl : Unmoved s { s with store := {} }) ?_
    split
    · exact answer_unmoved _ _ _
    · exact keeps_bind (solve_unmoved _) (fun _ => answer_unmoved _ _) _

theorem onLight_unmoved (l : Light) : Keeps Unmoved (onLight l) := by
  intro s
  rcases onLight_cases l s with ⟨hs, -⟩ | ⟨maxAngle, minDuration, -, -, -, hrun⟩
  · rw [hs]
    exact .of_eq rfl rfl
  · rw [hrun]
    exact .of_eq rfl rfl

end Unmoved

/-- The readiness of trackers and lighthouses as the gates read it. `files` are the serials the
calibration file gave transforms for when the session was made. -/
structure Readiness (files : List String) (s : Session) : Prop where
  /-- A tracker last given a table of some dimensions is ready exactly when the table has
  rows. -/
  trackers : ∀ t ∈ s.trackers, ∀ n rest, t.sensors.shape = n :: rest → (t.ready = true ↔ 0 < n)
  /-- A lighthouse is ready exactly when a calibration record arrived for it or the file gave
  its transform. -/
  lighthouses : ∀ lh ∈ s.lighthouses,
    lh.ready = true ↔ lh.calibration.isSome = true ∨ lh.serial ∈ files

def KeepsReady (files : List String) (s s' : Session) : Prop := Readiness files s → Readiness files s'

instance (files : List String) : IsPreorder Session (KeepsReady files) where
  refl _ := id
  trans _ _ _ h₁ h₂ := h₂ ∘ h₁

section Ready

variable {files : List String}

theorem Unmoved.keepsReady {s s' : Session} (h : Unmoved s s') : KeepsReady files s s' := by
  intro hr
  refine ⟨fun t ht => hr.trackers t (h.trackers ▸ ht), fun lh' hlh' => ?_⟩
  -- a lighthouse of `s'` has the readiness of one of `s`
  have hmem : readinessOf lh' ∈ s.lighthouses.map readinessOf :=
    h.lighthouses ▸ List.mem_map_of_mem hlh'
  obtain ⟨lh, hlh, heq⟩ := List.mem_map.mp hmem
  simp only [readinessOf, Prod.mk.injEq] at heq
  obtain ⟨hserial, hcal, hready⟩ := heq
  rw [← hserial, ← hcal, ← hready]
  exact hr.lighthouses lh hlh

theorem keepsReady_of_unmoved {α : Type} {e : Effect Session α} (h : Keeps Unmoved e) :
    Keeps (KeepsReady files) e :=
  h.mono fun _ _ hs => hs.keepsReady

theorem onLighthouse_keepsReady (s : Session) (record : Calibration) :
    KeepsReady files s (s.onLighthouse record) := by
  intro hr
  unfold onLighthouse
  split
  · exact (note_unmoved s _).keepsReady hr
  · -- the lighthouses of the record's serial get the record and are ready
    have hmap : ∀ s₁ : Session, s₁.trackers = s.trackers → s₁.lighthouses = s.lighthouses →
        Readiness files { s₁ with lighthouses := s₁.lighthouses.map fun lh =>
          if lh.serial == record.serial then { lh with calibration := some record, ready := true }
          else lh } := by
      intro s₁ ht hl
      refine ⟨fun t htm => hr.trackers t (ht ▸ htm), fun lh' hlh' => ?_⟩
      obtain ⟨lh, hlh, rfl⟩ := List.mem_map.mp hlh'
      split
      · simp
      · exact hr.lighthouses lh (hl ▸ hlh)
    split <;> exact hmap _ rfl rfl

theorem updateTracker_readiness {s : Session} {serial : String} {f : TrackerState → TrackerState}
    (hf : ∀ t n rest, (f t).sensors.shape = n :: rest → ((f t).ready = true ↔ 0 < n))
    (hr : Readiness files s) : Readiness files (s.updateTracker serial f) := by
  refine ⟨fun t' ht' => ?_, hr.lighthouses⟩
  obtain ⟨t, ht, rfl⟩ := List.mem_map.mp ht'
  split
  · exact hf t
  · exact hr.trackers t ht

theorem setTrackerSensors_keepsReady (serial : String) (sensors : NumArray) :
    Keeps (KeepsReady files) (setTrackerSensors serial sensors) := by
  apply keeps_get_bind
  intro s
  dsimp only
  split
  · rw [runFrom_bind_error (runFrom_throw _ _)]
    exact refl_of (KeepsReady files) s
  · split
    · rename_i hshape
      rw [runFrom_bind_ok (runFrom_set _ _), runFrom_bind_error (runFrom_throw _ _)]
      refine updateTracker_readiness fun t n rest h => ?_
      rw [hshape] at h
      cases h
    · rename_i n rest hshape
      rw [runFrom_bind_ok (runFrom_pure _ _), runFrom_set]
      refine updateTracker_readiness fun t m rest' h => ?_
      rw [hshape] at h
      cases h
      simp

theorem putDevice_unmoved (d : Device) : Keeps Unmoved (putDevice d) :=
  keeps_modify fun s => by
    split <;> exact .of_eq rfl rfl

theorem feedDevice_keepsReady (tracker : String) (timecode sensor length : Int) :
    Keeps (KeepsReady files) (feedDevice tracker timecode sensor length) := by
  apply keeps_get_bind
  intro s
  dsimp only
  refine keeps_ite_set_bind (note_unmoved s _).keepsReady ?_
  -- the device's course moves readiness only through the calibration records it raises
  refine keeps_bind (keepsReady_of_unmoved (putDevice_unmoved _)) fun _ =>
    keeps_bind (keeps_forM fun x _ => ?_) fun _ => keeps_bind (keepsReady_of_unmoved (putDevice_unmoved _))
      fun _ => keeps_bind (keeps_modify fun s => Unmoved.keepsReady (.of_eq rfl rfl)) fun _ => ?_
  · obtain ⟨d, table, e⟩ := x
    refine keeps_bind (keepsReady_of_unmoved (putDevice_unmoved _)) fun _ =>
      keeps_bind (keeps_modify fun s => Unmoved.keepsReady (.of_eq rfl rfl)) fun _ => ?_
    cases e with
    | light l => exact keeps_discard (keepsReady_of_unmoved (onLight_unmoved l))
    | lighthouse slot r =>
      exact keeps_bind (keeps_modify fun s => (note_unmoved s _).keepsReady) fun _ =>
        keeps_modify fun s => onLighthouse_keepsReady s r
  · split
    · exact keeps_throw _
    · exact keeps_pure _

theorem processPulse_keepsReady (tracker : String) (timecode sensor length : Int) :
    Keeps (KeepsReady files) (processPulse tracker timecode sensor length) := by
  apply keeps_get_bind
  intro s
  dsimp only
  split
  · split
    · exact keeps_bind_at (withRecorder_unmoved _ _ s).keepsReady fun _ =>
        feedDevice_keepsReady _ _ _ _
    · exact feedDevice_keepsReady _ _ _ _ s
  · exact feedDevice_keepsReady _ _ _ _ s

theorem take_keepsReady (i : Input) : Keeps (KeepsReady files) i.take := by
  cases i with
  | pulse tracker timecode sensor length => exact processPulse_keepsReady tracker timecode sensor length
  | light l => exact keeps_discard (keepsReady_of_unmoved (onLight_unmoved l))
  | lighthouse record => exact keeps_modify fun s => onLighthouse_keepsReady s record
  | sensors serial table => exact setTrackerSensors_keepsReady serial table

end Ready

/-! ### Reachable sessions -/

/-- The serials of the lighthouses whose transforms a session made with nesting room `room`
reads from its calibration file: none when the file is missing or cannot be read. -/
def fileSerials (room : Nat) (config : Config) (disk : Disk) : List String :=
  match SiteCalibration.read (room - 2 - 1) disk config.calfile with
  | .ok (some data) => data.lighthouses.map Prod.fst
  | _ => []

/-- The sessions a session can become: it is made, takes inputs, is triggered (by hand or when
idle), has its clock set and has its recorder used. The index is the serials its calibration
file gave when it was made. -/
inductive Reachable : List String → Session → Prop
  | create {room : Nat} {config : Config} {disk : Disk} {clock : Float}
      {recorder : Option Recorder} {publisher : Publisher} {s : Session} :
      Session.create room config disk clock recorder publisher = .ok s →
      Reachable (fileSerials room config disk) s
  | take {files : List String} {s : Session} (i : Input) :
      Reachable files s → Reachable files (i.take.runFrom s).2
  | trigger {files : List String} {s : Session} (stopOnly : Bool) :
      Reachable files s → Reachable files ((trigger stopOnly).runFrom s).2
  | tick {files : List String} {s : Session} (clock : Float) :
      Reachable files s → Reachable files { s with clock }
  | record {files : List String} {s : Session} {α : Type} (r : Recorder)
      (e : Effect (Recorder × Disk) α) :
      Reachable files s → Reachable files ((withRecorder r e).runFrom s).2

theorem ofRows_ready {rows : List (List Float)} {n : Nat} {rest : List Nat}
    (h : (NumArray.ofRows rows 6).shape = n :: rest) : (!rows.isEmpty) = true ↔ 0 < n := by
  simp only [NumArray.ofRows, List.cons.injEq] at h
  rw [← h.1]
  cases rows <;> simp

theorem find_fst_isSome_iff {β : Type} (xs : List (String × β)) (k : String) :
    (xs.find? (·.1 == k)).isSome = true ↔ k ∈ xs.map Prod.fst := by
  simp [List.find?_isSome, List.mem_map]

theorem create_readiness {room : Nat} {config : Config} {disk : Disk} {clock : Float}
    {recorder : Option Recorder} {publisher : Publisher} {s : Session}
    (h : create room config disk clock recorder publisher = .ok s) :
    Readiness (fileSerials room config disk) s := by
  unfold create at h
  obtain ⟨s₁, h₁, h⟩ := Outcome.bind_eq_ok h
  have hs : Unmoved s₁ s := by
    split at h <;> cases h
    · exact ⟨(publish_unmoved s₁ _).trackers, (publish_unmoved s₁ _).lighthouses⟩
    · exact publish_unmoved _ _
  refine hs.keepsReady ?_
  unfold loadCalibration at h₁
  unfold fileSerials
  dsimp only at h₁
  rcases hread : SiteCalibration.read (room - 2 - 1) disk config.calfile with f | _ | data <;>
    rw [hread] at h₁ <;> dsimp only at h₁ ⊢
  · split at h₁
    · cases h₁
      refine ⟨fun t ht n rest hshape => ?_, fun lh hlh => ?_⟩
      · simp only [note, List.mem_map] at ht
        obtain ⟨_, -, rfl⟩ := ht
        exact ofRows_ready hshape
      · simp only [note, List.mem_map] at hlh
        obtain ⟨_, -, rfl⟩ := hlh
        simp
    · cases h₁
  · cases h₁
    refine ⟨fun t ht n rest hshape => ?_, fun lh hlh => ?_⟩
    · simp only [note, List.mem_map] at ht
      obtain ⟨_, -, rfl⟩ := ht
      exact ofRows_ready hshape
    · simp only [note, List.mem_map] at hlh
      obtain ⟨_, -, rfl⟩ := hlh
      simp
  · cases h₁
    refine ⟨fun t ht n rest hshape => ?_, fun lh hlh => ?_⟩
    · simp only [note, List.mem_map] at ht
      obtain ⟨_, ⟨_, -, rfl⟩, rfl⟩ := ht
      split at hshape <;> exact ofRows_ready hshape
    · simp only [note, List.mem_map] at hlh
      obtain ⟨_, ⟨_, -, rfl⟩, rfl⟩ := hlh
      rw [← find_fst_isSome_iff]
      split <;> simp [*]

theorem Reachable.readiness {files : List String} {s : Session} (h : Reachable files s) :
    Readiness files s := by
  induction h with
  | create h => exact create_readiness h
  | take i _ ih => exact take_keepsReady i _ ih
  | trigger stopOnly _ ih => exact keepsReady_of_unmoved (trigger_unmoved stopOnly) _ ih
  | @tick _ s clock _ ih => exact (Unmoved.of_eq rfl rfl : Unmoved s { s with clock }).keepsReady ih
  | record r e _ ih => exact (withRecorder_unmoved r e _).keepsReady ih

/-! ### The gates -/

/-- The gates a session puts a light through: it is recording; the light's tracker and its
lighthouse are configured (the first of each serial) and ready; and the thresholds can be read,
the angle gate as `maxAngle` radians and the duration gate as `minDuration` seconds, and leave
the light with no fewer pulses than the count gate. -/
def Admits (s : Session) (l : Light) : Prop :=
  s.store.recording = true ∧
    (∃ t, s.trackers.find? (·.serial == l.tracker) = some t ∧ t.ready = true) ∧
    (∃ lh, s.lighthouses.find? (·.serial == l.lighthouse) = some lh ∧ lh.ready = true) ∧
    ∃ maxAngle minDuration, s.config.thresholds.angleRad = .ok maxAngle ∧
      s.config.thresholds.durationS = .ok minDuration ∧
      belowCount s.config.thresholds.count (l.gate maxAngle minDuration).pulses.length = .ok false

/-- A light is stored exactly when it passes the gates; in every other case, a gate that cannot
be read included, it is not. -/
theorem onLight_stored_iff (l : Light) (s : Session) :
    ((onLight l).runFrom s).1 = .ok true ↔ Admits s l := by
  unfold onLight Admits
  simp only [runFrom_bind, runFrom_modify, runFrom_get]
  rcases hrec : s.store.recording with _ | _
  · simp
  simp only [Bool.not_true, Bool.false_eq_true, ↓reduceIte]
  rcases htr : s.trackers.find? (·.serial == l.tracker) with _ | tracker
  · simp [htr]
  rcases hlh : s.lighthouses.find? (·.serial == l.lighthouse) with _ | lh
  · simp [htr, hlh]
  simp only [htr, hlh]
  rcases htready : tracker.ready with _ | _
  · simp [htready]
  rcases hlready : lh.ready with _ | _
  · simp [hlready]
  simp only [Bool.not_true, Bool.or_self, Bool.false_eq_true, ↓reduceIte]
  rcases ha : s.config.thresholds.angleRad with f | maxAngle
  · simp [runFrom_bind]
  rcases hd : s.config.thresholds.durationS with f | minDuration
  · simp [runFrom_bind]
  simp only [runFrom_bind, runFrom_ofOutcome]
  rcases hb : belowCount s.config.thresholds.count (l.gate maxAngle minDuration).pulses.length with
    f | below
  -- the stored light is gated under the existential of `Admits`: compare the two in one form
  all_goals simp only [Light.gate, gt_iff_lt, Bool.not_or] at hb ⊢
  · simp [hb]
  cases below
  · simp only [hb, Bool.false_eq_true, ↓reduceIte, runFrom_bind, runFrom_set, runFrom_pure,
      Store.add, hrec]
    simp [htready, hlready, hb]
  · simp [hb]

/-- What a light does to a session that can be reached: the flags it reads mean what
`Readiness` says, it is stored exactly when it passes the gates (`Admits`), a stored light is
the light with only its passing pulses stamped with the session clock, and the session counts
every light it is given and every light it stores, leaving the store as it was otherwise. -/
structure GateReport (files : List String) (s : Session) (l : Light) : Prop where
  readiness : Readiness files s
  stored_iff : ((onLight l).runFrom s).1 = .ok true ↔ Admits s l
  stored : ∀ maxAngle minDuration, s.config.thresholds.angleRad = .ok maxAngle →
    s.config.thresholds.durationS = .ok minDuration → ((onLight l).runFrom s).1 = .ok true →
    ((onLight l).runFrom s).2.store.items = s.store.items ++ [⟨s.clock, l.gate maxAngle minDuration⟩]
  received : ((onLight l).runFrom s).2.lightsReceived = s.lightsReceived + 1
  accepted : ((onLight l).runFrom s).1 = .ok true ∧
      ((onLight l).runFrom s).2.lightsAccepted = s.lightsAccepted + 1 ∨
    ((onLight l).runFrom s).1 ≠ .ok true ∧
      ((onLight l).runFrom s).2.lightsAccepted = s.lightsAccepted ∧
      ((onLight l).runFrom s).2.store = s.store

theorem onLight_gate {files : List String} {s : Session} (hs : Reachable files s) (l : Light) :
    GateReport files s l := by
  rcases onLight_cases l s with ⟨hrun, hr⟩ | ⟨maxAngle, minDuration, -, ha, hd, hrun⟩
  · -- a refused light is only counted
    exact ⟨hs.readiness, onLight_stored_iff l s, fun _ _ _ _ h => absurd h hr, by rw [hrun],
      .inr ⟨hr, by rw [hrun], by rw [hrun]⟩⟩
  · -- both thresholds are read once, so the light stored is gated by the values given
    refine ⟨hs.readiness, onLight_stored_iff l s, fun maxAngle' minDuration' ha' hd' _ => ?_,
      by rw [hrun], .inl ⟨by rw [hrun], by rw [hrun]⟩⟩
    rw [ha, Except.ok.injEq] at ha'
    rw [hd, Except.ok.injEq] at hd'
    rw [hrun, ← ha', ← hd']

/-- An offline session with one lighthouse and one tracker with a table, gating at one pulse,
sixty degrees and five microseconds. -/
def gateConfig : Config :=
  { calfile := "cal.json", offline := true
    thresholds := { count := .int 1, angle := .float 60.0, duration := .float 5.0 }
    lighthouses := [{ name := "master", serial := "100" }]
    trackers := [{ name := "t", serial := "LHR-T", sensors := ⟨[[0.05, 0.0, 0.0, 0.0, 0.0, 0.0]]⟩ }] }

/-- A light of that tracker and lighthouse with one pulse, as long as five times `1e-6`. -/
def gateLight : Light :=
  { tracker := "LHR-T", lighthouse := "100", axis := 0, syncTime := 0,
    pulses := [{ sensor := 0, angle := 0.0, duration := 4.9999999999999996e-06 }] }

theorem offline_session_gate :
    ∃ s, create 8 gateConfig {} 0.0 none .keep = .ok s ∧
      GateReport (fileSerials 8 gateConfig {}) (s.onLighthouse { serial := "100" }) gateLight := by
  have hok : (create 8 gateConfig {} 0.0 none .keep).isOk = true := by decide +kernel
  obtain ⟨s, h⟩ := Outcome.ok_of_isOk hok
  exact ⟨s, h, onLight_gate ((Reachable.create h).take (.lighthouse { serial := "100" })) gateLight⟩

/-- The duration gate is the duration divided by a million, not multiplied by `1e-6`: a pulse as
long as five times `1e-6` is shorter than five divided by a million, and the light that has only
it is refused, though the session records, its tracker has a table of one row and its lighthouse
has its calibration record. -/
theorem gate_refuses_pulse_at_scaled_duration :
    ∃ s, create 8 gateConfig {} 0.0 none .keep = .ok s ∧
      (s.onLighthouse { serial := "100" }).store.recording = true ∧
      ((s.onLighthouse { serial := "100" }).trackers.find? (·.serial == "LHR-T")).map
        (fun t => t.sensors.shape) = some [1, 6] ∧
      ((s.onLighthouse { serial := "100" }).lighthouses.find? (·.serial == "100")).map
        (fun lh => lh.calibration.isSome) = some true ∧
      (gateLight.pulses.filter fun p =>
        !(p.angle > 60.0 * (Ticks.pi / 180.0) || p.duration < 5.0 * 1e-6)).length = 1 ∧
      ((onLight gateLight).runFrom (s.onLighthouse { serial := "100" })).1 = .ok false := by
  have hv : (create 8 gateConfig {} 0.0 none .keep).toOption.map (fun s =>
      let s₁ := s.onLighthouse { serial := "100" }
      (s₁.store.recording, (s₁.trackers.find? (·.serial == "LHR-T")).map (fun t => t.sensors.shape),
        (s₁.lighthouses.find? (·.serial == "100")).map (fun lh => lh.calibration.isSome),
        ((onLight gateLight).runFrom s₁).1.toOption)) =
      some (true, some [1, 6], some true, some false) := by
    decide +kernel
  have hpass : (gateLight.pulses.filter fun p =>
      !(p.angle > 60.0 * (Ticks.pi / 180.0) || p.duration < 5.0 * 1e-6)).length = 1 := by
    decide +kernel
  obtain ⟨s, h, hv⟩ := Outcome.ok_of_toOption_map hv
  simp only [Prod.mk.injEq] at hv
  obtain ⟨hrec, htr, hlh, hres⟩ := hv
  refine ⟨s, h, hrec, htr, hlh, hpass, ?_⟩
  revert hres
  cases ((onLight gateLight).runFrom (s.onLighthouse { serial := "100" })).1 with
  | error f => intro hres; cases hres
  | ok b => intro hres; cases hres; rfl

end Session

end Lighthouse
