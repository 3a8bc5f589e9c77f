import Lighthouse.Session
import Mathlib.Order.Defs.Unbundled
/-!
# What the operations of a session keep

An operation on a state (`Effect`) ends, by success or by failure, in some state. `Keeps R e`
says that this state is always related by `R` to the state `e` started from. For a reflexive and
transitive `R` this is read off the program: `pure`, `throw` and a result taken in keep every
such relation, a `bind` keeps it when both parts do, and a loop when its body does.

Between triggers a session takes pulses, lights, lighthouse records and sensor tables
(`Session.Input`). None of them changes the configuration, the lighthouse transforms or whether
a log is open, and none writes to the disk but through an open log (`Session.Quiet`). The store
keeps its recording state and only grows at its end, by one measurement for each light
accepted and by none while idle (`Session.Grows`), whatever inputs the session takes in turn
(`grows_takeAll`).
-/
namespace Lighthouse

namespace Effect

variable {σ α β : Type}

@[simp] theorem runFrom_pure (a : α) (s : σ) : (pure a : Effect σ α).runFrom s = (.ok a, s) := rfl

@[simp] theorem runFrom_get (s : σ) : (get : Effect σ σ).runFrom s = (.ok s, s) := rfl

@[simp] theorem runFrom_set (t s : σ) : (set t : Effect σ PUnit).runFrom s = (.ok ⟨⟩, t) := rfl

@[simp] theorem runFrom_modify (g : σ → σ) (s : σ) :
    (modify g : Effect σ PUnit).runFrom s = (.ok ⟨⟩, g s) := rfl

@[simp] theorem runFrom_throw (f : Fault) (s : σ) :
    (throw f : Effect σ α).runFrom s = (.error f, s) := rfl

@[simp] theorem runFrom_ofOutcome (o : Outcome α) (s : σ) :
    (ofOutcome o : Effect σ α).runFrom s = (o, s) := by
  cases o <;> rfl

@[simp] theorem runFrom_get_bind (f : σ → Effect σ β) (s : σ) :
    (get >>= f).runFrom s = (f s).runFrom s := rfl

theorem runFrom_bind (x : Effect σ α) (f : α → Effect σ β) (s : σ) :
    (x >>= f).runFrom s = match x.runFrom s with
      | (.ok a, s') => (f a).runFrom s'
      | (.error e, s') => (.error e, s') := by
  unfold runFrom
  rcases h : x.run.run s with ⟨_ | a, s'⟩ <;>
    simp only [bind, ExceptT.bind, ExceptT.mk, ExceptT.run, StateT.bind, StateT.run] at h ⊢ <;>
    rw [h] <;> rfl

theorem runFrom_bind_ok {x : Effect σ α} {f : α → Effect σ β} {s s' : σ} {a : α}
    (h : x.runFrom s = (.ok a, s')) : (x >>= f).runFrom s = (f a).runFrom s' := by
  rw [runFrom_bind, h]

theorem runFrom_bind_error {x : Effect σ α} {f : α → Effect σ β} {s s' : σ} {e : Fault}
    (h : x.runFrom s = (.error e, s')) : (x >>= f).runFrom s = (.error e, s') := by
  rw [runFrom_bind, h]

theorem runFrom_bind_eq_ok {x : Effect σ α} {f : α → Effect σ β} {s s'' : σ} {b : β}
    (h : (x >>= f).runFrom s = (.ok b, s'')) :
    ∃ a s', x.runFrom s = (.ok a, s') ∧ (f a).runFrom s' = (.ok b, s'') := by
  rcases hx : x.runFrom s with ⟨_ | a, s'⟩
  · rw [runFrom_bind_error hx] at h
    cases h
  · exact ⟨a, s', rfl, by rwa [runFrom_bind_ok hx] at h⟩

/-- Every state `e` reaches from a state `s`, by success or failure, is related to `s` by `R`. -/
def Keeps (R : σ → σ → Prop) (e : Effect σ α) : Prop := ∀ s, R s (e.runFrom s).2

theorem Keeps.mono {R R' : σ → σ → Prop} {e : Effect σ α} (hR : ∀ s s', R s s' → R' s s')
    (h : Keeps R e) : Keeps R' e :=
  fun s => hR _ _ (h s)

section Keeps

variable {R : σ → σ → Prop}

theorem keeps_modify {g : σ → σ} (h : ∀ s, R s (g s)) : Keeps R (modify g : Effect σ PUnit) := h

theorem keeps_get_bind {f : σ → Effect σ β} (h : ∀ s, R s ((f s).runFrom s).2) :
    Keeps R (get >>= f) :=
  h

theorem keeps_discard {e : Effect σ α} (h : Keeps R e) : Keeps R (discard e) := by
  intro s
  have := h s
  rcases hrun : e.runFrom s with ⟨_ | a, s'⟩ <;>
    simp only [Effect.runFrom, discard, Functor.mapConst, ExceptT.map, ExceptT.mk,
      ExceptT.run, StateT.bind, StateT.run, bind, Function.comp, Function.const] at hrun this ⊢ <;>
    rw [hrun] at this ⊢ <;>
    exact this

variable [IsPreorder σ R]

theorem keeps_pure (a : α) : Keeps R (pure a : Effect σ α) := fun s => refl_of R s

theorem keeps_throw (f : Fault) : Keeps R (throw f : Effect σ α) := fun s => refl_of R s

theorem keeps_ofOutcome (o : Outcome α) : Keeps R (ofOutcome o : Effect σ α) := fun s => by
  rw [runFrom_ofOutcome]
  exact refl_of R s

theorem keeps_bind_at {s : σ} {x : Effect σ α} {f : α → Effect σ β} (hx : R s (x.runFrom s).2)
    (hf : ∀ a, Keeps R (f a)) : R s ((x >>= f).runFrom s).2 := by
  rcases h : x.runFrom s with ⟨_ | a, s'⟩
  · rw [runFrom_bind_error h]
    simpa [h] using hx
  · rw [runFrom_bind_ok h]
    exact trans_of R (by simpa [h] using hx) (hf a s')

theorem keeps_bind {x : Effect σ α} {f : α → Effect σ β} (hx : Keeps R x)
    (hf : ∀ a, Keeps R (f a)) : Keeps R (x >>= f) :=
  fun s => keeps_bind_at (hx s) hf

theorem keeps_ite_set_bind {s t : σ} {c : Prop} [Decidable c] {e : Effect σ β} (ht : R s t)
    (he : Keeps R e) : R s ((if c then (set t >>= fun _ => e) else e).runFrom s).2 := by
  split
  · exact keeps_bind_at (by simpa using ht) fun _ => he
  · exact he s

theorem keeps_forM {xs : List α} {f : α → Effect σ PUnit} (h : ∀ x ∈ xs, Keeps R (f x)) :
    Keeps R (xs.forM f) := by
  induction xs with
  | nil => exact keeps_pure _
  | cons x xs ih =>
    simp only [List.forM]
    exact keeps_bind (h x List.mem_cons_self) fun _ =>
      ih fun y hy => h y (List.mem_cons_of_mem x hy)

end Keeps

end Effect

namespace Recorder

open Effect

/-- `p'` has a log open exactly when `p` has. -/
def SameLog (p p' : Recorder × Disk) : Prop := p'.1.isOpen = p.1.isOpen

instance : IsPreorder (Recorder × Disk) SameLog where
  refl _ := rfl
  trans _ _ _ h₁ h₂ := h₂.trans h₁

theorem writeEntry_keeps (entry : Json) : Keeps SameLog (writeEntry entry) := by
  apply keeps_get_bind
  intro p
  obtain ⟨r, d⟩ := p
  dsimp only
  split
  · cases d.append _ _ <;> rfl
  · rfl

theorem logEvent_keeps (time : Float) (eventType data : Json) :
    Keeps SameLog (logEvent time eventType data) := by
  unfold logEvent
  apply keeps_get_bind
  intro p
  dsimp only
  split
  · rfl
  · refine keeps_bind (writeEntry_keeps _) (fun _ => keeps_modify fun _ => ?_) p
    rfl

theorem logPulse_keeps (time : Float) (tracker timecode sensor length : Json) :
    Keeps SameLog (logPulse time tracker timecode sensor length) := by
  unfold logPulse
  apply keeps_get_bind
  intro p
  dsimp only
  split
  · rfl
  · refine (keeps_bind (keeps_ofOutcome _) fun _ => keeps_bind (keeps_ofOutcome _) fun _ =>
      keeps_bind (keeps_ofOutcome _) fun _ => keeps_bind (writeEntry_keeps _) fun _ =>
      keeps_modify fun _ => ?_) p
    rfl

end Recorder

/-- A light as the gates of a session leave it: without its pulses beyond the angle `maxAngle` or
shorter than `minDuration`. -/
def Light.gate (l : Light) (maxAngle minDuration : Float) : Light :=
  { l with pulses := l.pulses.filter fun p => !(p.angle > maxAngle || p.duration < minDuration) }

namespace Session

open Effect

/-- Whether the session's recorder has a log open. -/
def logging (s : Session) : Bool := s.recorder.any (·.isRecording)

/-- `s'` has the configuration, the lighthouse transforms and the open or closed log of `s`, and
its disk too unless a log is open. -/
structure Quiet (s s' : Session) : Prop where
  config : s'.config = s.config
  transforms : s'.transformVectors = s.transformVectors
  logging : s'.logging = s.logging
  disk : s.logging = false → s'.disk = s.disk

/-- `s'` is `s` up to what a session keeps for its own account (devices, table, journal,
publications, poses, trackers): it is `Quiet` and has the store, the count of accepted lights and
the lighthouses of `s`. -/
structure Aside (s s' : Session) : Prop extends Quiet s s' where
  store : s'.store = s.store
  accepted : s'.lightsAccepted = s.lightsAccepted
  lighthouses : s'.lighthouses = s.lighthouses

/-- `s'` is `Quiet` from `s`, records as `s` does, and holds the measurements of `s` followed by
new ones, as many as the lights it accepted since, and none if `s` was idle. -/
structure Grows (s s' : Session) : Prop extends Quiet s s' where
  recording : s'.store.recording = s.store.recording
  stored : ∃ added : List Measurement, s'.store.items = s.store.items ++ added ∧
    s'.lightsAccepted = s.lightsAccepted + added.length ∧ (s.store.recording = false → added = [])

section Relations

variable {a b c : Session}

theorem Quiet.refl (s : Session) : Quiet s s := ⟨rfl, rfl, rfl, fun _ => rfl⟩

theorem Quiet.trans (h₁ : Quiet a b) (h₂ : Quiet b c) : Quiet a c where
  config := h₂.config.trans h₁.config
  transforms := h₂.transforms.trans h₁.transforms
  logging := h₂.logging.trans h₁.logging
  disk ha := (h₂.disk (h₁.logging.trans ha)).trans (h₁.disk ha)

instance : IsPreorder Session Quiet where
  refl := Quiet.refl
  trans _ _ _ := Quiet.trans

instance : IsPreorder Session Aside where
  refl s := ⟨Quiet.refl s, rfl, rfl, rfl⟩
  trans _ _ _ h₁ h₂ := ⟨h₁.toQuiet.trans h₂.toQuiet, h₂.store.trans h₁.store,
    h₂.accepted.trans h₁.accepted, h₂.lighthouses.trans h₁.lighthouses⟩

theorem Grows.trans (h₁ : Grows a b) (h₂ : Grows b c) : Grows a c := by
  obtain ⟨added₁, hitems₁, hcount₁, hidle₁⟩ := h₁.stored
  obtain ⟨added₂, hitems₂, hcount₂, hidle₂⟩ := h₂.stored
  refine ⟨h₁.toQuiet.trans h₂.toQuiet, h₂.recording.trans h₁.recording,
    added₁ ++ added₂, ?_, ?_, fun ha => ?_⟩
  · rw [hitems₂, hitems₁, List.append_assoc]
  · rw [hcount₂, hcount₁, List.length_append, Nat.add_assoc]
  · rw [hidle₁ ha, hidle₂ (h₁.recording.trans ha), List.append_nil]

instance : IsPreorder Session Grows where
  refl s := ⟨Quiet.refl s, rfl, [], by simp, by simp, fun _ => rfl⟩
  trans _ _ _ := Grows.trans

theorem Aside.grows (h : Aside a b) : Grows a b :=
  ⟨h.toQuiet, by rw [h.store], [], by simp [h.store], by simp [h.accepted], fun _ => rfl⟩

theorem Aside.of_eq (hc : b.config = a.config) (hs : b.store = a.store)
    (ha : b.lightsAccepted = a.lightsAccepted) (hl : b.lighthouses = a.lighthouses)
    (hr : b.recorder = a.recorder) (hd : b.disk = a.disk) : Aside a b :=
  ⟨⟨hc, by rw [transformVectors, hl, transformVectors], by rw [logging, hr, logging],
    fun _ => hd⟩, hs, ha, hl⟩

theorem Grows.of_eq (hc : b.config = a.config) (hs : b.store = a.store)
    (ha : b.lightsAccepted = a.lightsAccepted) (ht : b.transformVectors = a.transformVectors)
    (hr : b.recorder = a.recorder) (hd : b.disk = a.disk) : Grows a b :=
  ⟨⟨hc, ht, by rw [logging, hr, logging], fun _ => hd⟩, by rw [hs], [], by simp [hs],
    by simp [ha], fun _ => rfl⟩

end Relations

/-! ### The operations of a session -/

section Operations

variable {s : Session}

theorem note_aside (s : Session) (e : JournalEntry) : Aside s (s.note e) :=
  Aside.of_eq rfl rfl rfl rfl rfl rfl

theorem publish_aside (s : Session) (p : Publication) : Aside s (s.publish p) := by
  unfold publish
  split <;> exact Aside.of_eq rfl rfl rfl rfl rfl rfl

section Publish

variable (s : Session) (p : Publication)

@[simp] theorem publish_config : (s.publish p).config = s.config := by unfold publish; split <;> rfl

@[simp] theorem publish_store : (s.publish p).store = s.store := by unfold publish; split <;> rfl

@[simp] theorem publish_lightsAccepted : (s.publish p).lightsAccepted = s.lightsAccepted := by
  unfold publish; split <;> rfl

@[simp] theorem publish_lighthouses : (s.publish p).lighthouses = s.lighthouses := by
  unfold publish; split <;> rfl

@[simp] theorem publish_recorder : (s.publish p).recorder = s.recorder := by
  unfold publish; split <;> rfl

@[simp] theorem publish_disk : (s.publish p).disk = s.disk := by unfold publish; split <;> rfl

end Publish

theorem transformVectors_map {f : LighthouseState → LighthouseState}
    (hf : ∀ lh, (f lh).serial = lh.serial ∧ (f lh).transform = lh.transform) (s : Session) :
    transformVectors { s with lighthouses := s.lighthouses.map f } = s.transformVectors := by
  simp only [transformVectors, List.map_map]
  refine List.map_congr_left fun lh _ => ?_
  simp [(hf lh).1, (hf lh).2]

theorem onLighthouse_grows (s : Session) (record : Calibration) :
    Grows s (s.onLighthouse record) := by
  unfold onLighthouse
  split
  · exact (note_aside s _).grows
  · -- the records of a configured lighthouse are set, its transform is not
    have hf : ∀ lh : LighthouseState, (if lh.serial == record.serial then
        { lh with calibration := some record, ready := true } else lh).serial = lh.serial ∧
        (if lh.serial == record.serial then
        { lh with calibration := some record, ready := true } else lh).transform = lh.transform :=
      fun lh => by split <;> exact ⟨rfl, rfl⟩
    split
    · exact Grows.of_eq rfl rfl rfl (transformVectors_map hf _) rfl rfl
    · exact Grows.of_eq rfl rfl rfl (transformVectors_map hf _) rfl rfl

theorem updateTracker_aside (s : Session) (serial : String) (f : TrackerState → TrackerState) :
    Aside s (s.updateTracker serial f) :=
  Aside.of_eq rfl rfl rfl rfl rfl rfl

theorem putDevice_keeps (d : Device) : Keeps Aside (putDevice d) :=
  keeps_modify fun s => by
    split <;> exact Aside.of_eq rfl rfl rfl rfl rfl rfl

theorem withRecorder_aside {α : Type} {r : Recorder} {e : Effect (Recorder × Disk) α}
    (he : Keeps Recorder.SameLog e) (hs : s.recorder = some r) (hr : r.isRecording = true) :
    Aside s ((withRecorder r e).runFrom s).2 := by
  have hlog : s.logging = true := by simp [logging, hs, hr]
  have hopen := he (r, s.disk)
  unfold withRecorder
  simp only [runFrom_bind, runFrom_get]
  rcases hrun : e.runFrom (r, s.disk) with ⟨res, r', d'⟩
  rw [hrun] at hopen
  simp only [runFrom_set, runFrom_ofOutcome]
  refine ⟨⟨rfl, rfl, ?_, fun h => absurd (h.symm.trans hlog) (by simp)⟩, rfl, rfl, rfl⟩
  rw [hlog]
  simp only [logging, Option.any_some]
  exact hopen.trans hr

theorem Keeps.grows {α : Type} {e : Effect Session α} (h : Keeps Aside e) : Keeps Grows e :=
  h.mono fun _ _ hs => hs.grows

theorem recordEvent_keeps (eventType : String) (data : Json) :
    Keeps Aside (recordEvent eventType data) := by
  apply keeps_get_bind
  intro s
  split
  · split
    · exact withRecorder_aside (Recorder.logEvent_keeps _ _ _) ‹_› ‹_›
    · exact refl_of Aside s
  · exact refl_of Aside s

theorem onLight_cases (l : Light) (s : Session) :
    (((onLight l).runFrom s).2 = { s with lightsReceived := s.lightsReceived + 1 } ∧
        ((onLight l).runFrom s).1 ≠ .ok true) ∨
      ∃ maxAngle minDuration : Float, s.store.recording = true ∧
        s.config.thresholds.angleRad = .ok maxAngle ∧
        s.config.thresholds.durationS = .ok minDuration ∧
        (onLight l).runFrom s = (.ok true, { s with
          lightsReceived := s.lightsReceived + 1
          store := { s.store with items := s.store.items ++ [⟨s.clock, l.gate maxAngle minDuration⟩] }
          lightsAccepted := s.lightsAccepted + 1 }) := by
  unfold onLight
  simp only [runFrom_bind, runFrom_modify, runFrom_get]
  rcases hrec : s.store.recording with _ | _
  · left
    simp
  simp only [Bool.not_true, Bool.false_eq_true, ↓reduceIte]
  rcases htr : s.trackers.find? (·.serial == l.tracker) with _ | tracker
  · left
    simp [htr]
  rcases hlh : s.lighthouses.find? (·.serial == l.lighthouse) with _ | lh
  · left
    simp [htr, hlh]
  simp only [htr, hlh]
  by_cases hready : (!tracker.ready || !lh.ready) = true
  · left
    simp [hready]
  simp only [hready, Bool.false_eq_true, ↓reduceIte]
  rcases ha : s.config.thresholds.angleRad with f | maxAngle
  · left
    simp [runFrom_bind]
  rcases hd : s.config.thresholds.durationS with f | minDuration
  · left
    simp [runFrom_bind]
  simp only [runFrom_bind, runFrom_ofOutcome]
  rcases hb : belowCount s.config.thresholds.count (l.gate maxAngle minDuration).pulses.length with
    f | below
  all_goals simp only [Light.gate] at hb
  · left
    simp only [hb]
    simp
  cases below
  · -- every gate passed: the gated light is stored
    right
    refine ⟨maxAngle, minDuration, trivial, rfl, rfl, ?_⟩
    simp only [hb, Bool.false_eq_true, ↓reduceIte, runFrom_bind, runFrom_set, runFrom_pure,
      Store.add, hrec, Light.gate]
  · left
    simp only [hb]
    simp

theorem onLight_keeps (l : Light) : Keeps Grows (onLight l) := by
  intro s
  rcases onLight_cases l s with ⟨hs, -⟩ | ⟨maxAngle, minDuration, hrec, -, -, hrun⟩
  · rw [hs]
    exact Grows.of_eq rfl rfl rfl rfl rfl rfl
  · -- one measurement more, and one light more accepted
    rw [hrun]
    exact ⟨⟨rfl, rfl, rfl, fun _ => rfl⟩, rfl, [_], rfl, rfl,
      fun h => absurd (hrec.symm.trans h) (by simp)⟩

theorem feedDevice_keeps (tracker : String) (timecode sensor length : Int) :
    Keeps Grows (feedDevice tracker timecode sensor length) := by
  apply keeps_get_bind
  intro s
  dsimp only
  refine keeps_ite_set_bind (note_aside s _).grows ?_
  -- whatever state it starts from, the device's course keeps the session growing
  refine keeps_bind (Keeps.grows (putDevice_keeps _)) fun _ => keeps_bind (keeps_forM fun x _ => ?_)
    fun _ => keeps_bind (Keeps.grows (putDevice_keeps _)) fun _ =>
      keeps_bind (keeps_modify fun s => Grows.of_eq rfl rfl rfl rfl rfl rfl) fun _ => ?_
  · obtain ⟨d, table, e⟩ := x
    refine keeps_bind (Keeps.grows (putDevice_keeps _)) fun _ =>
      keeps_bind (keeps_modify fun s => Grows.of_eq rfl rfl rfl rfl rfl rfl) fun _ => ?_
    cases e with
    | light l => exact keeps_discard (onLight_keeps l)
    | lighthouse slot r =>
      exact keeps_bind (keeps_modify fun s => (note_aside s _).grows) fun _ =>
        keeps_modify fun s => onLighthouse_grows s r
  · split
    · exact keeps_throw _
    · exact keeps_pure _

theorem processPulse_keeps (tracker : String) (timecode sensor length : Int) :
    Keeps Grows (processPulse tracker timecode sensor length) := by
  apply keeps_get_bind
  intro s
  dsimp only
  split
  · split
    · -- the pulse goes to the open log first
      exact keeps_bind_at (withRecorder_aside (Recorder.logPulse_keeps _ _ _ _ _) ‹_› ‹_›).grows
        fun _ => feedDevice_keeps _ _ _ _
    · exact feedDevice_keeps _ _ _ _ s
  · exact feedDevice_keeps _ _ _ _ s

theorem setTrackerSensors_keeps (serial : String) (sensors : NumArray) :
    Keeps Aside (setTrackerSensors serial sensors) := by
  apply keeps_get_bind
  intro s
  dsimp only
  split
  · rw [runFrom_bind_error (runFrom_throw _ _)]
    exact refl_of Aside s
  · split
    · -- a table with no shape is stored, and then refused
      rw [runFrom_bind_ok (runFrom_set _ _), runFrom_bind_error (runFrom_throw _ _)]
      exact updateTracker_aside s _ _
    · rw [runFrom_bind_ok (runFrom_pure _ _), runFrom_set]
      exact updateTracker_aside s _ _

theorem onLight_store (l : Light) (s : Session) :
    (((onLight l).runFrom s).1 = .ok true → ∃ maxAngle minDuration : Float,
        s.config.thresholds.angleRad = .ok maxAngle ∧
        s.config.thresholds.durationS = .ok minDuration ∧
        ((onLight l).runFrom s).2.store.items =
          s.store.items ++ [⟨s.clock, l.gate maxAngle minDuration⟩]) ∧
      (((onLight l).runFrom s).1 ≠ .ok true → ((onLight l).runFrom s).2.store = s.store) := by
  rcases onLight_cases l s with ⟨hs, hr⟩ | ⟨maxAngle, minDuration, -, ha, hd, hrun⟩
  · exact ⟨fun h => absurd h hr, fun _ => by rw [hs]⟩
  · rw [hrun]
    exact ⟨fun _ => ⟨maxAngle, minDuration, ha, hd, rfl⟩, fun h => absurd rfl h⟩

end Operations

/-! ### Inputs between triggers -/

/-- What a session is given between triggers: a raw pulse of a tracker, a light, a lighthouse's
calibration record, or a tracker's sensor table. -/
inductive Input where
  | pulse (tracker : String) (timecode sensor length : Int)
  | light (l : Light)
  | lighthouse (record : Calibration)
  | sensors (serial : String) (table : NumArray)

def Input.take : Input → Effect Session Unit
  | .pulse tracker timecode sensor length => processPulse tracker timecode sensor length
  | .light l => discard (onLight l)
  | .lighthouse record => modify (·.onLighthouse record)
  | .sensors serial table => setTrackerSensors serial table

/-- The session after taking inputs in turn. An input that fails leaves the session where it
failed, and the next one goes on from there. -/
def takeAll (s : Session) (inputs : List Input) : Session :=
  inputs.foldl (fun s i => (i.take.runFrom s).2) s

theorem take_keeps (i : Input) : Keeps Grows i.take := by
  cases i with
  | pulse tracker timecode sensor length => exact processPulse_keeps tracker timecode sensor length
  | light l => exact keeps_discard (onLight_keeps l)
  | lighthouse record => exact keeps_modify fun s => onLighthouse_grows s record
  | sensors serial table => exact Keeps.grows (setTrackerSensors_keeps serial table)

/-- Whatever inputs a session takes between triggers, it grows. -/
theorem grows_takeAll (s : Session) (inputs : List Input) : Grows s (s.takeAll inputs) := by
  induction inputs generalizing s with
  | nil => exact refl_of Grows s
  | cons i inputs ih => exact trans_of Grows (take_keeps i s) (ih _)

end Session

end Lighthouse
