import Lighthouse.Proofs.Session.Frame
/-!
# The trigger

The trigger toggles recording. Pressed while idle it empties the store and starts recording, or,
when only a stop is asked, answers that nothing is recording and changes nothing. Pressed while
recording it stops: with nothing stored it says so, and otherwise it hands `solve` exactly the
measurements in the store. Between triggers the store only grows (`grows_takeAll`), so these are
the lights accepted since recording started, in the order they came.

A solve changes the lighthouse transforms and the calibration file only once its registration
is usable, and it then sets the first lighthouse's transform to zero. Writing the calibration
may fail for a reason that is no operating-system error, such as a file name with no last part;
such a failure is not caught, so the trigger fails after the new transforms were set.
-/
namespace Lighthouse

theorem Disk.append_ok {d : Disk} {path : String} {names : List String}
    (h : d.target path = .ok names) (text : String) : ∃ d', d.append path text = .ok d' := by
  unfold Disk.append
  rw [h]
  simp only [bind, Except.bind]
  split <;> exact ⟨_, rfl⟩

namespace Session

open Effect

/-! ### Logging the trigger's event -/

section Logging

variable {s : Session}

/-- The session can log an event: when its recorder has a log open, the log's file can be
written. -/
def CanLog (s : Session) : Prop :=
  ∀ r path, s.recorder = some r → r.isRecording = true → r.current = some path →
    ∃ names, s.disk.target path = .ok names

theorem CanLog.of_eq {s' : Session} (h : s.CanLog) (hr : s'.recorder = s.recorder)
    (hd : s'.disk = s.disk) : s'.CanLog := by
  intro r path
  rw [hr, hd]
  exact h r path

theorem logEvent_ok {r : Recorder} {d : Disk} (hr : r.isRecording = true)
    (hpath : ∀ path, r.current = some path → ∃ names, d.target path = .ok names)
    (time : Float) (eventType data : Json) :
    ((Recorder.logEvent time eventType data).runFrom (r, d)).1 = .ok () := by
  unfold Recorder.logEvent Recorder.writeEntry
  simp only [runFrom_bind, runFrom_get, hr, Bool.not_true, Bool.false_eq_true, ↓reduceIte]
  have hopen : r.isOpen = true := hr
  rcases hc : r.current with _ | path
  · simp [hc]
  · obtain ⟨names, hnames⟩ := hpath path hc
    obtain ⟨d', hd'⟩ := Disk.append_ok hnames (Json.render (.obj [("_type", .str "event"),
      ("event_type", eventType), ("time", .float time), ("data", data)]) ++ "\n")
    simp [hc, hopen, hd', runFrom_bind]

theorem recordEvent_ok (h : s.CanLog) (eventType : String) (data : Json) :
    ((recordEvent eventType data).runFrom s).1 = .ok () := by
  unfold recordEvent
  simp only [runFrom_bind, runFrom_get]
  split
  · rename_i r hr
    split
    · rename_i hrec
      unfold withRecorder
      have hlog := logEvent_ok hrec (fun path hc => h r path hr hrec hc) s.clock (.str eventType) data
      simp only [runFrom_bind, runFrom_get]
      rcases hrun : (Recorder.logEvent s.clock (.str eventType) data).runFrom (r, s.disk) with
        ⟨res, r', d'⟩
      rw [hrun] at hlog
      simp [hlog]
    · rfl
  · rfl

/-- What a trigger does once it has its answer: it notes the message and logs the event. -/
def answer (ok : Bool) (msg : String) : Effect Session (Bool × String) := do
  modify fun x => x.note (Journal.info Journal.sessionSource msg)
  recordEvent "trigger" (.obj [("success", .bool ok), ("message", .str msg)])
  pure (ok, msg)

theorem answer_keeps (ok : Bool) (msg : String) : Keeps Aside (answer ok msg) :=
  keeps_bind (keeps_modify fun x => note_aside x _) fun _ =>
    keeps_bind (recordEvent_keeps _ _) fun _ => keeps_pure _

theorem answer_ok (h : s.CanLog) (ok : Bool) (msg : String) :
    ((answer ok msg).runFrom s).1 = .ok (ok, msg) := by
  have hlog := recordEvent_ok (h.of_eq rfl rfl :
    (s.note (Journal.info Journal.sessionSource msg)).CanLog) "trigger"
    (.obj [("success", .bool ok), ("message", .str msg)])
  unfold answer
  rw [runFrom_bind_ok (runFrom_modify _ s)]
  rcases hrun : (recordEvent "trigger" (.obj [("success", .bool ok), ("message", .str msg)])).runFrom
    (s.note (Journal.info Journal.sessionSource msg)) with ⟨res, s'⟩
  obtain rfl : res = .ok () := by rw [hrun] at hlog; exact hlog
  rw [runFrom_bind, hrun]
  rfl

theorem answer_result (ok : Bool) (msg : String) (s : Session) :
    ((answer ok msg).runFrom s).1 = .ok (ok, msg) ∨ ∃ f, ((answer ok msg).runFrom s).1 = .error f := by
  unfold answer
  rw [runFrom_bind_ok (runFrom_modify _ s)]
  rcases hrun : (recordEvent "trigger" (.obj [("success", .bool ok), ("message", .str msg)])).runFrom
    (s.note (Journal.info Journal.sessionSource msg)) with ⟨_ | _, s'⟩
  · rw [runFrom_bind_error hrun]
    exact .inr ⟨_, rfl⟩
  · rw [runFrom_bind_ok hrun]
    exact .inl rfl

theorem answer_after (e : Effect Session Bool) (msg : Bool → String) (s : Session) :
    Aside (e.runFrom s).2 ((e >>= fun ok => answer ok (msg ok)).runFrom s).2 ∧
      (((e >>= fun ok => answer ok (msg ok)).runFrom s).1 = (e.runFrom s).1.map (fun ok => (ok, msg ok)) ∨
        ∃ f, ((e >>= fun ok => answer ok (msg ok)).runFrom s).1 = .error f) := by
  rcases h : e.runFrom s with ⟨_ | ok, s₁⟩
  · rw [runFrom_bind_error h]
    exact ⟨refl_of Aside s₁, .inl rfl⟩
  · rw [runFrom_bind_ok h]
    exact ⟨answer_keeps ok (msg ok) s₁, answer_result ok (msg ok) s₁⟩

end Logging

/-! ### Adopting a registration -/

/-- `s'` is `Aside` from `s` but for its disk: it has the configuration, the open or closed log,
the store, the count of accepted lights and the lighthouses of `s`. -/
structure Steady (s s' : Session) : Prop where
  config : s'.config = s.config
  logging : s'.logging = s.logging
  store : s'.store = s.store
  accepted : s'.lightsAccepted = s.lightsAccepted
  lighthouses : s'.lighthouses = s.lighthouses

instance : IsPreorder Session Steady where
  refl _ := ⟨rfl, rfl, rfl, rfl, rfl⟩
  trans _ _ _ h₁ h₂ := ⟨h₂.config.trans h₁.config, h₂.logging.trans h₁.logging,
    h₂.store.trans h₁.store, h₂.accepted.trans h₁.accepted, h₂.lighthouses.trans h₁.lighthouses⟩

theorem Aside.steady {a b : Session} (h : Aside a b) : Steady a b :=
  ⟨h.config, h.logging, h.store, h.accepted, h.lighthouses⟩

theorem Transform.toList_of_ofList {xs : List Float} {t : Transform} (h : Transform.ofList xs = .ok t) :
    t.toList = xs.take 6 := by
  unfold Transform.ofList at h
  split at h
  · cases h
    rfl
  · cases h

section Install

variable {solved : List (String × List Float)}

theorem install_serial {lh lh' : LighthouseState} (h : install solved lh = .ok lh') :
    lh'.serial = lh.serial := by
  unfold install at h
  split at h
  · obtain ⟨t, -, h⟩ := Outcome.bind_eq_ok h
    cases h
    rfl
  · cases h
    rfl

theorem install_first {v : List Float} {rest : List (String × List Float)} {lh lh' : LighthouseState}
    (h : install ((lh.serial, v) :: rest) lh = .ok lh') : lh'.transform.toList = v.take 6 := by
  unfold install at h
  rw [List.find?_cons_of_pos (by simp)] at h
  obtain ⟨t, ht, h⟩ := Outcome.bind_eq_ok h
  cases h
  exact Transform.toList_of_ofList ht

theorem head_installed {lh : LighthouseState} {lhs lhs' : List LighthouseState} {v : List Float}
    {rest : List (String × List Float)} (h : (lh :: lhs).mapM (install ((lh.serial, v) :: rest)) = .ok lhs') :
    (lhs'.map fun lh => (lh.serial, lh.transform.toList)).head? = some (lh.serial, v.take 6) := by
  rw [List.mapM_cons] at h
  obtain ⟨lh', hlh, h⟩ := Outcome.bind_eq_ok h
  obtain ⟨_, -, h⟩ := Outcome.bind_eq_ok h
  cases h
  rw [List.map_cons, List.head?_cons, install_serial hlh, install_first hlh]

theorem installAll_ok {s : Session} {lhs : List LighthouseState}
    (h : s.lighthouses.mapM (install solved) = .ok lhs) :
    (installAll solved).runFrom s = (.ok (), { s with lighthouses := lhs }) := by
  unfold installAll
  rw [runFrom_get_bind, runFrom_bind_ok (by rw [runFrom_ofOutcome, h]), runFrom_set]

theorem installAll_error {s : Session} {f : Fault} (h : s.lighthouses.mapM (install solved) = .error f) :
    (installAll solved).runFrom s = (.error f, s) := by
  unfold installAll
  rw [runFrom_get_bind, runFrom_bind_error (by rw [runFrom_ofOutcome, h])]

end Install

theorem writeCalibration_steady (data : SiteCalibration) : Keeps Steady (writeCalibration data) := by
  unfold writeCalibration
  refine keeps_get_bind fun s => ?_
  dsimp only
  rcases (data.write s.config.calfile).runFrom s.disk with ⟨written, disk⟩
  dsimp only
  refine keeps_bind_at (⟨rfl, rfl, rfl, rfl, rfl⟩ : Steady s { s with disk }) fun _ => ?_
  cases written with
  | error f =>
    dsimp only
    split
    · exact keeps_bind (keeps_throw f) fun _ => keeps_modify fun x => (note_aside x _).steady
    · exact keeps_modify fun x => (note_aside x _).steady
  | ok _ => exact keeps_modify fun x => (trans_of Aside (note_aside x _) (note_aside _ _)).steady

theorem adopt_cases (poses : PoseTable) (solved : List (String × List Float)) (s : Session) :
    (∃ f, (adopt poses solved).runFrom s = (.error f, s)) ∨
      ∃ lhs, s.lighthouses.mapM (install solved) = .ok lhs ∧
        Steady { s with lighthouses := lhs } ((adopt poses solved).runFrom s).2 := by
  unfold adopt
  rcases hm : s.lighthouses.mapM (install solved) with f | lhs
  · exact .inl ⟨f, runFrom_bind_error (installAll_error hm)⟩
  · refine .inr ⟨lhs, rfl, ?_⟩
    rw [runFrom_bind_ok (installAll_ok hm)]
    exact keeps_get_bind (fun x => keeps_bind (keeps_modify fun y => (publish_aside y _).steady)
      (fun _ => keeps_bind (writeCalibration_steady _) fun _ => keeps_bind (keeps_ofOutcome _)
        fun _ => keeps_modify fun y => (publish_aside y _).steady) x) _

/-! ### What a solve does -/

section Solve

theorem register_usable {ts : List (String × List Float)} {poses : PoseTable} {o : SolverOptions}
    {lossScale : Option Float} {summary : Summary} {solved : List (String × List Float)}
    {notes : Journal} (h : register ts poses o lossScale = .ok (summary, solved, notes))
    (hu : summary.usable = true) :
    ∃ master t rest, ts = (master, t) :: rest ∧ solved = (master, List.replicate 6 0.0) ::
      solved.tail := by
  unfold register at h
  rcases ts with _ | ⟨⟨master, t⟩, rest⟩
  · -- no lighthouses: the summary is a failure
    simp only [pure, Except.pure, Except.ok.injEq, Prod.mk.injEq] at h
    rw [← h.1] at hu
    simp [Summary.usable] at hu
  · refine ⟨master, t, rest, rfl, ?_⟩
    obtain ⟨p, -, h⟩ := Outcome.bind_eq_ok h
    split at h
    · -- no pair of lighthouses saw a pose in common: a failure again
      simp only [pure, Except.pure, Except.ok.injEq, Prod.mk.injEq] at h
      rw [← h.1] at hu
      simp [Summary.usable] at hu
    · obtain ⟨⟨summary', p'⟩, -, h⟩ := Outcome.bind_eq_ok h
      dsimp only at h
      split at h
      · rename_i hnot
        simp only [pure, Except.pure, Except.ok.injEq, Prod.mk.injEq] at h
        rw [h.1, hu] at hnot
        simp at hnot
      · simp only [pure, Except.pure, Except.ok.injEq, Prod.mk.injEq] at h
        rw [← h.2.1]
        rfl

theorem estimateAndRegister_keeps (ms : List Measurement) : Keeps Aside (estimateAndRegister ms) := by
  unfold estimateAndRegister
  refine keeps_bind (keeps_modify fun s => trans_of Aside (note_aside s _) (note_aside _ _))
    fun _ => keeps_get_bind fun s => ?_
  refine keeps_bind_at (keeps_ofOutcome _ s) fun bundle => ?_
  refine keeps_bind (keeps_modify fun x => note_aside x _) fun _ => ?_
  refine keeps_bind (keeps_ofOutcome _) fun estimated => ?_
  obtain ⟨estimator, poses⟩ := estimated
  dsimp only
  refine keeps_bind (keeps_modify fun x => Aside.of_eq rfl rfl rfl rfl rfl rfl) fun _ => ?_
  refine keeps_bind (keeps_ofOutcome _) fun registered => ?_
  obtain ⟨summary, solved, notes⟩ := registered
  exact keeps_bind (keeps_modify fun x => Aside.of_eq rfl rfl rfl rfl rfl rfl) fun _ =>
    keeps_bind (recordEvent_keeps _ _) fun _ => keeps_pure _

theorem estimateAndRegister_registers {ms : List Measurement} {s s' : Session} {poses : PoseTable}
    {summary : Summary} {solved : List (String × List Float)}
    (h : (estimateAndRegister ms).runFrom s = (.ok (poses, summary, solved), s')) :
    ∃ notes, register s.transformVectors poses s.config.solver.toOptions (some 1.0) =
      .ok (summary, solved, notes) := by
  unfold estimateAndRegister at h
  -- the journal notes, the bundle and the poses come first, and keep the transforms
  obtain ⟨_, s₁, h₁, h⟩ := runFrom_bind_eq_ok h
  obtain ⟨s₂, _, h₂, h⟩ := runFrom_bind_eq_ok h
  obtain ⟨_, _, -, h⟩ := runFrom_bind_eq_ok h
  obtain ⟨_, _, -, h⟩ := runFrom_bind_eq_ok h
  obtain ⟨⟨estimator, poses'⟩, _, hest, h⟩ := runFrom_bind_eq_ok h
  obtain ⟨_, _, -, h⟩ := runFrom_bind_eq_ok h
  obtain ⟨⟨summary', solved', notes⟩, _, hreg, h⟩ := runFrom_bind_eq_ok h
  obtain ⟨_, _, -, h⟩ := runFrom_bind_eq_ok h
  obtain ⟨_, _, -, h⟩ := runFrom_bind_eq_ok h
  simp only [runFrom_modify, runFrom_get, runFrom_ofOutcome, runFrom_pure, Prod.mk.injEq,
    Except.ok.injEq] at h₁ h₂ hest hreg h
  obtain ⟨⟨rfl, rfl, rfl⟩, -⟩ := h
  rw [← h₂.1, ← h₁.2] at hreg
  exact ⟨notes, hreg.1⟩

theorem solve_cases (ms : List Measurement) (s : Session) :
    (Aside s ((solve ms).runFrom s).2 ∧ ((solve ms).runFrom s).1 ≠ .ok true) ∨
      ∃ poses summary solved notes lhs,
        register s.transformVectors poses s.config.solver.toOptions (some 1.0) =
          .ok (summary, solved, notes) ∧ summary.usable = true ∧
        s.lighthouses.mapM (install solved) = .ok lhs ∧
        Steady { s with lighthouses := lhs } ((solve ms).runFrom s).2 ∧
        ((solve ms).runFrom s).1 ≠ .ok false := by
  unfold solve
  have hkeep := estimateAndRegister_keeps ms s
  rcases hE : (estimateAndRegister ms).runFrom s with ⟨_ | ⟨poses, summary, solved⟩, s₁⟩
  · -- the poses or the registration could not be found
    rw [hE] at hkeep
    rw [runFrom_bind_error hE]
    exact .inl ⟨hkeep, by simp⟩
  · rw [hE] at hkeep
    rw [runFrom_bind_ok hE]
    dsimp only
    cases hu : summary.usable
    · simp only [Bool.not_false, ↓reduceIte, runFrom_pure]
      exact .inl ⟨hkeep, by simp⟩
    · simp only [Bool.not_true, Bool.false_eq_true, ↓reduceIte]
      obtain ⟨notes, hreg⟩ := estimateAndRegister_registers hE
      rcases adopt_cases poses solved s₁ with ⟨f, hf⟩ | ⟨lhs, hm, hst⟩
      · rw [runFrom_bind_error hf]
        exact .inl ⟨hkeep, by simp⟩
      · -- the new transforms are in place; only the disk changed besides
        have hs : Steady { s with lighthouses := lhs } { s₁ with lighthouses := lhs } :=
          ⟨hkeep.config, hkeep.logging, hkeep.store, hkeep.accepted, rfl⟩
        rw [hkeep.lighthouses] at hm
        rcases hrun : (adopt poses solved).runFrom s₁ with ⟨_ | _, s₂⟩
        · rw [hrun] at hst
          rw [runFrom_bind_error hrun]
          exact .inr ⟨poses, summary, solved, notes, lhs, hreg, hu, hm, trans_of Steady hs hst,
            by simp⟩
        · rw [hrun] at hst
          rw [runFrom_bind_ok hrun]
          exact .inr ⟨poses, summary, solved, notes, lhs, hreg, hu, hm, trans_of Steady hs hst,
            by simp⟩

end Solve

/-! ### What a trigger does -/

section Trigger

variable {s : Session}

theorem trigger_stop_idle (h : s.store.recording = false) :
    (trigger true).runFrom s = (.ok (false, msgNotRecording), s) := by
  unfold trigger
  simp [runFrom_bind, h]

theorem trigger_idle (h : s.store.recording = false) :
    (trigger false).runFrom s = (answer true msgStarted).runFrom { s with store := s.store.start } := by
  unfold trigger
  simp only [runFrom_bind, runFrom_get, h]
  rfl

theorem trigger_recording (h : s.store.recording = true) (stopOnly : Bool) :
    (trigger stopOnly).runFrom s = (if s.store.items.isEmpty then answer false msgNoData
      else solve s.store.items >>= fun ok => answer ok (if ok then msgSolved else msgNotSolved)).runFrom
      { s with store := {} } := by
  unfold trigger
  simp only [runFrom_bind, runFrom_get, h]
  rfl

theorem quiet_with_store (s : Session) (store : Store) : Quiet s { s with store } :=
  ⟨rfl, rfl, rfl, fun _ => rfl⟩

theorem trigger_starts (h : s.store.recording = false) :
    ((trigger false).runFrom s).2.store = { recording := true, items := [] } ∧
      Quiet s ((trigger false).runFrom s).2 ∧
      (s.CanLog → ((trigger false).runFrom s).1 = .ok (true, msgStarted)) := by
  rw [trigger_idle h]
  have hA := answer_keeps true msgStarted { s with store := s.store.start }
  exact ⟨hA.store, (quiet_with_store s _).trans hA.toQuiet,
    fun hc => answer_ok (hc.of_eq rfl rfl : CanLog { s with store := s.store.start }) true msgStarted⟩

theorem solve_store (ms : List Measurement) (s : Session) :
    ((solve ms).runFrom s).2.store = s.store ∧ ((solve ms).runFrom s).2.config = s.config ∧
      ((solve ms).runFrom s).2.logging = s.logging := by
  rcases solve_cases ms s with ⟨hA, -⟩ | ⟨_, _, _, _, _, -, -, -, hst, -⟩
  · exact ⟨hA.store, hA.config, hA.logging⟩
  · exact ⟨hst.store, hst.config, hst.logging⟩

theorem trigger_stops (h : s.store.recording = true) (stopOnly : Bool) :
    ((trigger stopOnly).runFrom s).2.store = {} := by
  rw [trigger_recording h]
  split
  · exact (answer_keeps false msgNoData _).store
  · have hA := (answer_after (solve s.store.items) (fun ok => if ok then msgSolved else msgNotSolved)
      { s with store := {} }).1
    rw [hA.store]
    exact (solve_store _ _).1

theorem trigger_no_data (h : s.store.recording = true) (he : s.store.items = []) (stopOnly : Bool) :
    Quiet s ((trigger stopOnly).runFrom s).2 ∧
      (s.CanLog → ((trigger stopOnly).runFrom s).1 = .ok (false, msgNoData)) := by
  rw [trigger_recording h, he, List.isEmpty_nil, if_pos rfl]
  exact ⟨(quiet_with_store s _).trans (answer_keeps false msgNoData _).toQuiet,
    fun hc => answer_ok (hc.of_eq rfl rfl : CanLog { s with store := {} }) false msgNoData⟩

theorem installed_head {s : Session} {poses : PoseTable} {summary : Summary}
    {solved : List (String × List Float)} {notes : Journal} {lhs : List LighthouseState}
    (hreg : register s.transformVectors poses s.config.solver.toOptions (some 1.0) =
      .ok (summary, solved, notes))
    (hu : summary.usable = true) (hm : s.lighthouses.mapM (install solved) = .ok lhs) :
    (lhs.map fun lh => (lh.serial, lh.transform.toList)).head? =
      s.transformVectors.head?.map fun p => (p.1, List.replicate 6 0.0) := by
  obtain ⟨master, t, rest, hts, hsolved⟩ := register_usable hreg hu
  rcases hl : s.lighthouses with _ | ⟨lh, lhs₀⟩
  · simp [transformVectors, hl] at hts
  · have hmaster : lh.serial = master := by
      simp only [transformVectors, hl, List.map_cons, List.cons.injEq, Prod.mk.injEq] at hts
      exact hts.1.1
    rw [hl, hsolved, ← hmaster] at hm
    rw [head_installed hm, hts, List.take_replicate, hmaster]
    rfl

theorem trigger_calibration (stopOnly : Bool) (s : Session) :
    Quiet s ((trigger stopOnly).runFrom s).2 ∨
      s.store.recording = true ∧ s.store.items ≠ [] ∧
      (∃ poses summary solved notes,
        register s.transformVectors poses s.config.solver.toOptions (some 1.0) =
          .ok (summary, solved, notes) ∧ summary.usable = true) ∧
      ((trigger stopOnly).runFrom s).2.transformVectors.head? =
        s.transformVectors.head?.map (fun p => (p.1, List.replicate 6 0.0)) ∧
      (((trigger stopOnly).runFrom s).1 = .ok (true, msgSolved) ∨
        ∃ f, ((trigger stopOnly).runFrom s).1 = .error f) := by
  cases hrec : s.store.recording
  · -- idle: a stop changes nothing, a start only the store
    refine .inl ?_
    cases stopOnly
    · exact (trigger_starts hrec).2.1
    · rw [trigger_stop_idle hrec]
      exact Quiet.refl s
  · cases hitems : s.store.items with
    | nil => exact .inl (trigger_no_data hrec hitems stopOnly).1
    | cons m ms =>
      rw [trigger_recording hrec, hitems]
      simp only [List.isEmpty_cons, Bool.false_eq_true, ↓reduceIte]
      obtain ⟨hA, hres⟩ := answer_after (solve (m :: ms)) (fun ok => if ok then msgSolved else
        msgNotSolved) { s with store := {} }
      rcases solve_cases (m :: ms) { s with store := {} } with
        ⟨hQ, hne⟩ | ⟨poses, summary, solved, notes, lhs, hreg, hu, hm, hst, hne⟩
      · -- no usable registration: the transforms and the disk stay
        exact .inl (((quiet_with_store s _).trans hQ.toQuiet).trans hA.toQuiet)
      · refine .inr ⟨trivial, List.cons_ne_nil m ms, ⟨poses, summary, solved, notes, hreg, hu⟩, ?_, ?_⟩
        · rw [hA.transforms, transformVectors, hst.lighthouses]
          exact installed_head hreg hu hm
        · -- the solve succeeded or failed; the answer follows it
          rcases hres with hres | hres
          · rw [hres]
            rcases hr : ((solve (m :: ms)).runFrom { s with store := {} }).1 with f | ok
            · exact .inr ⟨f, rfl⟩
            · cases ok
              · exact absurd hr hne
              · exact .inl rfl
          · exact .inr hres

theorem loadCalibration_store {room : Nat} {s s' : Session} (h : s.loadCalibration room = .ok s') :
    s'.store = s.store := by
  unfold loadCalibration at h
  dsimp only at h
  split at h
  · split at h
    · cases h
      rfl
    · cases h
  · cases h
    rfl
  · cases h
    rfl

theorem create_store {room : Nat} {config : Config} {disk : Disk} {clock : Float}
    {recorder : Option Recorder} {publisher : Publisher} {s : Session}
    (h : create room config disk clock recorder publisher = .ok s) :
    s.store = if config.offline then { recording := true, items := [] } else {} := by
  unfold create at h
  obtain ⟨s₁, h₁, h⟩ := Outcome.bind_eq_ok h
  split at h
  · cases h
    rw [if_pos ‹_›]
    rfl
  · cases h
    rw [if_neg ‹_›, publish_store, loadCalibration_store h₁]

/-- The trigger toggles recording.
* Pressed while idle, it starts an empty recording and answers so, unless only a stop is asked:
  then it answers that nothing is recording and changes nothing. A new session starts recording
  so exactly when it is offline.
* Between triggers the store only grows at its end, one measurement for each light accepted, the
  light as the gates leave it, and by none while idle.
* Pressed while recording, it empties the store and hands `solve` exactly the measurements it held,
  in order, or answers that there were none.
* The lighthouse transforms, and the disk unless a log is open, change only in a trigger that
  stops a recording holding measurements, after a usable registration of the transforms; the
  first lighthouse's transform is then zero, and the trigger answers that it found a solution or
  fails. It fails, with the new transforms set, when writing the calibration fails for a reason
  that is no operating-system error. -/
theorem trigger_toggles_recording (s : Session) (inputs : List Input) (stopOnly : Bool) :
    (s.store.recording = false →
      (trigger true).runFrom s = (.ok (false, msgNotRecording), s) ∧
      ((trigger false).runFrom s).2.store = { recording := true, items := [] } ∧
      (s.CanLog → ((trigger false).runFrom s).1 = .ok (true, msgStarted))) ∧
    (∀ room config disk clock recorder publisher s',
      create room config disk clock recorder publisher = .ok s' →
      s'.store = if config.offline then { recording := true, items := [] } else {}) ∧
    Grows s (s.takeAll inputs) ∧
    (∀ l, ((onLight l).runFrom s).1 = .ok true → ∃ maxAngle minDuration : Float,
        ((onLight l).runFrom s).2.store.items =
          s.store.items ++ [⟨s.clock, l.gate maxAngle minDuration⟩]) ∧
    (s.store.recording = true →
      ((trigger stopOnly).runFrom s).2.store = {} ∧
      (trigger stopOnly).runFrom s = (if s.store.items.isEmpty then answer false msgNoData
        else solve s.store.items >>= fun ok => answer ok (if ok then msgSolved else msgNotSolved)).runFrom
          { s with store := {} } ∧
      (s.store.items = [] → s.CanLog → ((trigger stopOnly).runFrom s).1 = .ok (false, msgNoData))) ∧
    (Quiet s ((trigger stopOnly).runFrom s).2 ∨
      s.store.recording = true ∧ s.store.items ≠ [] ∧
      (∃ poses summary solved notes,
        register s.transformVectors poses s.config.solver.toOptions (some 1.0) =
          .ok (summary, solved, notes) ∧ summary.usable = true) ∧
      ((trigger stopOnly).runFrom s).2.transformVectors.head? =
        s.transformVectors.head?.map (fun p => (p.1, List.replicate 6 0.0)) ∧
      (((trigger stopOnly).runFrom s).1 = .ok (true, msgSolved) ∨
        ∃ f, ((trigger stopOnly).runFrom s).1 = .error f)) := by
  refine ⟨fun hidle => ⟨trigger_stop_idle hidle, (trigger_starts hidle).1, (trigger_starts hidle).2.2⟩,
    fun _ _ _ _ _ _ _ h => create_store h, grows_takeAll s inputs, fun l hl => ?_,
    fun hrec => ⟨trigger_stops hrec stopOnly, trigger_recording hrec stopOnly,
      fun he => (trigger_no_data hrec he stopOnly).2⟩, trigger_calibration stopOnly s⟩
  obtain ⟨maxAngle, minDuration, -, -, hitems⟩ := (onLight_store l s).1 hl
  exact ⟨maxAngle, minDuration, hitems⟩

end Trigger

end Session

end Lighthouse
