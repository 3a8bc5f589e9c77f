import Lighthouse.Config
import Lighthouse.Device
import Lighthouse.Pose.Estimator
import Lighthouse.Registration
import Lighthouse.Site.Calibration
import Lighthouse.Log.Recorder
import Lighthouse.Journal
/-!
# Calibration sessions

A session ties the processing chain together. Raw pulses go to one `Device` per tracker, which
share a table of lighthouse records; the lights they report are gated and, while recording,
stored with the session clock. The trigger toggles recording: the first press starts it, the
next one stops it and solves with everything stored in between. A solve bins the measurements in
time, estimates every tracker's pose in every lighthouse frame for each bin, and registers the
lighthouses to the first one; a usable registration replaces the transforms, is published and
written to the calibration file.

The operations are `Effect`s on the session: one that fails keeps what it changed before the
failure, such as a light counted before its gates are read or a store drained before its solve.
-/
namespace Lighthouse

/-- The message of a trigger that starts recording. -/
def msgStarted : String := "Recording started."

/-- The message of a trigger whose solve succeeded. -/
def msgSolved : String := "Recording stopped. Solution found."

/-- The message of a trigger whose solve failed. -/
def msgNotSolved : String := "Recording stopped. Solution not found."

/-- The message of a trigger with nothing recorded. -/
def msgNoData : String := "Recording stopped. Insufficient measurements received."

/-- The message of a stop request while idle. -/
def msgNotRecording : String := "Not recording."

/-- What a session knows of a configured lighthouse. -/
structure LighthouseState where
  name : String
  serial : String
  transform : Transform
  calibration : Option Calibration := none
  ready : Bool := false

/-- What a session knows of a configured tracker. Its sensor table is an array of any shape,
as it was given; a tracker is ready when the table has rows. -/
structure TrackerState where
  name : String
  serial : String
  extrinsics : Transform
  sensors : NumArray
  ready : Bool

/-- Positions of each tracker seen by each lighthouse, by time bin. -/
abbrev Paths := List (String × List (String × List (Float × Vec3)))

/-- Something a session publishes. -/
inductive Publication where
  | transforms (fts : List FrameTransform)
  | paths (ps : Paths)

/-- A publication as a document: its kind, then the frame transforms or the paths by lighthouse
and tracker, each point as `[bin, position]`. -/
def Publication.toJson : Publication → Json
  | .transforms fts => .arr [.str "transforms", .arr (fts.map FrameTransform.toJson)]
  | .paths ps => .arr [.str "paths", .obj (ps.map fun (lh, per) => (lh, Json.obj (per.map
      fun (tr, path) => (tr, Json.arr (path.map fun (b, q) =>
        Json.arr [.float b, .arr (q.toList.map .float)])))))]

/-- The six numbers of a transform to four places, translation and rotation parted by a bar. -/
def Transform.fourPlaces (t : Transform) : String :=
  let v := t.toList
  let place (i : Nat) := Decimal.fixed 4 (v.getD i 0.0)
  place 0 ++ " " ++ place 1 ++ " " ++ place 2 ++ " | " ++ place 3 ++ " " ++ place 4 ++ " " ++
    place 5

/-- A publication as journal entries: one per frame transform, or one per path with its number
of poses. -/
def Publication.entries : Publication → Journal
  | .transforms fts => fts.map fun ft => Journal.info Journal.sessionSource
      (ft.parent.display ++ " -> " ++ ft.child.display ++ ": [" ++ ft.transform.fourPlaces ++ "]")
  | .paths ps => ps.flatMap fun (lh, per) => per.map fun (tr, path) =>
      Journal.info Journal.sessionSource s!"Path of {tr} seen by {lh}: {path.length} poses"

/-- Where a session's publications go: kept in order, or written to its journal. -/
inductive Publisher where
  | keep
  | journal

/-- A calibration session. -/
structure Session where
  config : Config
  table : Table := Table.empty 2
  devices : List Device := []
  store : Store := {}
  registration : Transform := .identity
  lighthouses : List LighthouseState
  trackers : List TrackerState
  lastPoses : PoseTable := {}
  lastSummary : Option Summary := none
  lightsReceived : Nat := 0
  lightsAccepted : Nat := 0
  clock : Float := 0.0
  recorder : Option Recorder := none
  disk : Disk := {}
  published : List Publication := []
  publisher : Publisher := .keep
  journal : Journal := []

namespace Session

def calibrationData (s : Session) : SiteCalibration :=
  { frames := s.config.frames, registration := s.registration
    lighthouses := s.lighthouses.map fun lh => (lh.serial, lh.transform)
    trackers := s.trackers.map fun t => (t.serial, t.extrinsics) }

def note (s : Session) (e : JournalEntry) : Session := { s with journal := s.journal ++ [e] }

/-- The session with a publication made: kept, or written to the journal. -/
def publish (s : Session) (p : Publication) : Session :=
  match s.publisher with
  | .keep => { s with published := s.published ++ [p] }
  | .journal => { s with journal := s.journal ++ p.entries }

/-- The transforms of a calibration file applied to the configured lighthouses and trackers;
an unreadable file is ignored. The caller has nesting room `room`, of which this step takes one.
-/
def loadCalibration (room : Nat) (s : Session) : Outcome Session :=
  let calfile := s.config.calfile
  match SiteCalibration.read (room - 1) s.disk calfile with
  | .error f =>
    if f.kind = .calibrationFile then
      .ok (s.note ⟨.warning, Journal.sessionSource,
        s!"Ignoring calibration file {calfile}, using configured transforms: " ++ f.message⟩)
    else .error f
  | .ok none => .ok (s.note (Journal.info Journal.sessionSource
      ("Could not read calibration file " ++ calfile)))
  | .ok (some data) =>
    let s : Session := { s with
      registration := data.registration
      lighthouses := s.lighthouses.map fun lh =>
        match data.lighthouses.find? (·.1 == lh.serial) with
        | some (_, t) => { lh with transform := t, ready := true }
        | none => lh
      trackers := s.trackers.map fun t =>
        match data.trackers.find? (·.1 == t.serial) with
        | some (_, e) => { t with extrinsics := e }
        | none => t }
    .ok (s.note (Journal.info Journal.sessionSource ("Read transforms from calibration " ++ calfile)))

/-- A session for a configuration, on a disk, with a clock reading, an optional recorder and a
publisher. It reads the calibration file, publishes the transforms it starts with, and starts
recording at once when offline. Making the session takes two levels of the caller's nesting room
`room`. -/
def create (room : Nat) (config : Config) (disk : Disk) (clock : Float) (recorder : Option Recorder)
    (publisher : Publisher) : Outcome Session := do
  let s : Session :=
    { config, disk, clock, recorder, publisher
      lighthouses := config.lighthouses.map fun lh =>
        { name := lh.name, serial := lh.serial, transform := lh.transform }
      trackers := config.trackers.map fun t =>
        { name := t.name, serial := t.serial, extrinsics := t.extrinsics
          sensors := NumArray.ofRows t.sensors.rows 6, ready := !t.sensors.rows.isEmpty } }
  let s ← s.loadCalibration (room - 2)
  let s := s.publish (.transforms s.calibrationData.frameTransforms)
  if config.offline then
    let s := s.note (Journal.info Journal.sessionSource
      "Offline mode: recording from the first measurement")
    pure { s with store := s.store.start }
  else pure s

def recording (s : Session) : Bool := s.store.recording

/-- A recorder operation on the session's recorder and disk. -/
def withRecorder {α : Type} (r : Recorder) (e : Effect (Recorder × Disk) α) : Effect Session α := do
  let s ← get
  let (res, (r, d)) := e.runFrom (r, s.disk)
  set { s with recorder := some r, disk := d }
  Effect.ofOutcome res

/-- An event logged when a recorder is recording. -/
def recordEvent (eventType : String) (data : Json) : Effect Session Unit := do
  let s ← get
  match s.recorder with
  | some r => if r.isRecording then withRecorder r (Recorder.logEvent s.clock (.str eventType) data)
  | none => pure ()

/-- A new calibration record from a tracker: the lighthouse, when configured, is ready. The
journal tells of a lighthouse seen for the first time, and of one not configured. -/
def onLighthouse (s : Session) (record : Calibration) : Session :=
  match s.lighthouses.find? (·.serial == record.serial) with
  | none => s.note ⟨.debug, Journal.sessionSource, "Ignoring unconfigured lighthouse " ++ record.serial⟩
  | some lh =>
    let s := if lh.calibration.isNone then
        s.note (Journal.info Journal.sessionSource ("Found lighthouse " ++ record.serial))
      else s
    { s with lighthouses := s.lighthouses.map fun lh =>
        if lh.serial == record.serial then { lh with calibration := some record, ready := true }
        else lh }

/-- Whether a number of pulses is below the count gate. A number is compared with the count
exactly, whatever its size, as an integer is with a number; other values cannot be. -/
def belowCount (count : Json) (n : Nat) : Outcome Bool :=
  match count with
  | .int _ | .bool _ | .float _ => count.gtInt n
  | other => .error (Fault.type
      s!"\x27<\x27 not supported between instances of \x27int\x27 and \x27{Json.typeName other}\x27")

/-- A light counted, gated and, when it passes, stored; tells whether it was stored. The light
is counted before the gates are read, so a gate that cannot be read still counts it. -/
def onLight (light : Light) : Effect Session Bool := do
  modify fun s => { s with lightsReceived := s.lightsReceived + 1 }
  let s ← get
  if !s.store.recording then return false
  let some tracker := s.trackers.find? (·.serial == light.tracker) | return false
  let some lighthouse := s.lighthouses.find? (·.serial == light.lighthouse) | return false
  if !tracker.ready || !lighthouse.ready then return false
  let th := s.config.thresholds
  let maxAngle ← Effect.ofOutcome th.angleRad
  let minDuration ← Effect.ofOutcome th.durationS
  let pulses := light.pulses.filter fun p => !(p.angle > maxAngle || p.duration < minDuration)
  if ← Effect.ofOutcome (belowCount th.count pulses.length) then return false
  let (store, stored) := s.store.add ⟨s.clock, { light with pulses }⟩
  set { s with store, lightsAccepted := if stored then s.lightsAccepted + 1 else s.lightsAccepted }
  pure stored

def device (s : Session) (serial : String) : Device :=
  (s.devices.find? (·.serial == serial)).getD (Device.create serial 32 2)

/-- A device stored in the session, added after the others on first sight. -/
def putDevice (d : Device) : Effect Session Unit :=
  modify fun s =>
    if s.devices.any (·.serial == d.serial) then
      { s with devices := s.devices.map fun x => if x.serial == d.serial then d else x }
    else { s with devices := s.devices ++ [d] }

/-- One raw pulse taken by the tracker's device. The device is registered first; each light and
record reaches the session with the device and table as they stood when it was raised, so a
light the session refuses leaves the device where the pulse had brought it. -/
def feedDevice (tracker : String) (timecode sensor length : Int) : Effect Session Unit := do
  let s ← get
  if !s.devices.any (·.serial == tracker) then
    set (s.note (Journal.info Journal.sessionSource ("Found tracker " ++ tracker)))
  let d := s.device tracker
  putDevice d
  let c := d.step s.table timecode sensor length
  c.events.forM fun (d, table, e) => do
    putDevice d
    modify fun s => { s with table }
    match e with
    | .light l => discard (onLight l)
    | .lighthouse slot r =>
      modify fun s => (s.note ⟨.debug, Journal.trackerSource,
        s!"Tracker {tracker} received calibration for lighthouse {r.serial} in slot {slot}"⟩)
      modify (·.onLighthouse r)
  putDevice c.device
  modify fun s => { s with table := c.table }
  match c.failure with
  | some f => throw f
  | none => pure ()

/-- One raw pulse from a tracker: logged when recording, then fed to the tracker's device. -/
def processPulse (tracker : String) (timecode sensor length : Int) : Effect Session Unit := do
  let s ← get
  match s.recorder with
  | some r =>
    if r.isRecording then
      withRecorder r (Recorder.logPulse s.clock (.str tracker) (.int timecode) (.int sensor)
        (.int length))
  | none => pure ()
  feedDevice tracker timecode sensor length

def updateTracker (s : Session) (serial : String) (f : TrackerState → TrackerState) : Session :=
  { s with trackers := s.trackers.map fun t => if t.serial == serial then f t else t }

/-- The sensor table of a configured tracker replaced. The tracker is ready when the table has
rows; a table of no dimensions is kept but has no number of rows. -/
def setTrackerSensors (serial : String) (sensors : NumArray) : Effect Session Unit := do
  let s ← get
  if !s.trackers.any (·.serial == serial) then
    throw ⟨.key, Text.quoted s!"Tracker {serial} is not configured"⟩
  let n ← match sensors.shape with
    | [] => do
      set (s.updateTracker serial fun t => { t with sensors })
      throw (Fault.type "len() of unsized object")
    | n :: _ => pure n
  set (s.updateTracker serial fun t => { t with sensors, ready := n > 0 })

/-- The lighthouse transforms as six numbers each, in configuration order. -/
def transformVectors (s : Session) : List (String × List Float) :=
  s.lighthouses.map fun lh => (lh.serial, lh.transform.toList)

/-- The first stage of a solve over the drained measurements: the poses of every tracker in every
lighthouse frame, bin by bin, then the registration of the lighthouses to the first one. Gives
the poses, the registration's summary and the transforms it found; the poses and the summary
are kept as soon as they are known. -/
def estimateAndRegister (ms : List Measurement) :
    Effect Session (PoseTable × Summary × List (String × List Float)) := do
  let times := ms.map (·.timestamp)
  let first := times.foldl (fun a t => if t < a then t else a) (times.headD 0.0)
  let last := times.foldl (fun a t => if t > a then t else a) (times.headD 0.0)
  let span := Decimal.fixed 3 (last - first)
  modify fun s => (s.note (Journal.info Journal.sessionSource
    s!"Processing {ms.length} measurements running for {span} seconds")).note
    (Journal.info Journal.sessionSource "Bundling measurements into larger discrete time units.")
  let s ← get
  let bundle ← Effect.ofOutcome (Bundle.ofMeasurements ms s.config.resolution)
  modify (·.note (Journal.info Journal.sessionSource
    "Estimating pose sequence in every lighthouse frame."))
  let estimator : Estimator := { correct := s.config.correct }
  let trackers := (s.trackers.filter (·.ready)).map fun t => (t.serial, t.sensors)
  let params := s.lighthouses.map fun lh => (lh.serial, lh.calibration.map (·.corrections))
  let (estimator, poses) ← Effect.ofOutcome (estimator.estimate PnpSolver.epnp bundle trackers params)
  let pairs := params.flatMap fun (lh, _) => trackers.map fun (tr, _) =>
    Journal.info Journal.poseSource s!"- Lighthouse {lh} and tracker {tr}"
  modify fun s => { s with lastPoses := poses, journal := s.journal ++ pairs ++
    [Journal.info Journal.poseSource s!"Using {estimator.solutions} PnP solutions"] }
  let (summary, solved, notes) ← Effect.ofOutcome
    (register s.transformVectors poses s.config.solver.toOptions (some 1.0))
  modify fun s => { s with lastSummary := some summary, journal := s.journal ++ notes }
  recordEvent "solve" (.obj [("termination", .str summary.termination.name),
    ("iterations", .int summary.iterations), ("final_cost", .float summary.finalCost),
    ("transforms", .obj (solved.map fun (k, v) => (k, Json.arr (v.map .float))))])
  pure (poses, summary, solved)

/-- A lighthouse given the transform a registration found for its serial, if it found one. -/
def install (solved : List (String × List Float)) (lh : LighthouseState) :
    Outcome LighthouseState :=
  match solved.find? (·.1 == lh.serial) with
  | some (_, v) => do pure { lh with transform := ← Transform.ofList v }
  | none => pure lh

/-- Every lighthouse given the transform the registration found for its serial. -/
def installAll (solved : List (String × List Float)) : Effect Session Unit := do
  let s ← get
  let lighthouses ← Effect.ofOutcome (s.lighthouses.mapM (install solved))
  set { s with lighthouses }

/-- Writes the calibration file. An operating-system failure leaves it unwritten and is noted;
anything else fails. -/
def writeCalibration (data : SiteCalibration) : Effect Session Unit := do
  let s ← get
  let calfile := s.config.calfile
  let (written, disk) := (data.write calfile).runFrom s.disk
  set { s with disk }
  match written with
  | .error f =>
    if !f.kind.isOs then throw f
    modify (·.note ⟨.warning, Journal.sessionSource,
      s!"Could not write calibration to {calfile}: " ++ f.message⟩)
  | .ok _ =>
    modify fun s => (s.note ⟨.debug, Journal.calibrationSource,
      s!"Wrote calibration for {data.lighthouses.length} lighthouses to {Disk.normalize calfile}"⟩).note
      (Journal.info Journal.sessionSource ("Calibration written to " ++ calfile))

/-- The second stage of a solve, once the registration is usable: the transforms it found replace
the lighthouse transforms, are published and written to the calibration file, and the trackers'
paths follow. -/
def adopt (poses : PoseTable) (solved : List (String × List Float)) : Effect Session Unit := do
  installAll solved
  let s ← get
  let data := s.calibrationData
  modify (·.publish (.transforms data.frameTransforms))
  writeCalibration data
  let paths ← Effect.ofOutcome (trajectoryPaths s.transformVectors poses)
  modify (·.publish (.paths paths))

/-- The solve of a trigger over the drained measurements: poses and registration, then on success
the new transforms adopted. Tells whether it succeeded. -/
def solve (ms : List Measurement) : Effect Session Bool := do
  let (poses, summary, solved) ← estimateAndRegister ms
  if !summary.usable then return false
  adopt poses solved
  pure true

/-- The trigger: starts recording when idle (unless only a stop is asked), otherwise stops,
drains the store and solves. Gives whether it succeeded and a message. -/
def trigger (stopOnly : Bool) : Effect Session (Bool × String) := do
  let s ← get
  let (ok, msg) ← if !s.store.recording then
      if stopOnly then return (false, msgNotRecording)
      else do
        set { s with store := s.store.start }
        pure (true, msgStarted)
    else do
      let (store, ms) := s.store.drain
      set { s with store }
      if ms.isEmpty then pure (false, msgNoData)
      else do
        let ok ← solve ms
        pure (ok, if ok then msgSolved else msgNotSolved)
  modify (·.note (Journal.info Journal.sessionSource msg))
  recordEvent "trigger" (.obj [("success", .bool ok), ("message", .str msg)])
  pure (ok, msg)

def status (s : Session) : Json :=
  .obj [("recording", .bool s.store.recording), ("measurements", .int s.store.size),
    ("lights_received", .int s.lightsReceived), ("lights_accepted", .int s.lightsAccepted),
    ("lighthouses", .obj (s.lighthouses.map fun lh => (lh.serial, .bool lh.ready))),
    ("trackers", .obj (s.trackers.map fun t => (t.serial, .bool t.ready))),
    ("devices", .obj (s.devices.map fun d => (d.serial, d.stats)))]

end Session

end Lighthouse
