import Lighthouse.Disk
import Lighthouse.Json.Write
import Lighthouse.Json.Coerce
/-!
# Recording pulses

A recorder writes raw tracker pulses and session events to a log of JSON lines in its directory,
so that a capture can be replayed later. A log opens with a header and, once stopped, closes with
a footer that counts the pulses:

    {"_type": "header", "schema_version": "1.0", "capture_start": ..., "log_format": "jsonl"}
    {"_type": "pulse", "time": 0.5, "tracker": ..., "timecode": ..., "sensor": ..., "length": ...}
    {"_type": "event", "event_type": "trigger", "time": 0.9, "data": {...}}
    {"_type": "footer", "capture_end": ..., "total_pulses": N}

One log is open at a time. Pulses and events need an open log; their times come from the
caller's clock, and the numbers of a pulse are read as integers.
-/
namespace Lighthouse

/-- The schema version written in headers. -/
def schemaVersion : String := "1.0"

/-- A recorder: its directory, the log it names as current and whether that log is open, and
what the open log holds so far. -/
structure Recorder where
  dir : String
  /-- The log named by the last start, until a stop. -/
  current : Option String := none
  isOpen : Bool := false
  pulses : Nat := 0
  events : Nat := 0
  deriving Inhabited

namespace Recorder

/-- A recorder in a directory, which is made with its parents if missing. -/
def create (d : Disk) (dir : String) : Outcome (Disk × Recorder) := do
  let dir := Disk.normalize dir
  pure (← d.makeDirs dir, { dir })

def isRecording (r : Recorder) : Bool := r.isOpen

def writeEntry (entry : Json) : Effect (Recorder × Disk) Unit := do
  let (r, d) ← get
  match r.current, r.isOpen with
  | some path, true => set (r, ← Effect.ofOutcome (d.append path (Json.render entry ++ "\n")))
  | _, _ => pure ()

/-- A new log `name.jsonl` opened with its header stamped `stamp`; the path is returned. The log
is named before it is opened, so a log that cannot be opened stays the current one. -/
def start (name stamp : String) : Effect (Recorder × Disk) String := do
  let (r, d) ← get
  if r.isRecording then throw ⟨.runtime, "Recording already in progress"⟩
  let path := Disk.normalize (r.dir ++ "/" ++ name ++ ".jsonl")
  set ({ r with current := some path }, d)
  let d ← Effect.ofOutcome (d.write path "")
  set ({ r with current := some path, isOpen := true, pulses := 0, events := 0 }, d)
  writeEntry (.obj [("_type", .str "header"), ("schema_version", .str schemaVersion),
    ("capture_start", .str stamp), ("log_format", .str "jsonl")])
  pure path

/-- The open log closed with its footer stamped `stamp`: what it recorded, or a note that no
log was open. -/
def stop (stamp : String) : Effect (Recorder × Disk) Json := do
  let (r, _) ← get
  if !r.isRecording then return .obj [("status", .str "not_recording")]
  writeEntry (.obj [("_type", .str "footer"), ("capture_end", .str stamp),
    ("total_pulses", .int r.pulses)])
  let (r, d) ← get
  set ({ r with current := none, isOpen := false }, d)
  pure (.obj [("log_file", .str (r.current.getD "")), ("total_pulses", .int r.pulses),
    ("total_events", .int r.events)])

def notRecording : Fault := ⟨.runtime, "Not currently recording"⟩

/-- One raw pulse recorded at time `time`. -/
def logPulse (time : Float) (tracker timecode sensor length : Json) :
    Effect (Recorder × Disk) Unit := do
  if !(← get).1.isRecording then throw notRecording
  let entry := Json.obj [("_type", .str "pulse"), ("time", .float time), ("tracker", tracker),
    ("timecode", .int (← Effect.ofOutcome timecode.toInt)),
    ("sensor", .int (← Effect.ofOutcome sensor.toInt)),
    ("length", .int (← Effect.ofOutcome length.toInt))]
  writeEntry entry
  modify fun (r, d) => ({ r with pulses := r.pulses + 1 }, d)

/-- One session event recorded at time `time`. -/
def logEvent (time : Float) (eventType data : Json) : Effect (Recorder × Disk) Unit := do
  if !(← get).1.isRecording then throw notRecording
  writeEntry (.obj [("_type", .str "event"), ("event_type", eventType),
    ("time", .float time), ("data", data)])
  modify fun (r, d) => ({ r with events := r.events + 1 }, d)

end Recorder

end Lighthouse
