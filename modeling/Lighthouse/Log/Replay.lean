import Lighthouse.Log.Recorder
import Lighthouse.Json.Read
import Lighthouse.Json.Dynamic
import Lighthouse.Text.Blank
/-!
# Reading pulse logs

`PulseReplay.load` reads a log written by a recorder back into memory: every nonblank line is a
JSON object whose `_type` says what it is. Pulses and events are kept in order, the last header
and footer win, and lines of any other type are skipped. A pulse needs its tracker, timecode,
sensor and length; times default to zero.

`validateLog` checks a log for a header of the known schema and a footer whose count matches
the pulses. A log that cannot be read at all (missing, not JSON, a pulse field missing or not a
number) makes the report invalid with that reason; a missing header is an error, the other
findings are warnings.
-/
namespace Lighthouse

/-- The header of a log, as written. -/
structure LogHeader where
  schemaVersion : Json
  captureStart : Json
  logFormat : Json

/-- The footer of a log. -/
structure LogFooter where
  captureEnd : Json
  totalPulses : Int

/-- One raw pulse with the time it was received. -/
structure PulseEntry where
  time : Float
  tracker : String
  timecode : Int
  sensor : Int
  length : Int

/-- One session event. -/
structure EventEntry where
  eventType : String
  time : Float
  data : Json

/-- A log read into memory. -/
structure PulseReplay where
  header : Option LogHeader := none
  footer : Option LogFooter := none
  pulses : List PulseEntry := []
  events : List EventEntry := []

namespace PulseReplay

/-- A pulse line read. -/
def pulseOf (e : Json) : Outcome PulseEntry := do
  let time ← (← e.getOr "time" (.float 0.0)).toFloat
  let tracker ← match e.get? "tracker" with
    | some t => pure t.display
    | none => .error ⟨.key, Text.quoted "tracker"⟩
  let field (k : String) : Outcome Int :=
    match e.get? k with
    | some v => v.toInt
    | none => .error ⟨.key, Text.quoted k⟩
  pure ⟨time, tracker, ← field "timecode", ← field "sensor", ← field "length"⟩

/-- One parsed line added to the log. -/
def add (r : PulseReplay) (e : Json) : Outcome PulseReplay := do
  match ← e.getOr "_type" .null with
  | .str "pulse" => pure { r with pulses := r.pulses ++ [← pulseOf e] }
  | .str "event" =>
    let ty := (← e.getOr "event_type" (.str "")).display
    let time ← (← e.getOr "time" (.float 0.0)).toFloat
    pure { r with events := r.events ++ [⟨ty, time, ← e.getOr "data" (.obj [])⟩] }
  | .str "header" =>
    pure { r with header := some ⟨← e.getOr "schema_version" (.str "unknown"),
      ← e.getOr "capture_start" (.str ""), ← e.getOr "log_format" (.str "jsonl")⟩ }
  | .str "footer" =>
    pure { r with footer := some ⟨← e.getOr "capture_end" (.str ""),
      ← (← e.getOr "total_pulses" (.int 0)).toInt⟩ }
  | _ => pure r

/-- The lines of a text, each with its line end; the last may have none. -/
def lines (text : String) : List String :=
  let ls := (text.toList.splitOn '\n').map String.ofList
  let body := ls.dropLast.map (· ++ "\n")
  match ls.getLast? with
  | some "" | none => body
  | some last => body ++ [last]

/-- A log read from a file by a caller with nesting room `room`; making the replay takes two
levels of it. -/
def load (room : Nat) (d : Disk) (path : String) : Outcome PulseReplay := do
  -- the file is named through a path object; the message shows the name as given
  if !d.reaches (Disk.normalize path) then .error ⟨.fileNotFound, s!"Log file not found: {path}"⟩
  let text ← d.read (Disk.normalize path)
  (lines text).foldlM (fun r line =>
    if (Text.trimBlank line.toList).isEmpty then pure r
    else match Json.parse (room - 2) line with
      | .ok e => r.add e
      | .error err => .error (err.toFault line)) {}

/-- Tracker serials in order of first appearance. -/
def trackers (r : PulseReplay) : List String :=
  r.pulses.foldl (fun acc p => if acc.contains p.tracker then acc else acc ++ [p.tracker]) []

/-- The time between the earliest and the latest pulse. -/
def duration (r : PulseReplay) : Float :=
  match r.pulses.map (·.time) with
  | [] => 0.0
  | t :: ts =>
    let hi := ts.foldl (fun m x => if x > m then x else m) t
    let lo := ts.foldl (fun m x => if x < m then x else m) t
    hi - lo

def eventTypes (r : PulseReplay) : List String :=
  (r.events.map (·.eventType)).eraseDups.mergeSort fun a b => decide (a ≤ b)

/-- The replay as a document: header, footer, pulses as `[time, tracker, timecode, sensor,
length]`, events as `[type, time, data]`, the trackers seen, the duration and the pulse count. -/
def toJson (r : PulseReplay) : Json :=
  .obj [("header", match r.header with
      | some h => .obj [("schema_version", h.schemaVersion), ("capture_start", h.captureStart),
          ("log_format", h.logFormat)]
      | none => .null),
    ("footer", match r.footer with
      | some f => .obj [("capture_end", f.captureEnd), ("total_pulses", .int f.totalPulses)]
      | none => .null),
    ("pulses", .arr (r.pulses.map fun p => Json.arr [.float p.time, .str p.tracker,
      .int p.timecode, .int p.sensor, .int p.length])),
    ("events", .arr (r.events.map fun e => Json.arr [.str e.eventType, .float e.time, e.data])),
    ("trackers", .arr (r.trackers.map .str)), ("duration", .float r.duration),
    ("len", .int r.pulses.length)]

end PulseReplay

/-- The integrity report of a log file. -/
def validateLog (room : Nat) (d : Disk) (path : String) : Outcome Json :=
  let report (valid : Bool) (errors warnings : List String) (stats : Json) : Json :=
    .obj [("valid", .bool valid), ("errors", .arr (errors.map .str)),
      ("warnings", .arr (warnings.map .str)), ("stats", stats)]
  match PulseReplay.load (room - 1) d path with
  | .error f =>
    if f.kind.isOs ∨ f.kind = .value ∨ f.kind = .decode ∨ f.kind = .key then
      .ok (report false [f.message] [] (.obj []))
    else .error f
  | .ok r =>
    let errors := if r.header.isNone then ["Missing header"] else []
    let w1 := match r.header with
      | some h => match h.schemaVersion with
        | .str v => if v == schemaVersion then [] else [s!"Unknown schema version: {v}"]
        | other => [s!"Unknown schema version: {other.display}"]
      | none => []
    let w2 := match r.footer with
      | none => ["Missing footer (log may be incomplete)"]
      | some f =>
        if f.totalPulses == r.pulses.length then []
        else [s!"Footer reports {f.totalPulses} pulses, found {r.pulses.length}"]
    let stats := Json.obj [("total_pulses", .int r.pulses.length),
      ("trackers", .arr (r.trackers.map .str)), ("duration_seconds", .float r.duration),
      ("events", .arr (r.eventTypes.map .str))]
    .ok (report errors.isEmpty errors (w1 ++ w2) stats)

end Lighthouse
