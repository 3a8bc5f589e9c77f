import Lighthouse.Geometry.Transform
import Lighthouse.Json.Array
import Lighthouse.Solver.Options
import Lighthouse.Ticks
import Lighthouse.Disk
import Lighthouse.Json.Read
/-!
# Session configuration

A session is configured by a document: the calibration file, frame names, the thresholds that
gate measurements, whether to correct sweep angles, the time bin resolution, the solver
settings, and the lighthouses and trackers with their poses (`[x, y, z, qx, qy, qz, qw]`) and
sensor tables.

`Config.ofJson` reads one field after another and stops at the first fault; then `validate`
requires a positive resolution, a nonnegative threshold count, at least one iteration and one
thread, and distinct serials. Frame names, thresholds and solver settings are kept as given and
read as numbers where they are used.
-/
namespace Lighthouse

/-- Names of the three frames. -/
structure Frames where
  world : Json := .str "world"
  vive : Json := .str "vive"
  body : Json := .str "body"
  deriving Inhabited

/-- Gates for incoming lights: at least `count` pulses within `angle` degrees and lasting at
least `duration` microseconds. -/
structure Thresholds where
  count : Json := .int 1
  angle : Json := .float 60.0
  duration : Json := .float 1.0
  deriving Inhabited

/-- Solver settings of a session. -/
structure SolverSettings where
  maxTime : Json := .float 30.0
  maxIterations : Json := .int 100
  threads : Json := .int 4
  debug : Json := .bool true
  deriving Inhabited

/-- A configured lighthouse. -/
structure LighthouseSetup where
  name : String
  serial : String
  transform : Transform := .identity
  deriving Inhabited

/-- Sensor positions of a tracker, rows of `[x, y, z]` or `[x, y, z, nx, ny, nz]`. -/
structure SensorTable where
  rows : List (List Float) := []
  deriving Inhabited

/-- A configured tracker. -/
structure TrackerSetup where
  name : String
  serial : String
  extrinsics : Transform := .identity
  sensors : SensorTable := {}
  deriving Inhabited

/-- A session configuration. -/
structure Config where
  calfile : String := "sweepcal.json"
  frames : Frames := {}
  thresholds : Thresholds := {}
  correct : Bool := false
  resolution : Float := 0.1
  offline : Bool := false
  idleTimeout : Float := 1.0
  solver : SolverSettings := {}
  lighthouses : List LighthouseSetup := []
  trackers : List TrackerSetup := []
  deriving Inhabited

/-- The fault of a configuration that cannot be used. -/
def configFault (msg : String) : Fault := ⟨.config, msg⟩

namespace Thresholds

def angleRad (t : Thresholds) : Outcome Float := do
  let a ← t.angle.realOf fun ty => s!"must be real number, not {ty}"
  pure (a * (Ticks.pi / 180.0))

def durationS (t : Thresholds) : Outcome Float := do
  let d ← t.duration.realOf fun ty =>
    s!"unsupported operand type(s) for /: \x27{ty}\x27 and \x27float\x27"
  pure (d / 1000000.0)

end Thresholds

def SolverSettings.toOptions (s : SolverSettings) : SolverOptions :=
  { maxIterations := s.maxIterations, maxTime := s.maxTime, threads := s.threads, debug := s.debug }

/-- A pose `[x, y, z, qx, qy, qz, qw]` read from a document. -/
def poseOfJson (j : Json) : Outcome Transform := do
  let a ← NumArray.ofJson j
  match a.shape with
  | [7] => Transform.ofPose7 a.values
  | s => .error (Fault.value s!"Expected 7 values [x, y, z, qx, qy, qz, qw], got {shapeText s}")

/-- Reads a pose, naming it in the fault. -/
def parsePose (j : Json) (what : String) : Outcome Transform :=
  match poseOfJson j with
  | .ok t => .ok t
  | .error f =>
    if f.kind = .type ∨ f.kind = .value then .error (configFault s!"Failed to parse {what}: {f.message}")
    else .error f

def identityPose : Json := .arr ([0, 0, 0, 0, 0, 0, 1].map Json.int)

/-- A configured lighthouse read from the `index`-th entry. -/
def parseLighthouse (index : Nat) (entry : Json) : Outcome LighthouseSetup := do
  if !(← entry.mentions "serial") then .error (configFault s!"Lighthouse #{index} has no serial")
  let name := (← entry.getOr "name" (.str s!"lighthouse_{index}")).display
  let transform ← entry.getOr "transform" identityPose
  let serial := (entry.getD "serial").display
  pure { name, serial, transform := ← parsePose transform s!"lighthouse {name} transform" }

/-- A sensor table read from a document: empty, or rows of three or six numbers. -/
def parseSensors (name : String) (j : Json) : Outcome SensorTable := do
  let a ← NumArray.ofJson j
  if a.size = 0 then pure {}
  else match a.shape with
    | [_, 3] | [_, 6] => pure ⟨a.rows⟩
    | _ => .error (configFault
        s!"Tracker {name} sensors must be rows of [x, y, z] or [x, y, z, nx, ny, nz]")

/-- A configured tracker read from the `index`-th entry. -/
def parseTracker (index : Nat) (entry : Json) : Outcome TrackerSetup := do
  if !(← entry.mentions "serial") then .error (configFault s!"Tracker #{index} has no serial")
  let name := (← entry.getOr "name" (.str s!"tracker_{index}")).display
  let extrinsics ← entry.getOr "extrinsics" identityPose
  let sensors ← parseSensors name (← entry.getOr "sensors" (.arr []))
  let serial := (entry.getD "serial").display
  pure { name, serial, extrinsics := ← parsePose extrinsics s!"tracker {name} extrinsics", sensors }

/-- Settings overridden by an object, a fault turned into a configuration fault. -/
def settings (qualified short : String) (defaults : List (String × Json)) (given : Json) :
    Outcome (List (String × Json)) :=
  match Json.overrideSettings qualified short defaults given with
  | .ok fs => .ok fs
  | .error f => .error (configFault s!"Unknown configuration key: {f.message}")

def setting (fs : List (String × Json)) (k : String) : Json := ((fs.find? (·.1 == k)).map Prod.snd).getD .null

namespace Config

/-- Duplicates in a list of serials, shown as a list. -/
def serialsText (xs : List String) : String := "[" ++ ", ".intercalate (xs.map Text.quoted) ++ "]"

/-- The checks of a configuration. -/
def validate (c : Config) : Outcome Config := do
  if c.resolution ≤ 0.0 then
    .error (configFault s!"resolution must be positive, got {Json.floatShown c.resolution}")
  if ← c.thresholds.count.ltInt 0 then .error (configFault "thresholds.count must not be negative")
  if ← c.solver.maxIterations.ltInt 1 then
    .error (configFault "solver.max_iterations must be at least 1")
  if ← c.solver.threads.ltInt 1 then .error (configFault "solver.threads must be at least 1")
  let ls := c.lighthouses.map (·.serial)
  if ls.eraseDups.length ≠ ls.length then
    .error (configFault s!"Duplicate lighthouse serials: {serialsText ls}")
  let ts := c.trackers.map (·.serial)
  if ts.eraseDups.length ≠ ts.length then
    .error (configFault s!"Duplicate tracker serials: {serialsText ts}")
  pure c

/-- A configuration read from a document and validated. -/
def ofJson (d : Json) : Outcome Config := do
  let .obj _ := d | .error (configFault "Configuration must be a JSON object")
  let frames ← settings "sweepcal.config.Frames" "Frames"
    [("world", .str "world"), ("vive", .str "vive"), ("body", .str "body")]
    ((d.get? "frames").getD (.obj []))
  let thresholds ← settings "sweepcal.config.Thresholds" "Thresholds"
    [("count", .int 1), ("angle", .float 60.0), ("duration", .float 1.0)]
    ((d.get? "thresholds").getD (.obj []))
  let solver ← settings "sweepcal.config.SolverConfig" "SolverConfig"
    [("max_time", .float 30.0), ("max_iterations", .int 100), ("threads", .int 4),
     ("debug", .bool true)]
    ((d.get? "solver").getD (.obj []))
  let calfile := ((d.get? "calfile").getD (.str "sweepcal.json")).display
  let correct := ((d.get? "correct").getD (.bool false)).truthy
  let resolution ← ((d.get? "resolution").getD (.float 0.1)).toFloat
  let offline := ((d.get? "offline").getD (.bool false)).truthy
  let idleTimeout ← ((d.get? "idle_timeout").getD (.float 1.0)).toFloat
  let lhs ← ((d.get? "lighthouses").getD (.arr [])).iterate
  let lighthouses ← lhs.zipIdx.mapM fun p => parseLighthouse p.2 p.1
  let trs ← ((d.get? "trackers").getD (.arr [])).iterate
  let trackers ← trs.zipIdx.mapM fun p => parseTracker p.2 p.1
  validate {
    calfile,
    frames := ⟨setting frames "world", setting frames "vive", setting frames "body"⟩
    thresholds := ⟨setting thresholds "count", setting thresholds "angle",
      setting thresholds "duration"⟩
    correct, resolution, offline, idleTimeout
    solver := ⟨setting solver "max_time", setting solver "max_iterations",
      setting solver "threads", setting solver "debug"⟩
    lighthouses, trackers }

/-- The document of a configuration, poses as `[x, y, z, qx, qy, qz, qw]`. -/
def toJson (c : Config) : Json :=
  let floats (xs : List Float) : Json := .arr (xs.map .float)
  .obj [("calfile", .str c.calfile),
    ("frames", .obj [("world", c.frames.world), ("vive", c.frames.vive), ("body", c.frames.body)]),
    ("thresholds", .obj [("count", c.thresholds.count), ("angle", c.thresholds.angle),
      ("duration", c.thresholds.duration)]),
    ("correct", .bool c.correct), ("resolution", .float c.resolution),
    ("offline", .bool c.offline), ("idle_timeout", .float c.idleTimeout),
    ("solver", .obj [("max_time", c.solver.maxTime), ("max_iterations", c.solver.maxIterations),
      ("threads", c.solver.threads), ("debug", c.solver.debug)]),
    ("lighthouses", .arr (c.lighthouses.map fun l => .obj [("name", .str l.name),
      ("serial", .str l.serial), ("transform", floats l.transform.toPose7)])),
    ("trackers", .arr (c.trackers.map fun t => .obj [("name", .str t.name),
      ("serial", .str t.serial), ("extrinsics", floats t.extrinsics.toPose7),
      ("sensors", .arr (t.sensors.rows.map floats))]))]

/-- A configuration read from a file of the working directory, by a caller with nesting room
`room`; reading the file and its document take two levels of it. -/
def load (room : Nat) (d : Disk) (path : String) : Outcome Config := do
  -- the file is named through a path object
  let path := Disk.normalize path
  let text ← match d.read path with
    | .ok t => pure t
    | .error f => .error (configFault s!"Cannot read configuration {path}: {f.message}")
  match Json.parse (room - 2) text with
  | .ok doc => ofJson doc
  | .error e =>
    if e.kind = .malformed then .error (configFault s!"Invalid JSON in {path}: {e.render text}")
    else .error (e.toFault text)

end Config

end Lighthouse
