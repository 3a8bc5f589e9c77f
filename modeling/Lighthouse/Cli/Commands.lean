import Lighthouse.Playback
import Lighthouse.Cli.Truth
import Lighthouse.Sim.Tracker
import Lighthouse.Sim.Scenario
import Lighthouse.Sim.Sensors
import Lighthouse.Linear.Products
import Lighthouse.Json.Write
/-!
# The commands

The program has three commands, each a function of the working directory:

* `replay` plays a pulse log through a session built from a configuration file and solves. It
  prints the trigger's message and every lighthouse's transform to four places, and, for a log
  that records the true transforms (`ground_truth` events, as simulated logs do), the length of
  the translation and rotation errors. It succeeds when the solve does.
* `validate` prints a log's integrity report as indented JSON and succeeds when it is valid.
* `simulate` writes a synthetic capture: two lighthouses with random records, one at the origin
  and one at `(1.5, 0, 0.2)` turned by `-0.5` about `y`, a tracker at random poses, the log of
  its pulses with the true transforms, and a matching offline configuration.

A refused input writes `error: …` to standard error and ends with status 2. A replay writes the
session's journal to standard error. A failure the program does not expect ends the run with
that failure, whatever it printed before.
-/
namespace Lighthouse.Cli

/-- What a run leaves: exit status, standard output, standard error, the working directory
afterwards, and the failure that ended it, if one did. -/
structure Run where
  status : Nat
  out : String := ""
  err : String := ""
  disk : Disk
  failure : Option Fault := none

/-- A refused input. -/
def refuse (disk : Disk) (msg : String) : Run := { status := 2, err := "error: " ++ msg ++ "\n", disk }

/-- A run ended by a failure the program does not expect. -/
def crash (disk : Disk) (f : Fault) : Run := { status := 1, disk, failure := some f }

/-- The serial of the simulated tracker. -/
def simTracker : String := "LHR-08DE963B"

def simLighthouses : String × String := ("3097796425", "907388239")

def simSecondPose : Transform := ⟨⟨1.5, 0.0, 0.2⟩, ⟨0.0, -0.5, 0.0⟩⟩

/-- Numbers as a list literal, `[1.5, 0.0]`. -/
def floatList (xs : List Float) : String :=
  "[" ++ ", ".intercalate (xs.map Decimal.floatText) ++ "]"

/-- A lighthouse's transform as printed after a replay. -/
def transformLine (serial : String) (t : Transform) : String :=
  serial ++ ": " ++ t.fourPlaces ++ "\n"

/-- Whether a log failure is one the replay command reports: a missing or unreadable file, a
line that is not JSON, or a bad or missing pulse field. -/
def reportedLoadFault (f : Fault) : Bool :=
  f.kind.isOs ∨ f.kind = .value ∨ f.kind = .decode ∨ f.kind = .key

/-- The `replay` command, with nesting room `room` for the files it reads; `shown` writes the
session's journal out. -/
def replayCommand (room : Nat) (shown : Journal → String) (disk : Disk) (logPath configPath : String)
    (calfile : Option String) : Run :=
  match Config.load room disk configPath with
  | .error f => if f.kind = .config then refuse disk f.message else crash disk f
  | .ok config =>
    let config := match calfile with
      | some c => if c.isEmpty then config else { config with calfile := c }
      | none => config
    let config := { config with idleTimeout := 0.0 }
    match PulseReplay.load room disk logPath with
    | .error f =>
      if reportedLoadFault f then refuse disk ("cannot load log: " ++ f.message) else crash disk f
    | .ok replay =>
      match Session.create room config disk 0.0 none .journal with
      | .error f => crash disk f
      | .ok s =>
      match (replayInto replay).runFrom s with
      | (.error f, s) => crash s.disk f
      | (.ok (ok, msg), s) =>
        let out := msg ++ "\n" ++ String.join (s.lighthouses.map fun lh =>
          transformLine lh.serial lh.transform)
        match truthLines s replay with
        | .ok lines =>
          { status := if ok then 0 else 1, out := out ++ lines, err := shown s.journal, disk := s.disk }
        | .error f => crash s.disk f

/-- The `validate` command, with nesting room `room` for the log it reads. -/
def validateCommand (room : Nat) (disk : Disk) (logPath : String) : Run :=
  match validateLog room disk logPath with
  | .ok report =>
    let valid := match report.get? "valid" with
      | some (.bool b) => b
      | _ => false
    { status := if valid then 0 else 1, out := Json.write (Json.Layout.indented 2) report ++ "\n",
      disk }
  | .error f => crash disk f

/-- The capture of a simulated tracker at some poses written to a log, with the true transforms
as a last event: the directory and the log's path. -/
def writeCapture (disk : Disk) (dir stamp : String) (tracker : SimTracker)
    (poses : List Transform) : Outcome (Disk × String) := do
  let (disk, rec) ← Recorder.create disk dir
  let (_, pulses) ← simulatePulses tracker poses 1.0 true
  let time := (pulses.getLast?.map (·.time)).getD 0.0
  let truth := Json.obj (tracker.lighthouses.map fun lh =>
    (lh.record.serial, Json.arr (lh.transform.toList.map .float)))
  let capture : Effect (Recorder × Disk) String := do
    let path ← Recorder.start "pulses" stamp
    pulses.forM fun p => Recorder.logPulse p.time (.str tracker.serial) (.int p.timecode)
      (.int p.sensor) (.int p.length)
    Recorder.logEvent time (.str "ground_truth") truth
    discard (Recorder.stop stamp)
    pure path
  let (res, (_, disk)) := capture.runFrom (rec, disk)
  pure (disk, ← res)

/-- The offline configuration of a simulated capture. -/
def simConfig (dir : String) : Config :=
  let sensors : SensorTable := ⟨defaultSensors.map fun s => s.toList ++ [0.0, 0.0, 0.0]⟩
  let tracker : TrackerSetup := { name := "tracker_sim", serial := simTracker, sensors }
  { calfile := Disk.normalize (dir ++ "/calibration.json"), offline := true
    lighthouses := [⟨"lighthouse_0", simLighthouses.1, .identity⟩,
      ⟨"lighthouse_1", simLighthouses.2, .identity⟩]
    trackers := [tracker] }

/-- The `simulate` command. -/
def simulateCommand (disk : Disk) (stamp outDir : String) (poses seed : Int) : Run :=
  if poses < 1 then refuse disk "--poses must be >= 1"
  else if seed < 0 then crash disk (Fault.value "expected non-negative integer")
  else match disk.makeDirs outDir with
  | .error f => crash disk f
  | .ok disk =>
    let g := Random.Pcg.ofSeed seed.toNat
    let (r0, g) := randomRecord simLighthouses.1 g
    let (r1, g) := randomRecord simLighthouses.2 g
    let (ps, _) := randomPoses poses.toNat g
    let res : Outcome (Disk × String) := do
      let l0 ← SimLighthouse.create r0 .identity
      let l1 ← SimLighthouse.create r1 simSecondPose
      let tracker : SimTracker :=
        { serial := simTracker, sensors := defaultSensors, lighthouses := [l0, l1] }
      let (disk, logPath) ← writeCapture disk outDir stamp tracker ps
      let configPath := Disk.normalize (outDir ++ "/session.json")
      let disk ← disk.write configPath (Json.write (Json.Layout.indented 2) (simConfig outDir).toJson)
      pure (disk, "log: " ++ logPath ++ "\nconfig: " ++ configPath ++ "\ntruth " ++
        simLighthouses.2 ++ ": " ++ floatList simSecondPose.toList ++ "\n")
    match res with
    | .ok (disk, out) => { status := 0, out, disk }
    | .error f => crash disk f

end Lighthouse.Cli
