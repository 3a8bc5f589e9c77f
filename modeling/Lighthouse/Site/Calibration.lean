import Lighthouse.Config
import Lighthouse.Pose.Table
import Lighthouse.Json.Write
/-!
# Site calibrations

The result of a registration, kept between sessions in a calibration file: the names of the
frames, the registration of the vive frame in the world frame, each lighthouse's transform in
the vive frame and each tracker's extrinsics. In the file every transform is a pose
`[x, y, z, qx, qy, qz, qw]`.

`SiteCalibration.write` writes the file atomically: the text goes to a `.tmp` file beside it,
which then replaces the file; missing directories are made first. `SiteCalibration.read` gives
nothing for a missing file and a calibration-file fault naming the path for anything that cannot
be read.
-/
namespace Lighthouse

/-- Frame names given as a document: its keys override the defaults. -/
def Frames.ofJson (j : Json) : Outcome Frames := do
  let fs ← Json.overrideSettings "sweepcal.config.Frames" "Frames"
    [("world", .str "world"), ("vive", .str "vive"), ("body", .str "body")] j
  pure ⟨setting fs "world", setting fs "vive", setting fs "body"⟩

def Frames.toJson (f : Frames) : Json := .obj [("world", f.world), ("vive", f.vive), ("body", f.body)]

/-- A site calibration. -/
structure SiteCalibration where
  frames : Frames := {}
  registration : Transform := .identity
  lighthouses : List (String × Transform) := []
  trackers : List (String × Transform) := []
  deriving Inhabited

namespace SiteCalibration

def poseJson (t : Transform) : Json := .arr (t.toPose7.map .float)

def toJson (c : SiteCalibration) : Json :=
  .obj [("frames", c.frames.toJson), ("registration", poseJson c.registration),
    ("lighthouses", .obj (c.lighthouses.map fun (s, t) => (s, poseJson t))),
    ("trackers", .obj (c.trackers.map fun (s, t) => (s, poseJson t)))]

/-- The named poses of an object member, read as transforms. -/
def posesOf (m : Json) : Outcome (List (String × Transform)) :=
  match m with
  | .obj fs => fs.mapM fun (k, v) => do pure (k, ← Transform.ofPose7Array (← NumArray.ofJson v))
  | other => .error ⟨.attribute, s!"\x27{Json.typeName other}\x27 object has no attribute \x27items\x27"⟩

/-- A calibration read from a document; missing members take their defaults. -/
def ofJson (d : Json) : Outcome SiteCalibration := do
  let frames ← Frames.ofJson (← d.getOr "frames" (.obj []))
  let reg ← d.getOr "registration" (.arr ([0, 0, 0, 0, 0, 0, 1].map Json.int))
  let registration ← Transform.ofPose7Array (← NumArray.ofJson reg)
  let lighthouses ← posesOf (← d.getOr "lighthouses" (.obj []))
  let trackers ← posesOf (← d.getOr "trackers" (.obj []))
  pure { frames, registration, lighthouses, trackers }

def fileText (c : SiteCalibration) : String := Json.write (Json.Layout.indented 2) c.toJson

/-- The calibration written to a file through a temporary file beside it, which then replaces
the file. The directory is made first when missing. A path with no last name, such as `.`, has
no temporary file beside it. What was done before a failure stays done: a temporary file that
could not replace the file is left behind. -/
def write (path : String) (c : SiteCalibration) : Effect Disk Unit := do
  let path := Disk.normalize path
  let dir := Disk.parentOf path
  if !(← get).reaches dir then set (← Effect.ofOutcome ((← get).makeDirs dir))
  let name := Disk.baseName path
  if name.isEmpty then throw (Fault.value s!"PosixPath({Text.quoted path}) has an empty name")
  let tmp := Disk.normalize (dir ++ "/" ++ name ++ ".tmp")
  set (← Effect.ofOutcome ((← get).write tmp c.fileText))
  set (← Effect.ofOutcome ((← get).rename tmp path))

/-- The fault of a calibration file that cannot be read. -/
def fileFault (path msg : String) : Fault :=
  ⟨.calibrationFile, s!"Cannot read calibration {path}: {msg}"⟩

/-- The calibration in a file; nothing when the file does not exist. -/
def read (room : Nat) (d : Disk) (path : String) : Outcome (Option SiteCalibration) :=
  let path := Disk.normalize path
  if !d.reaches path then .ok none
  else match d.read path with
    | .error f => .error (fileFault path f.message)
    | .ok text =>
      match Json.parse (room - 2) text with
      | .error e =>
        if e.kind = .depth then .error (e.toFault text) else .error (fileFault path (e.render text))
      | .ok doc =>
        match ofJson doc with
        | .ok c => .ok (some c)
        | .error f =>
          if f.kind = .value ∨ f.kind = .type ∨ f.kind = .attribute ∨ f.kind.isOs then
            .error (fileFault path f.message)
          else .error f

end SiteCalibration

/-- A transform to publish: the child frame in the parent frame. -/
structure FrameTransform where
  parent : Json
  child : Json
  transform : Transform

def FrameTransform.toJson (f : FrameTransform) : Json :=
  .obj [("parent", f.parent), ("child", f.child), ("transform", SiteCalibration.poseJson f.transform)]

/-- The transforms a calibration implies: world to vive, vive to each lighthouse, body to each
tracker. -/
def SiteCalibration.frameTransforms (c : SiteCalibration) : List FrameTransform :=
  [⟨c.frames.world, c.frames.vive, c.registration⟩] ++
  c.lighthouses.map (fun (s, t) => ⟨c.frames.vive, .str s, t⟩) ++
  c.trackers.map (fun (s, t) => ⟨c.frames.body, .str s, t⟩)

/-- Tracker positions in the vive frame: for each lighthouse and tracker, the positions of the
poses that lighthouse saw, by increasing time bin. -/
def trajectoryPaths (lighthouses : List (String × List Float)) (poses : PoseTable) :
    Outcome (List (String × List (String × List (Float × Vec3)))) :=
  lighthouses.mapM fun (serial, v) => do
    let vTl ← Transform.ofList v
    let perTracker ← poses.trackers.mapM fun (tracker, bins) => do
      let sorted := bins.mergeSort fun a b => a.1 ≤ b.1
      let path ← sorted.filterMapM fun (bin, seen) =>
        match seen.find? (·.1 == serial) with
        | none => pure none
        | some (_, p) => do
          let a ← vTl.applyArray ⟨[min p.length 3], p.take 3⟩
          match Vec3.ofList? a.values with
          | some q => pure (some (bin, q))
          | none => pure none
      pure (tracker, path)
    pure (serial, perTracker)

end Lighthouse
