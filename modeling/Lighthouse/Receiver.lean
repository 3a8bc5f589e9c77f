import Lighthouse.Ootx.Decoder
import Lighthouse.Ticks
/-!
# The pulse receiver of a tracker

Every photodiode pulse is `(timecode, sensor, length)`. A pulse of an unknown sensor or longer
than `maxPulse` is dropped; one longer than `syncThreshold` is part of a sync flash, any other
is a laser sweep crossing a sensor.

Sync pulses are grouped into flashes by the gap to the previous sync pulse: below
`sameCycleGap` the pulse joins the current flash, below `secondLighthouseGap` it opens the
flash of the second lighthouse, above `resetGap` it opens a new cycle with the flash of the
first lighthouse, and otherwise it belongs to no flash. The length of a flash's longest pulse
encodes its acode: axis, one data bit for that lighthouse's OOTX frame, and a skip bit for a
lighthouse that does not sweep this cycle. Each sync pulse feeds the data bit to the decoder of
the current flash.

A sweep pulse is kept, per sensor the longest one, when some flash of the cycle announced a
sweep (last such slot wins). The next sync pulse closes the sweep: a `SweepTicks` report of the
kept pulses goes out once the sweeping lighthouse has identified itself through its OOTX frame.
The report goes out before the window is emptied and the sync pulse is placed, so a `Passage`
gives the receiver at the report as well as at the end of the pulse.
-/
namespace Lighthouse

/-- Longest pulse that is not dropped. -/
def maxPulse : Int := 6750

/-- Pulses longer than this are sync pulses. -/
def syncThreshold : Int := 2750

/-- Length difference between consecutive acodes. -/
def acodeStep : Int := 500

/-- Gaps below this join the current flash. -/
def sameCycleGap : Int := 2400

/-- Gaps below this open the second lighthouse's flash. -/
def secondLighthouseGap : Int := 24000

/-- Gaps above this open a new cycle. -/
def resetGap : Int := 370000

def decodeAcode (length : Int) : Int := (length - syncThreshold) / acodeStep

/-- The sync pulse length in the middle of an acode's window. -/
def syncLength (acode : Int) : Int := syncThreshold + acodeStep * acode + acodeStep / 2

/-- Whether an acode announces that its lighthouse does not sweep. -/
def Acode.skips (a : Int) : Bool := a % 8 ≥ 4

def Acode.dataBit (a : Int) : Bool := a % 4 ≥ 2

def Acode.axis (a : Int) : Int := a % 2

/-- One sweep of one lighthouse as seen by a tracker, in ticks. -/
structure SweepTicks where
  lighthouse : Calibration
  slot : Nat
  axis : Int
  syncTime : Int
  sensors : List Nat
  sweepTimes : List Int
  /-- Ticks from the sync flash to the centre of each sensor's pulse. -/
  angles : List Int
  lengths : List Int
  deriving Inhabited

def SweepTicks.toJson (t : SweepTicks) : Json :=
  let ints := fun (xs : List Int) => Json.arr (xs.map .int)
  .obj [("lighthouse", .str t.lighthouse.serial), ("slot", .int t.slot), ("axis", .int t.axis),
    ("sync_time", .int t.syncTime), ("sensors", .arr (t.sensors.map fun (n : Nat) => Json.int n)),
    ("sweep_times", ints t.sweepTimes), ("angles", ints t.angles), ("lengths", ints t.lengths)]

/-- A decoder slot with the lighthouse it has identified. -/
structure Channel where
  decoder : Ootx.Decoder := Ootx.Decoder.standard
  lighthouse : Option Calibration := none
  deriving Inhabited

/-- Flash bookkeeping of the current cycle. -/
structure SyncTable where
  recent : Int := 0
  current : Nat := 0
  active : Int := -1
  activeStart : Int := 0
  activeAcode : Int := 0
  start : List Int
  maxLength : List Int
  acode : List Int
  deriving Inhabited

/-- The table of a new cycle with `n` slots. -/
def SyncTable.fresh (n : Nat) : SyncTable :=
  { start := List.replicate n 0, maxLength := List.replicate n 0, acode := List.replicate n (-1) }

/-- The longest pulse per sensor during the current sweep, and per sensor and axis the number
of consecutive sweeps that hit it. -/
structure SweepWindow where
  lengths : List Int
  times : List Int
  hits : List (Nat × Nat)
  deriving Inhabited

/-- The state of a tracker's receiver. -/
structure Receiver where
  channels : List Channel
  numSensors : Int
  sync : SyncTable
  window : SweepWindow
  /-- Smoothed offset of sync lengths from their acode window centres (diagnostic). -/
  acodeOffset : Float := 0.0
  dropped : Nat := 0
  emitted : Nat := 0
  deriving Inhabited

/-- Writes a list position, failing past the end. -/
def setAt (xs : List Int) (i : Nat) (v : Int) : Outcome (List Int) :=
  if i < xs.length then .ok (xs.set i v)
  else .error (Fault.index "list assignment index out of range")

/-- Reads a list position, failing past the end. -/
def getAt (xs : List Int) (i : Nat) : Outcome Int :=
  match xs[i]? with
  | some v => .ok v
  | none => .error (Fault.index "list index out of range")

/-- What one pulse did to a receiver. A reported sweep goes out with the receiver as it stood at
that moment: hit counts and report count updated, the window not yet emptied. `final` is the
receiver once the pulse is taken, or as far as it got when `failure` is set; a record decoded in
a slot comes with it. -/
structure Passage where
  report : Option (Receiver × SweepTicks) := none
  final : Receiver
  record : Option (Nat × Calibration) := none
  failure : Option Fault := none

/-- Keeps a sweep pulse when it is its sensor's longest. -/
def SweepWindow.record (w : SweepWindow) (sensor : Nat) (timecode length : Int) : SweepWindow :=
  if w.lengths.getD sensor 0 < length then
    { w with lengths := w.lengths.set sensor length, times := w.times.set sensor timecode }
  else w

namespace Receiver

def create (channels : List Channel) (numSensors : Int) : Receiver :=
  let n := numSensors.toNat
  { channels, numSensors, sync := SyncTable.fresh channels.length,
    window := ⟨List.replicate n 0, List.replicate n 0, List.replicate n (0, 0)⟩ }

/-- The slot announced to sweep: the last one whose acode is set and does not skip. -/
def selectActive (s : SyncTable) : SyncTable :=
  let pick := (s.acode.zipIdx).foldl (fun (acc : Option (Nat × Int)) p =>
    if p.1 ≥ 0 ∧ !Acode.skips p.1 then some (p.2, p.1) else acc) none
  match pick with
  | some (i, a) =>
    { s with active := (i : Int), activeStart := s.start.getD i 0, activeAcode := a }
  | none => { s with active := -1, activeStart := 0, activeAcode := 0 }

def onSweep (r : Receiver) (timecode : Int) (sensor : Nat) (length : Int) : Receiver :=
  let sync := selectActive r.sync
  if sync.active < 0 then { r with sync }
  else { r with sync, window := r.window.record sensor timecode length }

/-- One more consecutive hit, or a miss, of a sensor on an axis. -/
def bumpHits (h : Nat × Nat) (axis : Int) (hit : Bool) : Nat × Nat :=
  if axis = 0 then (if hit then h.1 + 1 else 0, h.2) else (h.1, if hit then h.2 + 1 else 0)

/-- Ends the sweep: updates the hit counts and reports the kept pulses when the sweeping slot's
lighthouse is known. The window still holds the sweep; `clearWindow` empties it once the report
has gone out. -/
def reportSweep (r : Receiver) : Receiver × Option SweepTicks :=
  let lh := r.sync.active
  let axis := Acode.axis r.sync.activeAcode
  let start := r.sync.activeStart
  let w := r.window
  let hasData := w.lengths.any (· ≠ 0)
  let hits := if lh > -1 ∧ hasData then
      (w.hits.zip w.lengths).map fun (h, len) => bumpHits h axis (len ≠ 0)
    else w.hits
  let kept := ((w.lengths.zip w.times).zipIdx).filter (fun p => p.1.1 ≠ 0)
  let r := { r with window := { w with hits } }
  let report : Option SweepTicks :=
    if kept.isEmpty ∨ lh < 0 then none
    else match (r.channels[lh.toNat]?).bind Channel.lighthouse with
      | some cal => some {
          lighthouse := cal, slot := lh.toNat, axis, syncTime := start
          sensors := kept.map (·.2)
          sweepTimes := kept.map (·.1.2)
          angles := kept.map fun p => Ticks.timecodeDelta p.1.2 start + p.1.1 / 2
          lengths := kept.map (·.1.1) }
      | none => none
  match report with
  | some rep => ({ r with emitted := r.emitted + 1 }, some rep)
  | none => (r, none)

def clearWindow (r : Receiver) : Receiver :=
  let n := r.window.lengths.length
  { r with window := ⟨List.replicate n 0, List.replicate n 0, r.window.hits⟩ }

/-- Places a sync pulse in the flashes of the cycle. -/
def classify (s : SyncTable) (timecode length acode : Int) : Outcome SyncTable := do
  let gap := Ticks.timecodeDelta timecode s.recent
  if gap < sameCycleGap then
    let lh := s.current
    let s := { s with recent := timecode }
    if length > (← getAt s.maxLength lh) then
      pure { s with maxLength := ← setAt s.maxLength lh length,
                    start := ← setAt s.start lh (Ticks.wrap (timecode + length)),
                    acode := ← setAt s.acode lh acode }
    else pure s
  else if gap < secondLighthouseGap then
    let s := { s with active := -1, recent := timecode, current := 1 }
    pure { s with start := ← setAt s.start 1 timecode,
                  maxLength := ← setAt s.maxLength 1 (length + length),
                  acode := ← setAt s.acode 1 acode }
  else if gap > resetGap then
    let s := { SyncTable.fresh s.acode.length with recent := timecode }
    pure { s with start := ← setAt s.start 0 (Ticks.wrap (timecode + length)),
                  maxLength := ← setAt s.maxLength 0 length,
                  acode := ← setAt s.acode 0 acode }
  else pure s

/-- What `classify` has written when an index of the table fails, for a table whose lists have
one length: the time of the pulse, with the second slot and no active sweep for a gap that opens
the second slot, after a reset for a new cycle. -/
def classifyPrefix (s : SyncTable) (timecode : Int) : SyncTable :=
  let gap := Ticks.timecodeDelta timecode s.recent
  if gap < sameCycleGap then { s with recent := timecode }
  else if gap < secondLighthouseGap then { s with active := -1, recent := timecode, current := 1 }
  else if gap > resetGap then { SyncTable.fresh s.acode.length with recent := timecode }
  else s

def smoothOffset (offset : Float) (length : Int) : Float :=
  let fresh := (length + 250) % 500 - 250
  offset * 0.9 + Binary64.ofInt fresh * (1.0 - 0.9)

/-- A sync pulse: ends the sweep, places the pulse in a flash and feeds the flash's data bit
to its slot's decoder. -/
def onSync (r : Receiver) (timecode length : Int) : Passage :=
  let acode := decodeAcode length
  let r := { r with acodeOffset := smoothOffset r.acodeOffset length }
  let (r, report) := r.reportSweep
  let sent := report.map (r, ·)
  let r := r.clearWindow
  match classify r.sync timecode length acode with
  | .error f =>
    { report := sent, final := { r with sync := classifyPrefix r.sync timecode }, failure := some f }
  | .ok sync =>
    let r := { r with sync }
    let slot := sync.current
    match r.channels[slot]? with
    | some ch =>
      let (d, rec) := ch.decoder.feed (Acode.dataBit acode) timecode
      { report := sent, final := { r with channels := r.channels.set slot { ch with decoder := d } }
        record := rec.map (slot, ·) }
    | none => { report := sent, final := r }

def step (r : Receiver) (timecode : Int) (sensor : Int) (length : Int) : Passage :=
  if sensor < 0 ∨ sensor ≥ r.numSensors ∨ length > maxPulse then
    { final := { r with dropped := r.dropped + 1 } }
  else if length > syncThreshold then r.onSync timecode length
  else { final := r.onSweep timecode sensor.toNat length }

def identify (r : Receiver) (slot : Nat) (cal : Calibration) : Receiver :=
  { r with channels := r.channels.modify slot fun ch => { ch with lighthouse := some cal } }

end Receiver

end Lighthouse
