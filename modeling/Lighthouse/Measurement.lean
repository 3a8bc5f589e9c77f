import Lighthouse.Light
/-!
# Measurements and time bins

While a session records, each accepted `Light` is stamped with the session clock and kept in a
`Store`. A solve takes them all at once (`Store.drain`) and groups their angles by tracker,
lighthouse, time bin, sensor and axis (`Bundle.ofMeasurements`): the bin of a timestamp is the
nearest multiple of the resolution, a half going to the even multiple, and every cell keeps its
angles in arrival order.
-/
namespace Lighthouse

/-- A light stamped with the session clock on arrival, in seconds. -/
structure Measurement where
  timestamp : Float
  light : Light
  deriving Inhabited

/-- Lights kept while recording. -/
structure Store where
  recording : Bool := false
  items : List Measurement := []
  deriving Inhabited

namespace Store

def start (_ : Store) : Store := { recording := true, items := [] }

/-- Keeps a measurement when recording; tells whether it was kept. -/
def add (s : Store) (m : Measurement) : Store × Bool :=
  if s.recording then ({ s with items := s.items ++ [m] }, true) else (s, false)

def drain (s : Store) : Store × List Measurement := ({}, s.items)

def size (s : Store) : Nat := s.items.length

end Store

/-- The nearest integer to a finite float, a half going to the even one, as a float. -/
def roundToEven (x : Float) : Float := Binary64.ofInt (Binary64.roundHalfEven x)

/-- The time bin of a timestamp: the nearest multiple of the resolution. -/
def timeBin (t res : Float) : Outcome Float :=
  if res == 0.0 then .error ⟨.zeroDivision, "float division by zero"⟩
  else
    let q := t / res
    if q.isNaN then .error (Fault.value "cannot convert float NaN to integer")
    else if q.isInf then .error (Fault.overflow "cannot convert float infinity to integer")
    else .ok (roundToEven q * res)

/-- The angles of one tracker, lighthouse, bin, sensor and axis. -/
structure Cell where
  tracker : String
  lighthouse : String
  bin : Float
  sensor : Int
  axis : Int
  angles : List Float
  deriving Inhabited

/-- Whether a cell has the given keys (bins compare as numbers). -/
def Cell.at (c : Cell) (tracker lighthouse : String) (bin : Float) (sensor axis : Int) : Bool :=
  c.tracker == tracker && c.lighthouse == lighthouse && c.bin == bin && c.sensor == sensor &&
    c.axis == axis

/-- Cells in order of first appearance; no two share their five keys. -/
abbrev Bundle := List Cell

namespace Bundle

/-- Appends an angle to its cell, opening the cell when new. -/
def add (b : Bundle) (tracker lighthouse : String) (bin : Float) (sensor axis : Int)
    (angle : Float) : Bundle :=
  if b.any (Cell.at · tracker lighthouse bin sensor axis) then
    b.map fun c => if c.at tracker lighthouse bin sensor axis then
      { c with angles := c.angles ++ [angle] } else c
  else b ++ [⟨tracker, lighthouse, bin, sensor, axis, [angle]⟩]

/-- Groups measurements; a resolution at or below zero is refused (NaN passes, and fails when a
time is binned). -/
def ofMeasurements (ms : List Measurement) (res : Float) : Outcome Bundle :=
  if res ≤ 0.0 then
    .error (Fault.value s!"resolution must be positive, got {Json.floatShown res}")
  else
    ms.foldlM (fun b m => do
      let t ← timeBin m.timestamp res
      pure (m.light.pulses.foldl (fun b p =>
        b.add m.light.tracker m.light.lighthouse t p.sensor m.light.axis p.angle) b)) []

/-- Sorts floats in increasing order. -/
def sortFloats (xs : List Float) : List Float := xs.mergeSort (fun a b => a ≤ b)

/-- Distinct floats in increasing order. -/
def distinctSorted (xs : List Float) : List Float :=
  (sortFloats xs).foldr (fun x acc => match acc with
    | y :: _ => if x == y then acc else x :: acc
    | [] => [x]) []

/-- The bins that hold angles of a tracker and lighthouse, in increasing order. -/
def bins (b : Bundle) (tracker lighthouse : String) : List Float :=
  distinctSorted ((b.filter fun c => c.tracker == tracker && c.lighthouse == lighthouse).map
    Cell.bin)

/-- The sensors with angles in a bin, in increasing order. -/
def sensors (b : Bundle) (tracker lighthouse : String) (bin : Float) : List Int :=
  ((b.filter fun c => c.tracker == tracker && c.lighthouse == lighthouse && c.bin == bin).map
    Cell.sensor).eraseDups.mergeSort (fun x y => x ≤ y)

def angles? (b : Bundle) (tracker lighthouse : String) (bin : Float) (sensor axis : Int) :
    Option (List Float) :=
  (b.find? (Cell.at · tracker lighthouse bin sensor axis)).map Cell.angles

/-- The cells sorted by tracker, lighthouse, bin, sensor and axis. -/
def sorted (b : Bundle) : List Cell :=
  b.mergeSort fun x y =>
    if x.tracker != y.tracker then x.tracker < y.tracker
    else if x.lighthouse != y.lighthouse then x.lighthouse < y.lighthouse
    else if !(x.bin == y.bin) then x.bin < y.bin
    else if x.sensor != y.sensor then x.sensor < y.sensor
    else x.axis ≤ y.axis

end Bundle

/-- The mean of a list of floats, summed from the left. -/
def mean (xs : List Float) : Float := xs.foldl (· + ·) 0.0 / Binary64.ofInt xs.length

/-- The mean angles of one sensor on both axes, when both have samples. -/
def meanAngles (axis0 axis1 : Option (List Float)) : Option (Float × Float) :=
  match axis0, axis1 with
  | some (a :: as), some (b :: bs) => some (mean (a :: as), mean (b :: bs))
  | _, _ => none

end Lighthouse
