import Lighthouse.Session
import Lighthouse.Log.Replay
import Lighthouse.Linear.Products
import Lighthouse.Json.Array
import Lighthouse.Decimal.Text
/-!
# Errors against recorded true transforms

A simulated log records the true transform of each lighthouse in a `ground_truth` event, an
object from serials to values. After a replay, each value recorded for a configured lighthouse
is read as an array and taken from the lighthouse's six-entry transform, entry by entry with
broadcasting. The lengths of the first three and of the remaining rows along the first axis of
the difference are printed as the translation and rotation errors.

A recorded value read as an array has a shape and an element type: numbers (a boolean counts as
0 or 1); texts when any element is a text, numbers then standing as texts of a fixed width; or
objects when any element is null or an object. A difference with texts fails for want of a loop
over them. A shape whose last dimension is neither 1 nor 6 fails to broadcast. A difference
with objects fails at the first element, in row-major order, that is not a number. An integer
too large for a float cannot be read among floats, and among integers it fails when it is
reached in the difference.
-/
namespace Lighthouse.Cli

mutual

/-- The scalars of a nested list in row-major order. -/
def leaves : Json → List Json
  | .arr xs => leavesOf xs
  | j => [j]

/-- The scalars of the items, in order. -/
def leavesOf : List Json → List Json
  | [] => []
  | x :: xs => leaves x ++ leavesOf xs

end

/-- The characters a scalar takes in an array of texts: the text's own length, and for a number
the width its type is given. -/
def textWidth : Json → Nat
  | .int _ => 21
  | .float _ => 32
  | .bool _ => 5
  | .str s => s.length
  | _ => 0

def isObject : Json → Bool
  | .null => true
  | .obj _ => true
  | _ => false

/-- A shape as a failed broadcast shows it: `(6,)`, `(2,3)`, `()`. -/
def shapeTight : List Nat → String
  | [n] => s!"({n},)"
  | ds => "(" ++ ",".intercalate (ds.map toString) ++ ")"

/-- The fault of an integer that rounds past the largest finite float. -/
def overflowFault : Fault := Fault.overflow "int too large to convert to float"

/-- Whether a scalar is an integer too large for a float. -/
def isHugeInt : Json → Bool
  | .int n => (Binary64.ofInt n).isInf
  | _ => false

/-- One entry of a difference: a transform entry less a scalar. -/
def entryLess (x : Float) (j : Json) : Outcome Float :=
  match j with
  | .int n => if isHugeInt j then .error overflowFault else .ok (x - Binary64.ofInt n)
  | .float y => .ok (x - y)
  | .bool b => .ok (x - if b then 1.0 else 0.0)
  | other => .error (Fault.type
      s!"unsupported operand type(s) for -: \x27float\x27 and \x27{Json.typeName other}\x27")

/-- The difference of a transform's six entries and a recorded value, broadcast: its shape and
its entries in row-major order. -/
def difference (t : List Float) (v : Json) : Outcome (List Nat × List Float) := do
  let shape ← match scanShape v with
    | .ragged d => .error (NumArray.inhomogeneous d)
    | .uniform d => pure d
  let ls := leaves v
  let isText := fun (j : Json) => match j with | .str _ => true | _ => false
  let isFloat := fun (j : Json) => match j with | .float _ => true | _ => false
  if !ls.any isObject && !ls.any isText && ls.any isFloat && ls.any isHugeInt then
    .error overflowFault
  if !ls.any isObject && ls.any isText then
    let width := ls.foldl (fun m j => max m (textWidth j)) 0
    .error ⟨.ufuncType, "ufunc \x27subtract\x27 did not contain a loop with signature matching " ++
      s!"types (dtype(\x27float64\x27), dtype(\x27<U{width}\x27)) -> None"⟩
  let last := shape.getLast?.getD 1
  if last ≠ 1 ∧ last ≠ 6 then
    .error (Fault.value
      s!"operands could not be broadcast together with shapes (6,) {shapeTight shape} ")
  let rows := (shape.dropLast).foldl (· * ·) 1
  let values ← (List.range (rows * 6)).mapM fun k =>
    let column := k % 6
    entryLess (t.getD column 0.0)
      (ls.getD ((k / 6) * last + (if last = 6 then column else 0)) .null)
  pure ((if shape.isEmpty then [6] else shape.dropLast ++ [6]), values)

/-- The error line of one recorded true transform of a configured lighthouse. -/
def truthLine (serial : String) (t : Transform) (truth : Json) : Outcome String := do
  let (shape, err) ← difference t.toList truth
  let rowSize := (shape.drop 1).foldl (· * ·) 1
  let (first, rest) := err.splitAt (3 * rowSize)
  pure ("error " ++ serial ++ ": translation " ++ Decimal.fixed 4 (Linear.norm first) ++
    " m, rotation " ++ Decimal.fixed 4 (Linear.norm rest) ++ " rad\n")

/-- The error lines of the recorded true transforms, in log order, for configured lighthouses.
A `ground_truth` event whose data is not an object fails. -/
def truthLines (s : Session) (r : PulseReplay) : Outcome String :=
  (r.events.filter (·.eventType == "ground_truth")).foldlM (fun out e =>
    match e.data with
    | .obj fs => fs.foldlM (fun out (serial, truth) =>
        match s.lighthouses.find? (·.serial == serial) with
        | none => .ok out
        | some lh => do pure (out ++ (← truthLine serial lh.transform truth))) out
    | other => .error ⟨.attribute,
        s!"\x27{Json.typeName other}\x27 object has no attribute \x27items\x27"⟩) ""

end Lighthouse.Cli
