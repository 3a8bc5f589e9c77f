import Lighthouse.Json.Array
/-!
# Arrays combined entry by entry

`NumArray.broadcast f a b` combines two arrays entry by entry after stretching both to a common
shape. The shapes are aligned at their last dimensions; where one shape is shorter it counts as
having unit dimensions in front, a unit dimension stretches to the other size, and two other
sizes that differ do not combine. Reading an entry of the common shape in an operand is a flat
coordinate map (`stretchedIndex`): the digits of the position in the common shape, with the
digits of stretched dimensions dropped, are the position in the operand.

A fault of shapes shows them as `(2,2) (4,)`, with no blanks, and ends in a blank.
-/
namespace Lighthouse.NumArray

/-- The text of a shape in a fault of array shapes: `()`, `(4,)`, `(2,2)`. -/
def compactShape : List Nat → String
  | [n] => s!"({n},)"
  | ds => "(" ++ ",".intercalate (ds.map toString) ++ ")"

def shapeSize (s : List Nat) : Nat := s.foldl (· * ·) 1

/-- The shape `a` padded in front with unit dimensions to `n` dimensions. -/
def padShape (a : List Nat) (n : Nat) : List Nat := List.replicate (n - a.length) 1 ++ a

def commonShape (a b : List Nat) : Option (List Nat) :=
  let n := max a.length b.length
  ((padShape a n).zip (padShape b n)).mapM fun (x, y) =>
    if x = y then some x else if x = 1 then some y else if y = 1 then some x else none

/-- The position, in an array of shape `a`, of the entry at row-major position `i` of the common
shape `s`: dimensions are walked from the last, and a unit dimension of `a` stays at zero. -/
def stretchedIndex (a s : List Nat) (i : Nat) : Nat :=
  ((padShape a s.length).zip s).foldr (fun (da, ds) (acc : Nat × Nat × Nat) =>
    let (idx, rest, stride) := acc
    ((if da = 1 then idx else idx + rest % ds * stride), rest / ds, stride * da)) (0, i, 1) |>.1

/-- Two arrays combined entry by entry over their common shape. -/
def broadcast (f : Float → Float → Float) (a b : NumArray) : Outcome NumArray :=
  match commonShape a.shape b.shape with
  | none => .error (Fault.value ("operands could not be broadcast together with shapes " ++
      s!"{compactShape a.shape} {compactShape b.shape} "))
  | some s =>
    let entry := fun (x : NumArray) (i : Nat) => x.values.getD (stretchedIndex x.shape s i) 0.0
    .ok ⟨s, (List.range (shapeSize s)).map fun i => f (entry a i) (entry b i)⟩

end Lighthouse.NumArray
