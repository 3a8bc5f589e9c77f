import Lighthouse.Json.Coerce
/-!
# Numeric arrays read from documents

Sensor tables and poses arrive as nested lists. `NumArray.ofJson` reads one as a rectangular
array of floats: a scalar is an array of no dimensions, a list adds a dimension in front of the
common shape of its items, `null` reads as NaN and a text must hold a decimal. Items of
different shapes make the array ragged; the fault names the dimensions agreed on so far.
-/
namespace Lighthouse

/-- A rectangular array of floats: its shape and its values in row-major order. -/
structure NumArray where
  shape : List Nat
  values : List Float
  deriving Inhabited

/-- How far items of a nested list agree on a shape. -/
inductive ShapeScan where
  /-- Every branch has this shape. -/
  | uniform (dims : List Nat)
  /-- Branches agree on these leading dimensions only. -/
  | ragged (dims : List Nat)

namespace ShapeScan

def dims : ShapeScan → List Nat
  | .uniform d => d
  | .ragged d => d

def commonPrefix : List Nat → List Nat → List Nat
  | a :: as, b :: bs => if a = b then a :: commonPrefix as bs else []
  | _, _ => []

/-- Items combined: uniform when all are uniform of one shape. -/
def combine (n : Nat) (items : List ShapeScan) : ShapeScan :=
  match items with
  | [] => .uniform [n]
  | first :: rest =>
    let allSame := rest.all fun s => match first, s with
      | .uniform a, .uniform b => a == b
      | _, _ => false
    match first with
    | .uniform d => if allSame then .uniform (n :: d)
      else .ragged (n :: rest.foldl (fun acc s => commonPrefix acc s.dims) d)
    | .ragged d => .ragged (n :: rest.foldl (fun acc s => commonPrefix acc s.dims) d)

end ShapeScan

mutual

def scanShape : Json → ShapeScan
  | .arr xs => ShapeScan.combine xs.length (scanItems xs)
  | _ => .uniform []

def scanItems : List Json → List ShapeScan
  | [] => []
  | x :: xs => scanShape x :: scanItems xs

end

/-- The text of a shape: `()`, `(3,)`, `(2, 7)`. -/
def shapeText : List Nat → String
  | [] => "()"
  | [n] => s!"({n},)"
  | ds => "(" ++ ", ".intercalate (ds.map toString) ++ ")"

/-- A scalar of an array: a number, a boolean, `null` as NaN, or a text holding a decimal. -/
def scalarOf (j : Json) : Outcome Float :=
  match j with
  | .null => .ok (Float.ofBits 0x7FF8000000000000)
  | .obj _ => .error (Fault.type "float() argument must be a string or a real number, not 'dict'")
  | other => other.toFloat

mutual

/-- The values of a nested list in row-major order. -/
def flatValues : Json → Outcome (List Float)
  | .arr xs => flatItems xs
  | j => (scalarOf j).map fun x => [x]

/-- The values of the items, in order. -/
def flatItems : List Json → Outcome (List Float)
  | [] => .ok []
  | x :: xs => do
    let a ← flatValues x
    let b ← flatItems xs
    pure (a ++ b)

end

namespace NumArray

/-- The fault of a nested list whose branches agree only on the leading dimensions `d`. -/
def inhomogeneous (d : List Nat) : Fault :=
  Fault.value ("setting an array element with a sequence. The requested array has an " ++
    s!"inhomogeneous shape after {d.length} dimensions. The detected shape was {shapeText d} + " ++
    "inhomogeneous part.")

def ofJson (j : Json) : Outcome NumArray :=
  match scanShape j with
  | .ragged d => .error (inhomogeneous d)
  | .uniform d => do pure ⟨d, ← flatValues j⟩

def size (a : NumArray) : Nat := a.values.length

def vector (xs : List Float) : NumArray := ⟨[xs.length], xs⟩

/-- Values laid out in a shape as nested lists, a single number for no dimensions. -/
def nested : List Nat → List Float → Json
  | [], vs => .float (vs.getD 0 0.0)
  | [n], vs => .arr ((vs.take n).map .float)
  | d :: ds, vs =>
    let w := ds.foldl (· * ·) 1
    .arr ((List.range d).map fun i => nested ds ((vs.drop (i * w)).take w))

/-- An array as a document: nested lists of its shape, a number when it has no dimensions. -/
def toJson (a : NumArray) : Json := nested a.shape a.values

/-- The two-dimensional array of the given rows; with no rows it has `width` columns. -/
def ofRows (rows : List (List Float)) (width : Nat) : NumArray :=
  ⟨[rows.length, (rows.head?.map List.length).getD width], rows.flatten⟩

def rows (a : NumArray) : List (List Float) :=
  match a.shape with
  | [r, c] => (List.range r).map fun i => (a.values.drop (i * c)).take c
  | _ => []

end NumArray

end Lighthouse
