import Lighthouse.Binary64.Fused
import Lighthouse.Geometry.Transform
import Lighthouse.Linear.Broadcast
/-!
# Residual functions

Small residuals for least-squares problems. `difference x y` is `x - y` entry by entry over the
common shape of two arrays (`NumArray.broadcast`); `broadcast` is the same for two vectors,
where a vector of one entry stretches to the length of the other.
`planarRotation [θ] p q` is `R(θ) p - q` for the plane rotation `R(θ)`; each row of `R(θ) p` is
its first product fused into the rounded second one.
-/
namespace Lighthouse

def vectorShape (xs : List Float) : String := s!"({xs.length},)"

/-- Two vectors combined entry by entry, one of length one stretched to the other. -/
def broadcast (f : Float → Float → Float) (xs ys : List Float) : Outcome (List Float) :=
  if xs.length = ys.length then .ok ((xs.zip ys).map fun (a, b) => f a b)
  else if xs.length = 1 then .ok (ys.map fun b => f (xs.getD 0 0.0) b)
  else if ys.length = 1 then .ok (xs.map fun a => f a (ys.getD 0 0.0))
  else .error (Fault.value
    s!"operands could not be broadcast together with shapes {vectorShape xs} {vectorShape ys} ")

/-- The difference of the first two arguments, arrays stretched to a common shape. -/
def difference (args : List NumArray) : Outcome NumArray :=
  NumArray.broadcast (· - ·) (args.getD 0 (NumArray.vector [])) (args.getD 1 (NumArray.vector []))

/-- The plane rotation of the first entry of the first argument applied to the second argument,
minus the third. -/
def planarRotation (args : List (List Float)) : Outcome (List Float) := do
  let th := args.getD 0 []
  let p := args.getD 1 []
  let q := args.getD 2 []
  let t ← match th with
    | t :: _ => pure t
    | [] => .error (Fault.index "index 0 is out of bounds for axis 0 with size 0")
  let (p0, p1) ← match p with
    | [a, b] => pure (a, b)
    | _ => .error (Fault.value ("matmul: Input operand 1 has a mismatch in its core dimension 0, " ++
        "with gufunc signature (n?,k),(k,m?)->(n?,m?) " ++ s!"(size {p.length} is different from 2)"))
  let c := t.cos
  let s := t.sin
  let rp := [0.0 + Binary64.fusedMulAdd c p0 ((-s) * p1), 0.0 + Binary64.fusedMulAdd s p0 (c * p1)]
  broadcast (· - ·) rp q

end Lighthouse
