import Lighthouse.Random.Pcg
/-!
# Uniform and normal draws

`uniform lo width` is `lo + width · u` for the next double `u` in `[0, 1)`.

Standard normal draws use a ziggurat of 256 layers: the area under the density is cut into a
base strip (with the tail beyond `r`) and 255 horizontal layers of equal area `v`. A draw takes
one 64-bit word: its low eight bits pick a layer, the next bit the sign and the next 52 bits a
position `x` across the layer's width. Below the layer's inner edge (`ki`) the point lies under
the density and `x` is returned at once, which is almost always the case. Otherwise the base
strip samples the tail beyond `r` by Marsaglia's exponential method, and any other layer keeps
`x` when a uniform height in its wedge falls under the density; a rejected draw starts again.

The layer edges come from the usual recursion down from `x₂₅₅ = r`:
`xᵢ₋₁ = √(-2 ln (v / xᵢ + f(xᵢ)))` with `f(x) = e^(-x²/2)`, in binary64.
-/
namespace Lighthouse.Random

/-- The right end of the last layer, where the tail begins. -/
def zigguratR : Float := 3.6541528853610088

/-- The area of each layer. -/
def zigguratV : Float := 0.004928673233974652

/-- The tables of the ziggurat: the inner-edge thresholds `ki` (52-bit integers), the width
scales `wi` and the density values `fi` at the layer edges. -/
structure Ziggurat where
  ki : Array Nat
  wi : Array Float
  fi : Array Float

/-- The density without its normalisation, `e^(-x²/2)`. -/
def bell (x : Float) : Float := Float.exp (-0.5 * x * x)

/-- The ziggurat's tables, built down from the last layer. -/
def ziggurat : Ziggurat :=
  let m1 : Float := 4503599627370496.0
  let dn := zigguratR
  let vn := zigguratV
  let q := vn / bell dn
  let ki := ((Array.replicate 256 0).set! 0 ((dn / q) * m1).toUInt64.toNat).set! 1 0
  let wi := ((Array.replicate 256 0.0).set! 0 (q / m1)).set! 255 (dn / m1)
  let fi := ((Array.replicate 256 0.0).set! 0 1.0).set! 255 (bell dn)
  let (z, _, _) := (List.range 254).foldl (fun (acc : Ziggurat × Float × Float) k =>
    let (z, dn, tn) := acc
    let i := 254 - k
    let dn := (-2.0 * Float.log (vn / dn + bell dn)).sqrt
    ({ ki := z.ki.set! (i + 1) ((dn / tn) * m1).toUInt64.toNat
       fi := z.fi.set! i (bell dn)
       wi := z.wi.set! i (dn / m1) }, dn, dn)) ({ ki, wi, fi }, dn, dn)
  z

/-- The next draw of `lo + width · u`, `u` uniform in `[0, 1)`. -/
def uniform (lo width : Float) (g : Pcg) : Float × Pcg :=
  let (u, g) := g.nextDouble
  (lo + width * u, g)

/-- A point of the tail beyond `r`, by pairs of exponential draws until one is accepted, at
most `fuel` pairs; the sign comes from a bit of the word that chose the base strip. -/
def tailDraw (negative : Bool) (g : Pcg) : Nat → Float × Pcg
  | 0 => (if negative then -zigguratR else zigguratR, g)
  | fuel + 1 =>
    let (u1, g) := g.nextDouble
    let (u2, g) := g.nextDouble
    let xx := -(1.0 / zigguratR) * Float.log (1.0 - u1)
    let yy := -Float.log (1.0 - u2)
    if yy + yy > xx * xx then (if negative then -(zigguratR + xx) else zigguratR + xx, g)
    else tailDraw negative g fuel

/-- A standard normal draw, retrying a rejected point at most `fuel` times. -/
def standardNormal (g : Pcg) : Nat → Float × Pcg
  | 0 => (0.0, g)
  | fuel + 1 =>
    let z := ziggurat
    let (w, g) := g.next
    let idx := w % 256
    let r := w >>> 8
    let rabs := (r >>> 1) % Nat.pow 2 52
    let x := Float.ofNat rabs * z.wi.getD idx 0.0
    let x := if r % 2 = 1 then -x else x
    if rabs < z.ki.getD idx 0 then (x, g)
    else if idx = 0 then tailDraw ((rabs >>> 8) % 2 = 1) g 64
    else
      let (u, g) := g.nextDouble
      let lo := z.fi.getD idx 0.0
      if (z.fi.getD (idx - 1) 0.0 - lo) * u + lo < bell x then (x, g)
      else standardNormal g fuel

/-- The next draw of a normal variable with mean `loc` and deviation `scale`. -/
def normal (loc scale : Float) (g : Pcg) : Float × Pcg :=
  let (z, g) := standardNormal g 64
  (loc + scale * z, g)

end Lighthouse.Random
