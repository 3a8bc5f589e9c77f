import Lighthouse.Binary64.Fused
/-!
# The two-argument arctangent of the vector library

Arrays get `atan2 (y, x)` from a vector routine, not from the scalar one. Its result is within
one unit of the exact angle but is not always the nearer neighbour, because it is a rounded
constant plus a correction that is itself rounded first. `arcTangent2` follows that order.

The quotient of `|y|` and `|x|` is reduced against one of the constants `0`, `atan (1/2)`, `π/4`,
`atan (3/2)`, `π/2` or `π` (`reducedQuotient`), its numerator and denominator each rounded once;
`atan s - s` is taken correctly rounded from `s²` (`arctanTail`), and the constant is added last.
Zeros, infinities, NaN and operands whose exponents are at the ends of the range take the scalar
arctangent, as the routine hands them on.
-/
namespace Lighthouse.Binary64

/-- `atan (1/2)` rounded. -/
def halfArctanHigh : Float := Float.ofBits 0x3FDDAC670561BB4F

/-- What `atan (1/2)` exceeds its rounded value by, rounded. -/
def halfArctanLow : Float := Float.ofBits 0x3C7A2B7F222F65E2

/-- `atan (3/2)` rounded. -/
def threeHalvesArctanHigh : Float := Float.ofBits 0x3FEF730BD281F69B

/-- What `atan (3/2)` exceeds its rounded value by, rounded. -/
def threeHalvesArctanLow : Float := Float.ofBits 0x3C7007887AF0CBBD

/-- `π/4` rounded. -/
def quarterPiHigh : Float := Float.ofBits 0x3FE921FB54442D18

/-- What `π/4` exceeds its rounded value by, rounded. -/
def quarterPiLow : Float := Float.ofBits 0x3C81A62633145C07

/-- `π/2` rounded. -/
def halfPiHigh : Float := Float.ofBits 0x3FF921FB54442D18

/-- What `π/2` exceeds its rounded value by, rounded. -/
def halfPiLow : Float := Float.ofBits 0x3C91A62633145C07

/-- `π` rounded. -/
def piHigh : Float := Float.ofBits 0x400921FB54442D18

/-- What `π` exceeds its rounded value by, rounded. -/
def piLow : Float := Float.ofBits 0x3CA1A62633145C07

/-- The binary64 value nearest to the rational `n / d` (`d > 0`). -/
def nearestOf (n : Int) (d : Nat) : Float := ofRatio (n < 0) n.natAbs d

/-- The exact value of a finite float as a signed numerator over a power of two. -/
def signedRatio (x : Float) : Int × Nat :=
  let r := toRatio x
  ((if r.1 then -(r.2.1 : Int) else r.2.1), r.2.2)

/-- Fractional bits of the fixed-point sum in `arctanTail`. -/
def tailBits : Nat := 128

/-- `Σ_{n<140} cₙ vⁿ` in units of `2^-128`, for `v` given in those units, where `c₀ = 1` and
`cₙ = cₙ₋₁ · 2n/(2n+1)`. Each term is cut down to the unit, and for `v ≤ 1/2` the terms left out
are below `2^-139`. -/
def eulerSum (v : Nat) : Nat :=
  let one := Nat.pow 2 tailBits
  ((List.range 139).foldl (fun (acc : Nat × Nat) k =>
    let n := k + 1
    let t := acc.2 * v * (2 * n) / ((2 * n + 1) * one)
    (acc.1 + t, t)) (one, one)).1

/-- `(atan s - s)/s` rounded, for `s² = u = n/d` with `0 < u ≤ 1`. With `v = u/(1+u)`,
`atan s / s = (1/(1+u)) · Σ cₙ vⁿ` (Euler's series), summed in fixed point. Below `u = 2^-40` the
three terms `-u/3 + u²/5 - u³/7` are exact enough and are used instead. -/
def arctanTailOf (n d : Nat) : Float :=
  if Nat.pow 2 40 * n < d then
    ofRatio true (35 * n * d * d + 15 * n * n * n - 21 * n * n * d) (105 * d * d * d)
  else
    let one := Nat.pow 2 tailBits
    let sum := eulerSum (n * one / (n + d))
    ofRatio true ((n + d) * one - sum * d) ((n + d) * one)

/-- `(atan s - s)/s` rounded, read from the rounded square of a double `s` with `|s| ≤ 1`; zero
for `s = 0`. -/
def arctanTail (s : Float) : Float :=
  let r := toRatio (s * s)
  if r.2.1 = 0 then 0.0 else arctanTailOf r.2.1 r.2.2

/-- Whether a finite operand lies where the routine hands it on: an exponent field below 3 or
from `0x7E0` on. -/
def beyondVectorRange (v : Float) : Bool :=
  let field := (v.toBits.toNat >>> 52) % 2048
  field < 3 ∨ 0x7E0 ≤ field

/-- For `a = |y|`, `b = |x|` and the sign of `x`: the numerator and the denominator of the
reduced value `s`, each rounded once, and the constant as a pair. The ranges of `t = a/b` are
told apart exactly. -/
def reducedQuotient (a b : Float) (xNegative : Bool) : Float × Float × Float × Float :=
  let ra := toRatio a
  let rb := toRatio b
  -- `t = ab / ba`
  let ab := ra.2.1 * rb.2.2
  let ba := rb.2.1 * ra.2.2
  if xNegative then
    if ab < ba then (-a, b, piHigh, piLow) else (b, a, halfPiHigh, halfPiLow)
  else if 16 * ab < 7 * ba then (a, b, 0.0, 0.0)
  else if 16 * ab < 11 * ba then (a - 0.5 * b, b + 0.5 * a, halfArctanHigh, halfArctanLow)
  else if 16 * ab < 19 * ba then (a - b, b + a, quarterPiHigh, quarterPiLow)
  else if 16 * ab < 39 * ba then
    (fusedMulAdd (-1.5) b a, fusedMulAdd 1.5 a b, threeHalvesArctanHigh, threeHalvesArctanLow)
  else (-b, a, halfPiHigh, halfPiLow)

/-- `atan2 (y, x)` as the vector routine computes it. -/
def arcTangent2 (y x : Float) : Float :=
  if y == 0.0 ∨ x == 0.0 ∨ y.isNaN ∨ x.isNaN ∨ y.isInf ∨ x.isInf ∨ beyondVectorRange y ∨
      beyondVectorRange x then Float.atan2 y x
  else
    let (num, den, hi, lo) := reducedQuotient y.abs x.abs (x < 0.0)
    let (nn, nd) := signedRatio num
    let (dn, dd) := signedRatio den
    -- `s = num / den = (nn · dd) / (nd · dn)`, the denominator being positive
    let sn := nn * dd
    let sd := nd * dn.toNat
    let sh := nearestOf sn sd
    let (hn, hd) := signedRatio sh
    -- `sl` is what `sh` misses of `s`
    let sl := nearestOf (sn * hd - hn * sd) (sd * hd)
    let small := fusedMulAdd sh (arctanTail sh) (sl + lo)
    let r := hi + (sh + small)
    if y < 0.0 then -r else r

end Lighthouse.Binary64
