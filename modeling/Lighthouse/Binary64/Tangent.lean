import Lighthouse.Binary64.Fused
import Lighthouse.Binary64.Reciprocal
/-!
# The tangent of the vector library

Arrays get their tangent from a vector routine, not from the scalar one. Its result is within
one unit of the exact tangent but is not always the nearer neighbour, and the pose estimator's
image points depend on which neighbour it gives, so `tangent` follows the routine step by step.

The argument is reduced exactly by multiples of `π/16`, or beyond `128000` through its fraction
of a turn (`wideReduction`). The tangent of the remainder comes from a polynomial, that of the
sector from a stored pair, and the two are joined by the addition formula with numerator and
denominator carried as pairs; the quotient starts from a refined reciprocal estimate and is
corrected once by its residual. Infinities and NaN take the scalar tangent.
-/
namespace Lighthouse.Binary64

/-- `16/π`, rounded. -/
def sixteenOverPi : Float := Float.ofBits 0x40145F306DC9C883

/-- `1.5 · 2^52`: adding it and taking it away rounds a small value to an integer. -/
def roundingShift : Float := Float.ofBits 0x4338000000000000

/-- `π/16` rounded: the first of its three parts. -/
def sixteenthPiHigh : Float := Float.ofBits 0x3FC921FB54442D18

/-- What `π/16` exceeds its first part by, rounded. -/
def sixteenthPiMiddle : Float := Float.ofBits 0x3C61A62633145C06

/-- What `π/16` exceeds its first two parts by, rounded. -/
def sixteenthPiLow : Float := Float.ofBits 0x391C1CD129024E09

/-- The polynomial `p` of `tan r ≈ r + r³·p(r²)` on `|r| ≤ π/32`, by Horner's rule with fused
steps from the highest coefficient. -/
def tangentPolynomial (r2 : Float) : Float :=
  let c0 := Float.ofBits 0x3FD55555555555DC
  let c1 := Float.ofBits 0x3FC11111110B0802
  let c2 := Float.ofBits 0x3FABA1BA489D25CA
  let c3 := Float.ofBits 0x3F9664AB664EFBA9
  let c4 := Float.ofBits 0x3F825CCCC7C9FA5D
  fusedMulAdd (fusedMulAdd (fusedMulAdd (fusedMulAdd c4 r2 c3) r2 c2) r2 c1) r2 c0

/-- `tan (kπ/16)` rounded, for `k = 0 … 15`; the pole `k = 8` holds the largest double, negated. -/
def sectorTangentHigh : Array Float :=
  #[Float.ofBits 0x8000000000000000, Float.ofBits 0x3FC975F5E0553158,
    Float.ofBits 0x3FDA827999FCEF32, Float.ofBits 0x3FE561B82AB7F990,
    Float.ofBits 0x3FF0000000000000, Float.ofBits 0x3FF7F218E25A7461,
    Float.ofBits 0x4003504F333F9DE6, Float.ofBits 0x40141BFEE2424771,
    Float.ofBits 0xFFEFFFFFFFFFFFFF, Float.ofBits 0xC0141BFEE2424771,
    Float.ofBits 0xC003504F333F9DE6, Float.ofBits 0xBFF7F218E25A7461,
    Float.ofBits 0xBFF0000000000000, Float.ofBits 0xBFE561B82AB7F990,
    Float.ofBits 0xBFDA827999FCEF32, Float.ofBits 0xBFC975F5E0553158]

/-- What `tan (kπ/16)` exceeds its rounded value by, rounded; zero where the rounding is exact
and at the pole. -/
def sectorTangentLow : Array Float :=
  #[0.0, Float.ofBits 0x3C2EF5D367441946, Float.ofBits 0x3C708B2FB1366EA9,
    Float.ofBits 0x3C87A8C52172B675, 0.0, Float.ofBits 0x3C9419FA6954928F,
    Float.ofBits 0x3CA21165F626CDD5, Float.ofBits 0x3C810706FED37F0E, 0.0,
    Float.ofBits 0xBC810706FED37F0E, Float.ofBits 0xBCA21165F626CDD5,
    Float.ofBits 0xBC9419FA6954928F, 0.0, Float.ofBits 0xBC87A8C52172B675,
    Float.ofBits 0xBC708B2FB1366EA9, Float.ofBits 0xBC2EF5D367441946]

/-- The reduced argument of `x` near `n·π/16` as a pair `(rh, rl)`. The first difference is
exact, since `x` and `n` times the first part are multiples of the first part's unit and
their difference is small. -/
def reducedArgument (x n : Float) : Float × Float :=
  let r1 := fusedMulAdd (-n) sixteenthPiHigh x
  let rh := fusedMulAdd (-n) sixteenthPiMiddle r1
  let rl := fusedMulAdd (-n) sixteenthPiLow (fusedMulAdd (-n) sixteenthPiMiddle (r1 - rh))
  (rh, rl)

/-- `tan r` for `r = rh + rl`, `|r| ≤ π/32`, as a pair: the rounded sum of `rh` and the small
part `rl + rh³·p(rh²)`, and what that sum misses. Since `|s| < |rh|`, `(rh - th) + s` is exact. -/
def reducedTangent (rh rl : Float) : Float × Float :=
  let r2 := rh * rh
  let s := fusedMulAdd r2 (tangentPolynomial r2 * rh) rl
  let th := rh + s
  (th, (rh - th) + s)

/-- `(bh + bl + th + tl) / (1 - (bh + bl) · (th + tl))`: the numerator and denominator as
pairs, then the refined reciprocal estimate and one correction by the residual. -/
def sumTangent (bh bl th tl : Float) : Float :=
  let nh := bh + th
  -- `|bh| ≥ |th|`, so `(bh - nh) + th` is what the rounded sum missed
  let nl := ((bh - nh) + th) + (bl + tl)
  let dh := fusedMulAdd (-bh) th 1.0
  let dl := fusedMulAdd (-bl) th (fusedMulAdd (-bh) tl (fusedMulAdd (-bh) th (1.0 - dh)))
  let r0 := reciprocalEstimate dh
  let rcp := fusedMulAdd (fusedMulAdd (-r0) dh 1.0) r0 r0
  let q := nh * rcp
  let e := fusedMulAdd q dl (fusedMulAdd q dh (-nh)) - nl
  fusedMulAdd (-rcp) e q

/-- `1/(2π)` to 1216 bits, as the integer `⌊2^1216 / (2π)⌋` in 64-bit words, highest first. -/
def inverseTwoPiWords : List Nat :=
  [0x28BE60DB9391054A, 0x7F09D5F47D4D3770, 0x36D8A5664F10E410, 0x7F9458EAF7AEF158,
   0x6DC91B8E909374B8, 0x01924BBA82746487, 0x3F877AC72C4A69CF, 0xBA208D7D4BAED121,
   0x3A671C09AD17DF90, 0x4E64758E60D4CE7D, 0x272117E2EF7E4A0E, 0xC7FE25FFF7816603,
   0xFBCBC462D6829B47, 0xDB4D9FB3C9F2C26D, 0xD3D18FD9A797FA8B, 0x5D49EEB1FAF97C5E,
   0xCF41CE7DE294A4BA, 0x9AFED7EC47E35742, 0x1580CC11BF1EDAEA]

/-- `⌊2^1216 / (2π)⌋`. -/
def inverseTwoPiScaled : Nat := inverseTwoPiWords.foldl (fun acc w => acc * Nat.pow 2 64 + w) 0

/-- The 192 bits of `1/(2π)` that meet a significand whose exponent field is `e`:
`⌊2^(192 + e - 1075) / (2π)⌋` with the bits of a whole turn and more dropped. -/
def inverseTwoPiWindow (e : Nat) : Nat := (inverseTwoPiScaled >>> (2099 - e)) % Nat.pow 2 192

/-- The top 128 bits of the fraction of a turn in `m · 2^(e-1075)`, from the product of the
significand `m` with the window of `1/(2π)` in 32-bit columns, the two lowest columns left out:
the high halves of their partial products are kept but no carry comes from their low halves. -/
def turnFraction (m e : Nat) : Nat :=
  let t := inverseTwoPiWindow e
  let w := Nat.pow 2 32
  let t2 := t % (w * w)
  let lowest := ((m / w * (t2 % w)) % w + (m % w * (t2 / w)) % w) * w + m % w * (t2 % w)
  ((m * t - lowest) / (w * w)) % Nat.pow 2 128

/-- `1.5 · 2^43`: adding it rounds a value near one to a multiple of `2^-9`. -/
def turnShift : Float := Float.ofBits 0x42A8000000000000

/-- `2π` rounded. -/
def twoPiHigh : Float := Float.ofBits 0x401921FB54442D18

/-- What `2π` exceeds its rounded value by, rounded. -/
def twoPiLow : Float := Float.ofBits 0x3CB1A62633145C07

/-- `π/256`, the 512th part of a turn, rounded. -/
def sliceHigh : Float := Float.ofBits 0x3F8921FB54442D18

/-- What `π/256` exceeds its rounded value by, rounded. -/
def sliceLow : Float := Float.ofBits 0x3C21A62633145C07

/-- What the rounded sum `s` of `a` and `b` misses of their exact sum. -/
def sumError (a b s : Float) : Float :=
  let bb := s - a
  (a - (s - bb)) + (b - bb)

/-- A finite argument beyond `128000` in size reduced through its fraction of a turn: `k` for the
multiple of `π/16` taken away and the remainder as a pair. The fraction's top 52 bits, with the
sign of `x`, are rounded to a multiple `n` of `1/512`; the rest, with the next 52 and 24 bits,
makes a pair that is multiplied by `2π`. Of the `n` slices of `π/256`, those of whole sectors
of `π/16` give `k`, and the `j` left over, counted from the nearest sector's middle, are added
back into the pair: `j · π/256` to its high part, exactly, and the slice's excess to its low part. -/
def wideReduction (x : Float) : Nat × Float × Float :=
  let b := x.toBits.toNat
  let sign := b / Nat.pow 2 63 * Nat.pow 2 63
  let f := turnFraction (b % Nat.pow 2 52 + Nat.pow 2 52) (b / Nat.pow 2 52 % 2048)
  -- `±(1 + bits · 2^-52)` at an exponent, its one taken away again where it is only a marker
  let signed (exponent bits : Nat) : Float := Float.ofBits (sign + exponent + bits).toUInt64
  let top := signed 0x3FF0000000000000 (f / Nat.pow 2 76)
  let z := top + turnShift
  let high := top - (z - turnShift)
  let n := z.toBits.toNat % 512
  let middle := signed 0x3CB0000000000000 (f / Nat.pow 2 24 % Nat.pow 2 52) -
    signed 0x3CB0000000000000 0
  let low := signed 0x3970000000000000 (f % Nat.pow 2 24 * Nat.pow 2 28) -
    signed 0x3970000000000000 0
  let fh := high + middle
  let fl := (middle + (high - fh)) + low
  let rh := fh * twoPiHigh
  let rl := fusedMulAdd fl twoPiHigh (fusedMulAdd twoPiLow fh (fusedMulAdd fh twoPiHigh (-rh)))
  let sector := (n + 8 - rh.toBits.toNat / Nat.pow 2 63) / 16
  let j := ofInt ((n : Int) - 16 * sector)
  let sh := rh + j * sliceHigh
  (sector % 16, sh, fusedMulAdd j sliceLow rl + sumError rh (j * sliceHigh) sh)

/-- The tangent of `x` as the vector routine computes it. -/
def tangent (x : Float) : Float :=
  if x == 0.0 then x
  else if x.isNaN ∨ x.isInf then x.tan
  else
    let (k, rh, rl) :=
      if x.abs > 128000.0 then wideReduction x
      else
        let n := fusedMulAdd x sixteenOverPi roundingShift - roundingShift
        ((truncate n % 16).toNat, reducedArgument x n)
    let (th, tl) := reducedTangent rh rl
    sumTangent (sectorTangentHigh.getD k 0.0) (sectorTangentLow.getD k 0.0) th tl

end Lighthouse.Binary64
