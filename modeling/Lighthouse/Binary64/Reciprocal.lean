import Lighthouse.Binary64
/-!
# The reciprocal estimate

Vector units estimate `1 / x` to about fourteen bits and let the program refine the estimate
with Newton steps. The refined value still carries the estimate's error, squared by each step,
so a computation that rounds near a tie depends on the estimate's exact bits.

The estimate reads only the top sixteen bits of the significand `m ∈ [1, 2)`. The top six pick
one of 64 equal pieces of `[1, 2)`, and on each piece the estimate is a line. The next ten bits
say how many steps of `2^-16` `m` lies past the start of its piece. The line's value is cut to
seventeen bits, so the estimate of `1 / m` is `u · 2^-17` for an integer `u` in
`[2^16, 2^17)`. The relative error stays below `2^-14`. Scaling by the exponent is exact, even
when the estimate is subnormal.

A power of two has its exact reciprocal. A zero gives the infinity of its sign and an infinity
the zero of its sign. A subnormal gives an infinity, since its reciprocal is too large.
-/
namespace Lighthouse.Binary64

/-- The start of the line on each piece, an estimate of `1 / m` in units of `2^-18`. -/
def estimateStarts : Array Nat :=
  #[262137, 258102, 254194, 250400, 246715, 243143, 239667, 236294, 233010, 229820, 226712,
    223690, 220748, 217883, 215089, 212364, 209711, 207121, 204598, 202131, 199725, 197375,
    195082, 192837, 190646, 188504, 186413, 184362, 182359, 180397, 178478, 176599, 174762,
    172959, 171196, 169464, 167770, 166109, 164480, 162883, 161320, 159781, 158273, 156795,
    155345, 153917, 152518, 151144, 149795, 148469, 147166, 145890, 144630, 143393, 142180,
    140983, 139810, 138655, 137517, 136403, 135305, 134223, 133157, 132107]

/-- How far the line on each piece falls per step of `2^-16`, in units of `2^-26`. -/
def estimateSlopes : Array Nat :=
  #[1009, 977, 949, 921, 893, 869, 843, 821, 797, 777, 755, 735, 717, 699, 681, 663, 647, 631,
    617, 601, 587, 573, 561, 547, 535, 523, 513, 501, 491, 479, 469, 459, 451, 441, 433, 423,
    415, 407, 399, 391, 385, 377, 369, 363, 357, 349, 343, 337, 331, 325, 319, 315, 309, 303,
    299, 293, 289, 285, 279, 275, 271, 267, 263, 259]

/-- The estimate of `1 / m` for a significand with stored fraction `frac` (52 bits), as the
integer `u` with estimate `u · 2^-17`. -/
def estimateUnits (frac : Nat) : Nat :=
  if frac = 0 then Nat.pow 2 17
  else
    let piece := frac >>> 46
    let steps := (frac >>> 36) % 1024
    (256 * estimateStarts.getD piece 0 - estimateSlopes.getD piece 0 * steps) / 512

/-- The fourteen-bit reciprocal estimate of `x`. -/
def reciprocalEstimate (x : Float) : Float :=
  let b := x.toBits.toNat
  let neg := b >>> 63 = 1
  let field := (b >>> 52) % 2048
  let frac := b % Nat.pow 2 52
  if field = 2047 then
    if frac = 0 then (if neg then -0.0 else 0.0) else x
  else if field = 0 then infinity neg
  else
    -- `x = m · 2^(field - 1023)`, so the estimate is `u · 2^(-17 - (field - 1023))`
    let u := estimateUnits frac
    let shift : Int := 17 + ((field : Int) - 1023)
    if 0 ≤ shift then ofRatio neg u (Nat.pow 2 shift.toNat) else ofRatio neg (u * Nat.pow 2 (-shift).toNat) 1

end Lighthouse.Binary64
