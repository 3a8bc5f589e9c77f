import Lighthouse.Binary64
/-!
# Shortest decimal digits of a binary64 value

A positive finite value `v = mant · 2^exp` is read back from every decimal in the interval of
reals that round to it. `shortest` walks the decimal grids `10^k` with one, two, … seventeen
significant digits and takes the first grid on which one of the two neighbours of `v` lies in
that interval; of two such neighbours the nearer wins, and of two equally near ones the even.
Everything is exact natural-number arithmetic.
-/
namespace Lighthouse.Decimal

/-- `c · 10^k` against `b · 2^j` for integer exponents, as two naturals to compare. -/
def scalePair (c : Nat) (k : Int) (b : Nat) (j : Int) : Nat × Nat :=
  (c * Nat.pow 10 k.toNat * Nat.pow 2 (-j).toNat, b * Nat.pow 2 j.toNat * Nat.pow 10 (-k).toNat)

/-- `c · 10^k ≤ b · 2^j`. -/
def leScaled (c : Nat) (k : Int) (b : Nat) (j : Int) : Bool :=
  let p := scalePair c k b j
  p.1 ≤ p.2

/-- `c · 10^k < b · 2^j`. -/
def ltScaled (c : Nat) (k : Int) (b : Nat) (j : Int) : Bool :=
  let p := scalePair c k b j
  p.1 < p.2

/-- The reals that round to `mant · 2^exp`: the two midpoints to the neighbours, as
`(low, high, exponent)` meaning `low · 2^exponent` and `high · 2^exponent`. Below a power of
two the lower neighbour is twice as near. -/
def roundingInterval (mant : Nat) (exp : Int) : Nat × Nat × Int :=
  if mant = Nat.pow 2 52 ∧ exp > -1074 then (4 * mant - 1, 4 * mant + 2, exp - 2)
  else (2 * mant - 1, 2 * mant + 1, exp - 1)

/-- Whether `c · 10^k` reads back as `mant · 2^exp`; the ends count when `mant` is even. -/
def readsBack (mant : Nat) (exp : Int) (c : Nat) (k : Int) : Bool :=
  let iv := roundingInterval mant exp
  let lo := scalePair c k iv.1 iv.2.2
  let hi := scalePair c k iv.2.1 iv.2.2
  if mant % 2 = 0 then lo.2 ≤ lo.1 && hi.1 ≤ hi.2
  else lo.2 < lo.1 && hi.1 < hi.2

/-- `⌊mant · 2^exp / 10^k⌋`. -/
def floorOnGrid (mant : Nat) (exp : Int) (k : Int) : Nat :=
  (mant * Nat.pow 2 exp.toNat * Nat.pow 10 (-k).toNat) / (Nat.pow 2 (-exp).toNat * Nat.pow 10 k.toNat)

/-- The decimal exponent `E` with `10^E ≤ mant · 2^exp < 10^(E+1)`, for positive `mant`. -/
def decimalExponent (mant : Nat) (exp : Int) : Int :=
  let t : Int := (mant.log2 : Int) + exp
  let e0 : Int := (t * 78913) / 262144
  -- the estimate is off by at most one either way
  let up := if leScaled 1 (e0 + 1) mant exp then e0 + 1 else e0
  if leScaled 1 up mant exp then up else up - 1

/-- Of `c` and `c + 1` on grid `10^k`, those that read back, the nearer first. -/
def gridChoice (mant : Nat) (exp : Int) (k : Int) : Option Nat :=
  let c := floorOnGrid mant exp k
  let lo := readsBack mant exp c k
  let hi := readsBack mant exp (c + 1) k
  if lo && hi then
    -- compare `2v` with the midpoint `(2c + 1) · 10^k`
    let p := scalePair (2 * c + 1) k mant (exp + 1)
    if p.2 < p.1 then some c
    else if p.1 < p.2 then some (c + 1)
    else if c % 2 = 0 then some c else some (c + 1)
  else if lo then some c
  else if hi then some (c + 1)
  else none

/-- Drops trailing zeros of a significand, raising the exponent to match. -/
def stripZeros : Nat → Nat → Int → Nat × Int
  | 0, c, k => (c, k)
  | fuel + 1, c, k => if c ≠ 0 ∧ c % 10 = 0 then stripZeros fuel (c / 10) (k + 1) else (c, k)

/-- The first grid with `n + 1` significant digits, `n < limit`, that holds a decimal
reading back as the value. -/
def firstGrid (mant : Nat) (exp : Int) (top : Int) : Nat → Nat → Option (Nat × Int)
  | 0, _ => none
  | fuel + 1, n =>
    let k := top - n
    match gridChoice mant exp k with
    | some c => some (c, k)
    | none => firstGrid mant exp top fuel (n + 1)

/-- The shortest significand `c` and exponent `k` with `c · 10^k` reading back as the positive
value `mant · 2^exp`, without trailing zeros in `c`. -/
def shortest (mant : Nat) (exp : Int) : Nat × Int :=
  let top := decimalExponent mant exp
  match firstGrid mant exp top 17 0 with
  | some (c, k) => stripZeros 20 c k
  | none => stripZeros 20 (floorOnGrid mant exp (top - 16)) (top - 16)

end Lighthouse.Decimal
