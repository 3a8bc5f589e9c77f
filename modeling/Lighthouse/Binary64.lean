/-!
# Binary64 values as exact rationals

A finite binary64 value is `±mant · 2^exp`. `parts` reads a `Float` in that form, and
`ofRatio` rounds a nonnegative ratio of naturals to the nearest binary64 value, a tie going to
the even significand and a value past the largest finite one going to infinity. Every decimal
reader and printer of the library goes through these two, so each of them rounds once.
-/
namespace Lighthouse.Binary64

/-- A finite value split into sign, integer significand and binary exponent. -/
structure Parts where
  neg : Bool
  mant : Nat
  exp : Int
  deriving Repr, DecidableEq

/-- The sign, significand and exponent of a finite value; zero has significand 0. -/
def parts (x : Float) : Parts :=
  let b := x.toBits.toNat
  let field := (b >>> 52) % 2048
  let frac := b % Nat.pow 2 52
  if field = 0 then ⟨b >>> 63 = 1, frac, -1074⟩
  else ⟨b >>> 63 = 1, frac + Nat.pow 2 52, (field : Int) - 1075⟩

/-- Whether the sign bit is set (true also for `-0.0` and a negative NaN). -/
def signBit (x : Float) : Bool := x.toBits.toNat >>> 63 = 1

/-- `num · 2^k` against `den`, for an integer `k`, as two naturals to compare. -/
def shiftPair (num den : Nat) (k : Int) : Nat × Nat :=
  if 0 ≤ k then (num <<< k.toNat, den) else (num, den <<< (-k).toNat)

/-- The floor of `log₂ (num / den)` for positive `num` and `den`. -/
def floorLog2 (num den : Nat) : Int :=
  let l : Int := (num.log2 : Int) - den.log2
  -- the difference of the two logarithms overshoots by at most one
  let p := shiftPair den num l
  if p.2 < p.1 then l - 1 else l

/-- Bit pattern of the binary64 value nearest to `num / den` (ties to an even significand). -/
def bitsOfRatio (num den : Nat) : Nat :=
  if num = 0 ∨ den = 0 then 0 else
  let e := max (floorLog2 num den - 52) (-1074)
  let p := shiftPair num den (-e)
  let q := p.1 / p.2
  let r := p.1 % p.2
  let q := if 2 * r > p.2 ∨ (2 * r = p.2 ∧ q % 2 = 1) then q + 1 else q
  let qe : Nat × Int := if q = Nat.pow 2 53 then (Nat.pow 2 52, e + 1) else (q, e)
  if qe.1 < Nat.pow 2 52 then qe.1
  else if qe.2 + 1075 ≥ 2047 then 0x7FF0000000000000
  else ((qe.2 + 1075).toNat <<< 52) + (qe.1 - Nat.pow 2 52)

/-- The binary64 value nearest to `±num / den`. -/
def ofRatio (neg : Bool) (num den : Nat) : Float :=
  let b := bitsOfRatio num den
  Float.ofBits (if neg then (b + Nat.pow 2 63).toUInt64 else b.toUInt64)

def infinity (neg : Bool) : Float :=
  Float.ofBits (if neg then 0xFFF0000000000000 else 0x7FF0000000000000)

def ofInt (n : Int) : Float := ofRatio (n < 0) n.natAbs 1

/-- The exact value of a finite float as `±num / den`. -/
def toRatio (x : Float) : Bool × Nat × Nat :=
  let p := parts x
  let s := shiftPair p.mant 1 p.exp
  (p.neg, s.1, s.2)

/-- The integer part of a finite float, rounding toward zero. -/
def truncate (x : Float) : Int :=
  let r := toRatio x
  let n : Int := r.2.1 / r.2.2
  if r.1 then -n else n

/-- The nearest integer, a half going to the even neighbour. -/
def roundHalfEven (x : Float) : Int :=
  let r := toRatio x
  let q := r.2.1 / r.2.2
  let rem := r.2.1 % r.2.2
  let q := if 2 * rem > r.2.2 ∨ (2 * rem = r.2.2 ∧ q % 2 = 1) then q + 1 else q
  if r.1 then -(q : Int) else q

/-- Whether `num / den` rounds past the largest finite value. -/
def overflows (num den : Nat) : Bool := bitsOfRatio num den = 0x7FF0000000000000

end Lighthouse.Binary64

namespace Lighthouse

/-- A binary64 number held as its bit pattern: unlike a `Float`, it keeps the sign and payload
of a NaN. -/
structure Bits64 where
  bits : UInt64
  deriving DecidableEq, Inhabited, Repr

namespace Bits64

/-- The number as a float. -/
def toFloat (b : Bits64) : Float := Float.ofBits b.bits

def ofFloat (x : Float) : Bits64 := ⟨x.toBits⟩

def zero : Bits64 := ⟨0⟩

end Bits64

end Lighthouse
