import Lighthouse.Binary64
/-!
# Fused multiply-add

`fusedMulAdd a b c` is `a · b + c` rounded once, as the fused instruction of IEEE 754 computes
it. Finite operands are summed exactly as integers scaled by a common power of two and the sum
is rounded by `ofRatio`. An exact zero sum takes the sign the standard gives it: negative only
when both the product and `c` are negative zeros. Non-finite operands give what the unfused
expression gives, which is what the fused instruction gives for them too.
-/
namespace Lighthouse.Binary64

/-- A finite value as a signed integer times `2^exp`. -/
def scaled (x : Float) : Int × Int :=
  let p := parts x
  ((if p.neg then -(p.mant : Int) else p.mant), p.exp)

/-- `a · b + c`, rounded once. -/
def fusedMulAdd (a b c : Float) : Float :=
  if a.isNaN ∨ b.isNaN ∨ c.isNaN ∨ a.isInf ∨ b.isInf ∨ c.isInf then a * b + c
  else
    let (ma, ea) := scaled a
    let (mb, eb) := scaled b
    let (mc, ec) := scaled c
    let mp := ma * mb
    let ep := ea + eb
    let e := min ep ec
    let sum := mp * Nat.pow 2 (ep - e).toNat + mc * Nat.pow 2 (ec - e).toNat
    if sum = 0 then
      -- the sign of an exact zero: negative only for two negative zeros
      let productNeg := signBit a != signBit b
      if mp = 0 ∧ mc = 0 ∧ productNeg ∧ signBit c then -0.0 else 0.0
    else
      let s := shiftPair sum.natAbs 1 e
      ofRatio (sum < 0) s.1 s.2

end Lighthouse.Binary64
