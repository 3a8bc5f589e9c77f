import Lighthouse.Binary64
/-!
# Reading decimal numbers

`ofDecimal neg c k` is the binary64 value nearest to `±c · 10^k`, rounded once through
`Binary64.ofRatio`. Exponents far outside the binary64 range are settled first, so a text such
as `1e999999999` costs nothing. `scanNumber` reads the parts of a numeric literal
(`-12.5e3`) from a character list.
-/
namespace Lighthouse.Decimal

/-- Number of decimal digits of a natural number (one for zero). -/
def digitCount (n : Nat) : Nat := (toString n).length

/-- The binary64 value nearest to `±c · 10^k`. -/
def ofDecimal (neg : Bool) (c : Nat) (k : Int) : Float :=
  if c = 0 then Binary64.ofRatio neg 0 1
  else
    let top : Int := k + digitCount c
    if top > 311 then Binary64.infinity neg
    else if top < -330 then Binary64.ofRatio neg 0 1
    else if 0 ≤ k then Binary64.ofRatio neg (c * Nat.pow 10 k.toNat) 1
    else Binary64.ofRatio neg c (Nat.pow 10 (-k).toNat)

/-- The parts of a decimal literal: sign, all digits as one natural, and the power of ten
that scales it. -/
structure Literal where
  neg : Bool
  digits : Nat
  scale : Int
  /-- Whether a fraction or an exponent was written. -/
  fractional : Bool

def Literal.toFloat (l : Literal) : Float := ofDecimal l.neg l.digits l.scale

/-- The value of a literal without fraction or exponent as an integer. -/
def Literal.toInt (l : Literal) : Int := if l.neg then -(l.digits : Int) else l.digits

/-- Appends decimal digits to an accumulator, returning it with the count taken. -/
def takeDigits : List Char → Nat → Nat → Nat × Nat × List Char
  | c :: rest, acc, n =>
    if c.isDigit then takeDigits rest (acc * 10 + (c.toNat - '0'.toNat)) (n + 1)
    else (acc, n, c :: rest)
  | [], acc, n => (acc, n, [])

end Lighthouse.Decimal
