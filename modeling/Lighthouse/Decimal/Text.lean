import Lighthouse.Decimal.Shortest
/-!
# Writing floats as decimal text

Two writers share the exact significand of `Binary64.parts`:

* `FloatStyle.write` prints the shortest digits that read back (`Decimal.shortest`), either
  positionally or with an exponent, as a `FloatStyle` record decides;
* `fixed` prints a fixed number of places, a tie going to the even last digit.
-/
namespace Lighthouse.Decimal

/-- The decisions of a float format beyond its digits. -/
structure FloatStyle where
  /-- Positional notation when the decimal point falls at `p` with `low < p ≤ high`,
  `p` counted from the left of the digits. -/
  low : Int
  high : Int
  /-- Least number of exponent digits. -/
  expDigits : Nat
  /-- Text of a NaN and of a positive infinity. -/
  nan : String
  inf : String

/-- Reals are written positionally from `0.0001` up to below `10^16`, an integral value keeps
`.0`, an exponent has a sign and at least two digits. -/
def FloatStyle.standard : FloatStyle := ⟨-4, 16, 2, "NaN", "Infinity"⟩

/-- The same shape, with the spellings `nan` and `inf` for the non-finite values. -/
def FloatStyle.lower : FloatStyle := ⟨-4, 16, 2, "nan", "inf"⟩

/-- `n` zeros. -/
def zeros (n : Nat) : String := String.ofList (List.replicate n '0')

def digitsOf (n : Nat) : String := toString n

/-- Digits `ds` with the decimal point at `p` (counted from the left), positionally. -/
def positional (ds : String) (p : Int) : String :=
  if p ≤ 0 then "0." ++ zeros (-p).toNat ++ ds
  else if p.toNat < ds.length then
    String.ofList (ds.toList.take p.toNat) ++ "." ++ String.ofList (ds.toList.drop p.toNat)
  else ds ++ zeros (p.toNat - ds.length) ++ ".0"

/-- Digits `ds` as `d.ddd` times a power of ten `e`, with at least `w` exponent digits. -/
def scientific (ds : String) (e : Int) (w : Nat) : String :=
  let mantissa := match ds.toList with
    | [] => "0"
    | [d] => String.singleton d
    | d :: rest => String.singleton d ++ "." ++ String.ofList rest
  let mag := digitsOf e.natAbs
  mantissa ++ "e" ++ (if e < 0 then "-" else "+") ++ zeros (w - mag.length) ++ mag

/-- A float in the shortest digits that read back, laid out as the style says. -/
def FloatStyle.write (st : FloatStyle) (x : Float) : String :=
  if x.isNaN then st.nan
  else if x.isInf then (if x < 0 then "-" ++ st.inf else st.inf)
  else
    let p := Binary64.parts x
    let sign := if p.neg then "-" else ""
    if p.mant = 0 then sign ++ "0.0" else
    let s := shortest p.mant p.exp
    let ds := digitsOf s.1
    let point : Int := s.2 + ds.length
    if st.low < point ∧ point ≤ st.high then sign ++ positional ds point
    else sign ++ scientific ds (point - 1) st.expDigits

/-- A float in its shortest form (`0.1`, `1e-06`, `3.0`, `NaN`). -/
def floatText (x : Float) : String := FloatStyle.standard.write x

/-- A float with exactly `places` digits after the point, the exact binary value rounded to
nearest with a tie to the even digit; the sign follows the sign bit. -/
def fixed (places : Nat) (x : Float) : String :=
  if x.isNaN then "nan"
  else if x.isInf then (if x < 0 then "-inf" else "inf")
  else
    let r := Binary64.toRatio x
    let num := r.2.1 * Nat.pow 10 places
    let q := num / r.2.2
    let rem := num % r.2.2
    let q := if 2 * rem > r.2.2 ∨ (2 * rem = r.2.2 ∧ q % 2 = 1) then q + 1 else q
    let ds := digitsOf q
    let ds := zeros (places + 1 - ds.length) ++ ds
    let whole := String.ofList (ds.toList.take (ds.length - places))
    let frac := String.ofList (ds.toList.drop (ds.length - places))
    (if r.1 then "-" else "") ++ whole ++ (if places = 0 then "" else "." ++ frac)

end Lighthouse.Decimal
