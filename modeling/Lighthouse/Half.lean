import Lighthouse.Binary64
/-!
# Half-precision floats

Calibration values travel as IEEE binary16 numbers: a sign bit, five exponent bits and ten
fraction bits. `widen` reads one exactly as a binary64 bit pattern; `narrow` rounds a binary64 bit pattern to
the nearest binary16 value, a tie going to the even fraction, everything from `65520` up to
infinity, and a NaN to a NaN that keeps its sign and top fraction bits, so that NaNs travel
both ways unchanged. Bit patterns rather than `Float`s carry NaNs, whose bits a `Float` does
not keep.
-/
namespace Lighthouse.Half

/-- The binary64 bit pattern of the value of a binary16 bit pattern. A NaN keeps its sign and
fraction bits and reads as quiet. -/
def widen (h : Nat) : UInt64 :=
  let neg := h / 0x8000 % 2 = 1
  let e := h / 0x400 % 32
  let f := h % 0x400
  if e = 31 then
    ((if neg then 0xFFF0000000000000 else 0x7FF0000000000000) +
      (if f = 0 then 0 else (f ||| 0x200) <<< 42)).toUInt64
  else
    let x := if e = 0 then Binary64.ofRatio neg f (Nat.pow 2 24)
      else if e ≥ 25 then Binary64.ofRatio neg ((0x400 + f) * Nat.pow 2 (e - 25)) 1
      else Binary64.ofRatio neg (0x400 + f) (Nat.pow 2 (25 - e))
    x.toBits

/-- The value of a binary16 bit pattern. -/
def toFloat (h : Nat) : Float := Float.ofBits (widen h)

/-- The binary16 bit pattern nearest to a binary64 bit pattern. -/
def narrow (bits : UInt64) : Nat :=
  let b := bits.toNat
  let sign := if b >>> 63 = 1 then 0x8000 else 0
  let field := (b >>> 52) % 2048
  let frac := b % Nat.pow 2 52
  if field = 2047 then
    if frac = 0 then sign + 0x7C00
    else
      let h := 0x7C00 + frac / Nat.pow 2 42
      sign + (if h = 0x7C00 then h + 1 else h)
  else
    let p := Binary64.parts (Float.ofBits bits)
    if p.mant = 0 then sign else
    -- round `mant · 2^exp` to a multiple of `2^s`, the spacing of binary16 values near it
    let top : Int := (p.mant.log2 : Int) + p.exp
    let s : Int := max (top - 10) (-24)
    let q := Binary64.shiftPair p.mant 1 (p.exp - s)
    let quo := q.1 / q.2
    let rem := q.1 % q.2
    let quo := if 2 * rem > q.2 ∨ (2 * rem = q.2 ∧ quo % 2 = 1) then quo + 1 else quo
    let qs : Nat × Int := if quo = Nat.pow 2 11 then (Nat.pow 2 10, s + 1) else (quo, s)
    if qs.1 < Nat.pow 2 10 then sign + qs.1
    else if qs.2 + 25 ≥ 31 then sign + 0x7C00
    else sign + (qs.2 + 25).toNat * 0x400 + (qs.1 - Nat.pow 2 10)

/-- The binary16 bit pattern nearest to a binary64 value. -/
def ofFloat (x : Float) : Nat := narrow x.toBits

def bytesOf (h : Nat) : List UInt8 := [(h % 256).toUInt8, (h / 256 % 256).toUInt8]

def ofBytes (lo hi : UInt8) : Nat := lo.toNat + 256 * hi.toNat

end Lighthouse.Half
