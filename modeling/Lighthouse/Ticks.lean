import Lighthouse.Binary64
/-!
# Timecode ticks

A tracker stamps every pulse with a 32-bit timecode of a 48 MHz clock. One sweep of a rotor
spans `ticksPerSweep` ticks and passes the lighthouse's axis at `sweepCenter`, so an offset
from the sync flash maps linearly to an angle in `(-π/2, π/2)`. Timecodes wrap, so a
difference of two of them is taken modulo `2^32` (`timecodeDelta`).
-/
namespace Lighthouse.Ticks

/-- Ticks of the timecode clock per second. -/
def perSecond : Nat := 48000000

/-- Ticks of one sweep, half a rotor turn. -/
def perSweep : Nat := 400000

/-- Offset of the sweep centre from the start of the sweep. -/
def sweepCenter : Nat := 200000

/-- The number of timecode values: timecodes are read modulo this. -/
def modulus : Nat := Nat.pow 2 32

/-- The binary64 value nearest to `π`. -/
def pi : Float := Float.ofBits 0x400921FB54442D18

/-- The sweep angle, in radians, of a tick offset from the sync flash. -/
def toAngle (t : Float) : Float := (t - 200000.0) * pi / 400000.0

/-- The tick offset of a sweep angle: inverse to `toAngle`. -/
def ofAngle (a : Float) : Float := a * 400000.0 / pi + 200000.0

def toSeconds (t : Float) : Float := t / 48000000.0

def angleOfInt (t : Int) : Float := Binary64.ofInt (t - 200000) * pi / 400000.0

/-- The duration in seconds of an integral tick count: the quotient of the two integers rounded
once, which for counts beyond `2^53` differs from dividing the rounded count. -/
def secondsOfInt (t : Int) : Float := Binary64.ofRatio (t < 0) t.natAbs perSecond

/-- The wraparound difference `later - earlier` of two timecodes, in `[0, 2^32)`. -/
def timecodeDelta (later earlier : Int) : Int := (later - earlier) % (modulus : Int)

/-- A timecode reduced into `[0, 2^32)`. -/
def wrap (t : Int) : Int := t % (modulus : Int)

end Lighthouse.Ticks
