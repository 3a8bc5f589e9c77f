import Lighthouse.Fault
/-!
# Bytes written in hexadecimal

`Text.bytesOfHex` reads bytes written as pairs of hexadecimal digits, either case, with ASCII
blanks allowed before any pair but not inside one. A text with a character outside ASCII is
refused at the first such character; otherwise the first character that is no digit where a
digit is due is reported by its position; a last pair cut short by the end of the text is
reported at the position just past the end.
-/
namespace Lighthouse.Text

def hexDigitValue (c : Char) : Option Nat :=
  if '0' ≤ c ∧ c ≤ '9' then some (c.toNat - 48)
  else if 'a' ≤ c ∧ c ≤ 'f' then some (c.toNat - 87)
  else if 'A' ≤ c ∧ c ≤ 'F' then some (c.toNat - 55)
  else none

/-- Whether a character is an ASCII blank that may stand between pairs. -/
def isHexBlank (c : Char) : Bool := c = ' ' ∨ (0x09 ≤ c.toNat ∧ c.toNat ≤ 0x0D)

/-- The fault for a character that is no digit, at position `i`. -/
def notHexAt (i : Nat) : Fault :=
  Fault.value s!"non-hexadecimal number found in fromhex() arg at position {i}"

/-- The bytes of the pairs from position `i` on, prepended to `acc` in reverse. -/
def hexPairs : List Char → Nat → List UInt8 → Outcome (List UInt8)
  | [], _, acc => .ok acc
  | c :: rest, i, acc =>
    if isHexBlank c then hexPairs rest (i + 1) acc
    else match hexDigitValue c, rest with
      | none, _ => .error (notHexAt i)
      | some _, [] => .error (notHexAt (i + 1))
      | some hi, d :: rest' => match hexDigitValue d with
        | none => .error (notHexAt (i + 1))
        | some lo => hexPairs rest' (i + 2) ((hi * 16 + lo).toUInt8 :: acc)

def bytesOfHex (s : String) : Outcome (List UInt8) :=
  let cs := s.toList
  match cs.findIdx? (·.toNat ≥ 128) with
  | some i => .error (notHexAt i)
  | none => (hexPairs cs 0 []).map List.reverse

end Lighthouse.Text
