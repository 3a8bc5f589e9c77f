import Lighthouse.Text.Unicode
import Lighthouse.Text.Blank
import Lighthouse.Text.Quoted
/-!
# Numerals in text

A number is read from a text in two passes. The first makes the text ASCII: ASCII characters
stay, other blanks become spaces, decimal digits of any script become ASCII digits, and any
other character becomes `?`, which no numeral contains. The second reads the ASCII text
strictly. Only the ASCII blanks (space, tab, line feed, vertical tab, form feed, carriage
return) may stand around the numeral, so the information separators `0x1C`–`0x1F`, blank for
trimming, spoil a number.

An integer is an optional sign and digits, with single underscores allowed between digits.
Numerals longer than `integerDigitLimit` digits are refused whole, before the rest of the text
is looked at.
-/
namespace Lighthouse.Text

/-- The ASCII form of a text for reading numbers. -/
def numeralChars (s : String) : List Char :=
  s.toList.map fun c =>
    if c.toNat < 127 then c
    else if isBlank c then ' '
    else match digitValue c with
      | some d => Char.ofNat ('0'.toNat + d)
      | none => '?'

def isAsciiBlank (c : Char) : Bool := c = ' ' ∨ (0x09 ≤ c.toNat ∧ c.toNat ≤ 0x0D)

/-- The most digits an integer numeral may have. -/
def integerDigitLimit : Nat := 4300

/-- What reading an integer from a text gives. -/
inductive IntegerReading where
  | value (n : Int)
  | invalid
  /-- A numeral with more digits than the limit, with its number of digits. -/
  | tooLong (digits : Nat)
  deriving Repr, DecidableEq

/-- Digits with single underscores between them, from an ASCII list: the value, the number of
digits, whether the last character taken was an underscore, and the rest; none when two
underscores meet. -/
def scanDigits : List Char → Nat → Nat → Bool → Option (Nat × Nat × Bool × List Char)
  | c :: rest, acc, n, under =>
    if c.isDigit then scanDigits rest (acc * 10 + (c.toNat - '0'.toNat)) (n + 1) false
    else if c = '_' then (if under then none else scanDigits rest acc n true)
    else some (acc, n, under, c :: rest)
  | [], acc, n, under => some (acc, n, under, [])

/-- An integer read from a text. -/
def readInteger (s : String) : IntegerReading :=
  let cs := (numeralChars s).dropWhile isAsciiBlank
  let (neg, cs) := match cs with
    | '-' :: r => (true, r)
    | '+' :: r => (false, r)
    | r => (false, r)
  if cs.head? = some '_' then .invalid
  else
    match scanDigits cs 0 0 false with
    | none => .invalid
    | some (v, n, under, rest) =>
      if under then .invalid
      else if n > integerDigitLimit then .tooLong n
      else if n = 0 ∨ !(rest.all isAsciiBlank) then .invalid
      else .value (if neg then -(v : Int) else v)

/-- The message refusing a text that is not an integer; the quoted text is cut to 200
characters. -/
def invalidLiteralMessage (s : String) : String :=
  "invalid literal for int() with base 10: " ++ String.ofList ((quoted s).toList.take 200)

/-- The message refusing an integer numeral of `n` digits, more than the limit. -/
def tooManyDigitsMessage (n : Nat) : String :=
  s!"Exceeds the limit ({integerDigitLimit} digits) for integer string conversion: value has {n} digits; use sys.set_int_max_str_digits() to increase the limit"

/-- An integer read from a text, or none when it is not one. -/
def readIntegerValue (s : String) : Option Int :=
  match readInteger s with
  | .value n => some n
  | _ => none

end Lighthouse.Text
