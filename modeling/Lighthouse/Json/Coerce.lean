import Lighthouse.Json.Basic
import Lighthouse.Decimal.Read
import Lighthouse.Decimal.Text
import Lighthouse.Text.Blank
import Lighthouse.Text.Numeral
import Lighthouse.Text.Quoted
import Lighthouse.Fault
/-!
# Reading numbers and texts out of documents

Fields of a document are taken as integers, floats or texts the lenient way:

* `toInt` takes an integer, a boolean, a float (cut toward zero) or a text holding an integer
  (`Text.readInteger`: digits of any script, ASCII blanks around, a sign, single underscores
  between digits, at most `Text.integerDigitLimit` digits);
* `toFloat` takes a number, a boolean or a text holding a decimal, `inf`, `infinity` or `nan`
  in any case, read from the same ASCII form with underscores only between digits;
* `display` gives the text of any value, and `shown` its quoted form inside messages.
-/
namespace Lighthouse.Json

/-- The name of a value's type in messages. -/
def typeName : Json → String
  | .null => "NoneType"
  | .bool _ => "bool"
  | .int _ => "int"
  | .float _ => "float"
  | .str _ => "str"
  | .arr _ => "list"
  | .obj _ => "dict"

def readIntText (s : String) : Option Int := Text.readIntegerValue s

def lowerAscii (cs : List Char) : List Char := cs.map Char.toLower

/-- An ASCII numeral without its underscores, or none when one of them does not stand between
two digits. -/
def dropUnderscores (cs : List Char) : Option (List Char) :=
  let ok := (List.range cs.length).all fun i =>
    cs.getD i ' ' != '_' ||
      (i > 0 && (cs.getD (i - 1) ' ').isDigit && (cs.getD (i + 1) ' ').isDigit)
  if ok then some (cs.filter (· != '_')) else none

def takeSign : List Char → Bool × List Char
  | '-' :: r => (true, r)
  | '+' :: r => (false, r)
  | r => (false, r)

/-- A decimal numeral in ASCII, with nothing around it: a sign, digits with an optional point
(at least one digit), and an optional exponent with at least one digit; or `inf`, `infinity`
or `nan` in any case. -/
def readDecimalChars (cs : List Char) : Option Float :=
  let (neg, r) := takeSign cs
  let word := lowerAscii r
  if word = "inf".toList ∨ word = "infinity".toList then some (Binary64.infinity neg)
  else if word = "nan".toList then some (Float.ofBits 0x7FF8000000000000)
  else
    let (w, nw, r1) := Decimal.takeDigits r 0 0
    let (mant, nf, r2) := match r1 with
      | '.' :: r2 => Decimal.takeDigits r2 w 0
      | _ => (w, 0, r1)
    if nw + nf = 0 then none
    else
      let expo : Option Int := match r2 with
        | [] => some 0
        | e :: r3 =>
          if e = 'e' ∨ e = 'E' then
            let (eneg, r4) := takeSign r3
            match Decimal.takeDigits r4 0 0 with
            | (v, nv, []) => if nv = 0 then none else some (if eneg then -(v : Int) else v)
            | _ => none
          else none
      expo.map fun e => Decimal.ofDecimal neg mant (e - nf)

/-- A decimal written in a text: made ASCII, its underscores checked and dropped, ASCII blanks
trimmed (the last character is never trimmed), then read whole. -/
def readFloatText (s : String) : Option Float :=
  match dropUnderscores (Text.numeralChars s) with
  | none => none
  | some cs =>
    -- the first character left is not blank, so trimming the end stops at it at the latest
    let cs := ((cs.dropWhile Text.isAsciiBlank).reverse.dropWhile Text.isAsciiBlank).reverse
    if cs.isEmpty then none else readDecimalChars cs

/-- The refusal of a text that is not an integer; the quoted text is cut to 200 characters. -/
def invalidLiteral (s : String) : Fault := Fault.value (Text.invalidLiteralMessage s)

/-- The refusal of an integer numeral with more digits than the limit. -/
def tooManyDigits (n : Nat) : Fault := Fault.value (Text.tooManyDigitsMessage n)

/-- A value as an integer. -/
def toInt (j : Json) : Outcome Int :=
  match j with
  | .int n => .ok n
  | .bool b => .ok (if b then 1 else 0)
  | .float x =>
    if x.isNaN then .error (Fault.value "cannot convert float NaN to integer")
    else if x.isInf then .error (Fault.overflow "cannot convert float infinity to integer")
    else .ok (Binary64.truncate x)
  | .str s =>
    match Text.readInteger s with
    | .value n => .ok n
    | .invalid => .error (invalidLiteral s)
    | .tooLong n => .error (tooManyDigits n)
  | other => .error (Fault.type
      s!"int() argument must be a string, a bytes-like object or a real number, not \x27{typeName other}\x27")

/-- An integer as a float, failing when it is beyond the finite floats. -/
def intToFloat (n : Int) : Outcome Float :=
  if Binary64.overflows n.natAbs 1 then .error (Fault.overflow "int too large to convert to float")
  else .ok (Binary64.ofInt n)

/-- A value as a float. -/
def toFloat (j : Json) : Outcome Float :=
  match j with
  | .float x => .ok x
  | .int n => intToFloat n
  | .bool b => .ok (if b then 1.0 else 0.0)
  | .str s =>
    match readFloatText s with
    | some x => .ok x
    | none => .error (Fault.value s!"could not convert string to float: {Text.quoted s}")
  | other => .error (Fault.type
      s!"float() argument must be a string or a real number, not \x27{typeName other}\x27")

/-- A float as messages show it (`nan`, `inf`, shortest digits). -/
def floatShown (x : Float) : String := Decimal.FloatStyle.lower.write x

mutual

/-- The quoted form of a value inside messages: texts in quotes, lists and objects with their
items quoted. -/
def shown : Json → String
  | .null => "None"
  | .bool true => "True"
  | .bool false => "False"
  | .int n => toString n
  | .float x => floatShown x
  | .str s => Text.quoted s
  | .arr xs => "[" ++ ", ".intercalate (shownItems xs) ++ "]"
  | .obj fs => "\x7b" ++ ", ".intercalate (shownFields fs) ++ "\x7d"

def shownItems : List Json → List String
  | [] => []
  | x :: xs => shown x :: shownItems xs

def shownFields : List (String × Json) → List String
  | [] => []
  | (k, v) :: fs => (Text.quoted k ++ ": " ++ shown v) :: shownFields fs

end

/-- The text of a value: a text is itself, anything else its quoted form. -/
def display (j : Json) : String :=
  match j with
  | .str s => s
  | other => shown other

end Lighthouse.Json
