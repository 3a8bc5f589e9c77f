import Lighthouse.Json.Basic
import Lighthouse.Decimal.Read
import Lighthouse.Text.Numeral
import Lighthouse.Fault
/-!
# Reading JSON text

`Json.parse` reads a whole document. Besides standard JSON it takes the words `NaN`,
`Infinity` and `-Infinity`, and a key written twice keeps its first place and its last value.
A text that is no document gives a `ReadError`: what was expected and the character position
where reading stopped; `ReadError.render` adds the line and column of that position.

Where a value is missing, the position is that of the value, also inside arrays and objects
(`[1,]` stops at the `]`); an unclosed string stops at its opening quote; a bad escape stops
at its backslash, a bad `\u` escape at its `u`.

Two limits stop reading before the text is judged further: arrays and objects nested deeper
than the room the reader is given, and integers of more than `Text.integerDigitLimit` digits.
The room is the nesting budget left to the caller where the document is read, so
every caller states it; an array or object opened with no room left fails. A lone
surrogate escape is kept as the character that stands for it (`Text.loneSurrogate`).
-/
namespace Lighthouse.Json

/-- What stopped reading: a text that is no document, nesting past the limit, or an integer
with too many digits. -/
inductive ReadErrorKind where
  | malformed
  | depth
  | digits
  deriving Repr, DecidableEq, Inhabited

/-- Why a text is no JSON document, and the character position where reading stopped. -/
structure ReadError where
  msg : String
  pos : Nat
  kind : ReadErrorKind := .malformed
  deriving Inhabited

/-- A text that is no document, stopping at a position. -/
def malformedError (msg : String) (pos : Nat) : ReadError := ⟨msg, pos, .malformed⟩

/-- The error of nesting one level past the limit with an array or an object. -/
def depthError (array : Bool) (pos : Nat) : ReadError :=
  ⟨"maximum recursion depth exceeded while decoding a JSON " ++
    (if array then "array" else "object") ++ " from a unicode string", pos, .depth⟩

def isBlank (c : Char) : Bool := c = ' ' || c = '\t' || c = '\n' || c = '\r'

/-- Characters after a position, with that position. -/
structure Cursor where
  rest : List Char
  pos : Nat

def skipBlank : List Char → Nat → Cursor
  | c :: r, p => if isBlank c then skipBlank r (p + 1) else ⟨c :: r, p⟩
  | [], p => ⟨[], p⟩

def hexValue (c : Char) : Option Nat :=
  if c.isDigit then some (c.toNat - '0'.toNat)
  else if 'a' ≤ c ∧ c ≤ 'f' then some (c.toNat - 'a'.toNat + 10)
  else if 'A' ≤ c ∧ c ≤ 'F' then some (c.toNat - 'A'.toNat + 10)
  else none

def hex4 (a b c d : Char) : Option Nat := do
  let a ← hexValue a
  let b ← hexValue b
  let c ← hexValue c
  let d ← hexValue d
  pure (((a * 16 + b) * 16 + c) * 16 + d)

/-- A code point as a character; a lone surrogate becomes the character standing for it. -/
def charOfCode (n : Nat) : Char :=
  if 0xD800 ≤ n ∧ n ≤ 0xDFFF then Text.loneSurrogate n else Char.ofNat n

/-- The character of a one-letter escape. -/
def simpleEscape (c : Char) : Option Char :=
  match c with
  | '"' => some '"'
  | '\\' => some '\\'
  | '/' => some '/'
  | 'b' => some '\x08'
  | 'f' => some '\x0c'
  | 'n' => some '\n'
  | 'r' => some '\r'
  | 't' => some '\t'
  | _ => none

/-- Reads the rest of a string whose opening quote is at `start`; `acc` holds the characters
read so far, last first. A high surrogate escape followed by a low one makes one character. -/
def scanString (start : Nat) : List Char → Nat → List Char → Except ReadError (String × Cursor)
  | [], _, _ => .error (malformedError "Unterminated string starting at" (start))
  | '"' :: r, p, acc => .ok (String.ofList acc.reverse, ⟨r, p + 1⟩)
  | ['\\'], _, _ => .error (malformedError "Unterminated string starting at" (start))
  | '\\' :: 'u' :: a :: b :: c :: d :: '\\' :: 'u' :: a2 :: b2 :: c2 :: d2 :: e :: r, p, acc =>
    match hex4 a b c d with
    | none => .error (malformedError "Invalid \\uXXXX escape" (p + 1))
    | some hi =>
      if 0xD800 ≤ hi ∧ hi ≤ 0xDBFF then
        match hex4 a2 b2 c2 d2 with
        | none => .error (malformedError "Invalid \\uXXXX escape" (p + 7))
        | some lo =>
          if 0xDC00 ≤ lo ∧ lo ≤ 0xDFFF then
            let code := 0x10000 + (hi - 0xD800) * 0x400 + (lo - 0xDC00)
            scanString start (e :: r) (p + 12) (Char.ofNat code :: acc)
          else
            scanString start ('\\' :: 'u' :: a2 :: b2 :: c2 :: d2 :: e :: r) (p + 6)
              (charOfCode hi :: acc)
      else
        scanString start ('\\' :: 'u' :: a2 :: b2 :: c2 :: d2 :: e :: r) (p + 6)
          (charOfCode hi :: acc)
  | '\\' :: 'u' :: a :: b :: c :: d :: e :: r, p, acc =>
    match hex4 a b c d with
    | none => .error (malformedError "Invalid \\uXXXX escape" (p + 1))
    | some hi => scanString start (e :: r) (p + 6) (charOfCode hi :: acc)
  | '\\' :: 'u' :: _, p, _ => .error (malformedError "Invalid \\uXXXX escape" (p + 1))
  | '\\' :: c :: r, p, acc =>
    match simpleEscape c with
    | some e => scanString start r (p + 2) (e :: acc)
    | none => .error (malformedError "Invalid \\escape" (p))
  | c :: r, p, acc =>
    if c.toNat ≤ 0x1f then .error (malformedError "Invalid control character at" (p))
    else scanString start r (p + 1) (c :: acc)
termination_by cs => cs.length

/-- The integer part of a number: `0`, or a digit other than zero and the digits after it, as
its value, its number of digits and what follows. -/
def intPart : List Char → Option (Nat × Nat × List Char)
  | '0' :: r => some (0, 1, r)
  | c :: r => if c.isDigit ∧ c ≠ '0' then some (Decimal.takeDigits (c :: r) 0 0) else none
  | [] => none

/-- The fraction of a number: a point followed by at least one digit, its digits continuing the
mantissa `whole`, with their number and what follows. Without one, nothing is taken. -/
def fracPart (whole : Nat) : List Char → Nat × Nat × List Char
  | '.' :: d :: r => if d.isDigit then Decimal.takeDigits (d :: r) whole 0 else (whole, 0, '.' :: d :: r)
  | r => (whole, 0, r)

/-- The sign of an exponent, taken only when a character follows it: whether it is negative,
what follows it and its length. -/
def expSign : List Char → Bool × List Char × Nat
  | '+' :: d :: r => (false, d :: r, 1)
  | '-' :: d :: r => (true, d :: r, 1)
  | r => (false, r, 0)

/-- The exponent of a number: `e` or `E`, an optional sign and at least one digit, as its value,
its length and what follows. -/
def expoPart : List Char → Option (Int × Nat × List Char)
  | e :: r =>
    if e = 'e' ∨ e = 'E' then
      let s := expSign r
      let d := Decimal.takeDigits s.2.1 0 0
      if d.2.1 > 0 then some ((if s.1 then -(d.1 : Int) else d.1), 1 + s.2.2 + d.2.1, d.2.2)
      else none
    else none
  | [] => none

/-- Reads a number after its sign, `neg` telling whether it had one: `r0` is the text after the
sign, `p0` its position and `start` the position of the number, where an integer of too many
digits is reported. -/
def scanUnsigned (neg : Bool) (r0 : List Char) (p0 start : Nat) :
    Option (Except ReadError (Json × Cursor)) :=
  match intPart r0 with
  | none => none
  | some (whole, nWhole, r1) =>
    let (mant, nFrac, r2) := fracPart whole r1
    let hasFrac := nFrac > 0
    let used := p0 + nWhole + (if hasFrac then nFrac + 1 else 0)
    match expoPart r2 with
    | some (e, n, r3) =>
      some (.ok (.float (Decimal.ofDecimal neg mant (e - nFrac)), ⟨r3, used + n⟩))
    | none =>
      if hasFrac then some (.ok (.float (Decimal.ofDecimal neg mant (-(nFrac : Int))), ⟨r2, used⟩))
      else if nWhole > Text.integerDigitLimit then
        some (.error ⟨Text.tooManyDigitsMessage nWhole, start, .digits⟩)
      else some (.ok (.int (if neg then -(whole : Int) else whole), ⟨r2, used⟩))

/-- Reads a number at the cursor: `-?(0|[1-9][0-9]*)(.[0-9]+)?([eE][-+]?[0-9]+)?`; a
fraction or exponent makes it a float. None when no digit starts it. An integer of more digits
than the limit is an error. -/
def scanNumber (cur : Cursor) : Option (Except ReadError (Json × Cursor)) :=
  match cur.rest with
  | '-' :: r => scanUnsigned true r (cur.pos + 1) cur.pos
  | r => scanUnsigned false r cur.pos cur.pos

mutual

/-- Reads one value at the cursor with room for `room` more nested arrays and objects; `fuel`
bounds the work. A missing value stops at the cursor with "Expecting value". -/
def scanValue (room : Nat) : Nat → Cursor → Except ReadError (Json × Cursor)
  | 0, cur => .error (malformedError "Expecting value" (cur.pos))
  | fuel + 1, cur =>
    match cur.rest with
    | '"' :: r =>
      match scanString cur.pos r (cur.pos + 1) [] with
      | .ok (s, c) => .ok (.str s, c)
      | .error e => .error e
    | '{' :: r =>
      if room = 0 then .error (depthError false cur.pos)
      else scanObject (room - 1) fuel (skipBlank r (cur.pos + 1)) []
    | '[' :: r =>
      if room = 0 then .error (depthError true cur.pos)
      else scanArray (room - 1) fuel (skipBlank r (cur.pos + 1)) []
    | 'n' :: 'u' :: 'l' :: 'l' :: r => .ok (.null, ⟨r, cur.pos + 4⟩)
    | 't' :: 'r' :: 'u' :: 'e' :: r => .ok (.bool true, ⟨r, cur.pos + 4⟩)
    | 'f' :: 'a' :: 'l' :: 's' :: 'e' :: r => .ok (.bool false, ⟨r, cur.pos + 5⟩)
    | 'N' :: 'a' :: 'N' :: r => .ok (.float (0.0 / 0.0), ⟨r, cur.pos + 3⟩)
    | 'I' :: 'n' :: 'f' :: 'i' :: 'n' :: 'i' :: 't' :: 'y' :: r =>
      .ok (.float (1.0 / 0.0), ⟨r, cur.pos + 8⟩)
    | '-' :: 'I' :: 'n' :: 'f' :: 'i' :: 'n' :: 'i' :: 't' :: 'y' :: r =>
      .ok (.float (-(1.0 / 0.0)), ⟨r, cur.pos + 9⟩)
    | _ =>
      match scanNumber cur with
      | some res => res
      | none => .error (malformedError "Expecting value" (cur.pos))

/-- Reads array items after the opening bracket and its blanks; `acc` holds the items read,
last first. -/
def scanArray (room : Nat) : Nat → Cursor → List Json → Except ReadError (Json × Cursor)
  | 0, cur, _ => .error (malformedError "Expecting value" (cur.pos))
  | fuel + 1, cur, acc =>
    match cur.rest, acc with
    | ']' :: r, [] => .ok (.arr [], ⟨r, cur.pos + 1⟩)
    | _, _ =>
      match scanValue room fuel cur with
      | .error e => .error e
      | .ok (v, c) =>
        let c := skipBlank c.rest c.pos
        match c.rest with
        | ']' :: r => .ok (.arr (v :: acc).reverse, ⟨r, c.pos + 1⟩)
        | ',' :: r => scanArray room fuel (skipBlank r (c.pos + 1)) (v :: acc)
        | _ => .error (malformedError "Expecting ',' delimiter" (c.pos))

/-- Reads object fields after the opening brace and its blanks; `acc` holds the fields read. -/
def scanObject (room : Nat) : Nat → Cursor → List (String × Json) →
    Except ReadError (Json × Cursor)
  | 0, cur, _ => .error (malformedError "Expecting value" (cur.pos))
  | fuel + 1, cur, acc =>
    match cur.rest, acc with
    | '}' :: r, [] => .ok (.obj [], ⟨r, cur.pos + 1⟩)
    | '"' :: r, _ =>
      match scanString cur.pos r (cur.pos + 1) [] with
      | .error e => .error e
      | .ok (k, c) =>
        let c := skipBlank c.rest c.pos
        match c.rest with
        | ':' :: r2 =>
          match scanValue room fuel (skipBlank r2 (c.pos + 1)) with
          | .error e => .error e
          | .ok (v, c2) =>
            let c2 := skipBlank c2.rest c2.pos
            let acc := insertField acc k v
            match c2.rest with
            | '}' :: r3 => .ok (.obj acc, ⟨r3, c2.pos + 1⟩)
            | ',' :: r3 => scanObject room fuel (skipBlank r3 (c2.pos + 1)) acc
            | _ => .error (malformedError "Expecting ',' delimiter" (c2.pos))
        | _ => .error (malformedError "Expecting ':' delimiter" (c.pos))
    | _, _ => .error (malformedError "Expecting property name enclosed in double quotes" (cur.pos))

end

/-- Reads a whole document with room for `room` nested arrays and objects: blanks, one value,
blanks, and nothing after them. A leading byte-order mark is refused. -/
def parse (room : Nat) (text : String) : Except ReadError Json :=
  let cs := text.toList
  if cs.head? == some '\uFEFF' then .error (malformedError "Unexpected UTF-8 BOM (decode using utf-8-sig)" (0))
  else
    let cur := skipBlank cs 0
    match scanValue room (2 * cs.length + 2) cur with
    | .error e => .error e
    | .ok (v, c) =>
      let c := skipBlank c.rest c.pos
      if c.rest.isEmpty then .ok v else .error (malformedError "Extra data" (c.pos))

/-- The line and column (both from one) of a character position in a text. -/
def lineColumn (text : String) (pos : Nat) : Nat × Nat :=
  let before := text.toList.take pos
  let line := before.count '\n' + 1
  let col := match (before.reverse.findIdx? (· == '\n')) with
    | some i => i + 1
    | none => pos + 1
  (line, col)

/-- The message of a read error: `what: line L column C (char P)` for a text that is no
document, the bare message for a limit. -/
def ReadError.render (e : ReadError) (text : String) : String :=
  if e.kind != .malformed then e.msg
  else
    let lc := lineColumn text e.pos
    s!"{e.msg}: line {lc.1} column {lc.2} (char {e.pos})"

/-- The fault of a read error: a decoding fault with the rendered position for a text that
is no document, a value fault for an integer with too many digits, a recursion fault for
nesting too deep. -/
def ReadError.toFault (e : ReadError) (text : String) : Fault :=
  match e.kind with
  | .malformed => ⟨.decode, e.render text⟩
  | .digits => Fault.value e.msg
  | .depth => ⟨.recursion, e.msg⟩

end Lighthouse.Json
