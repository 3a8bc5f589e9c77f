import Lighthouse.Json.Basic
import Lighthouse.Decimal.Text
import Lighthouse.Text.Unicode
/-!
# Writing JSON text

`Json.write` prints a document in one of two layouts: `Layout.flat`, one line with `", "`
between items and `": "` after keys, or `Layout.indented n`, one item per line indented by `n`
spaces per level. Strings are written in ASCII: other characters become `\u` escapes (two for
a character beyond the basic plane, one for a lone surrogate). Floats take their shortest form (`Decimal.floatText`),
non-finite ones the words `NaN`, `Infinity` and `-Infinity`.
-/
namespace Lighthouse.Json

/-- Separators and indentation of written JSON. -/
structure Layout where
  itemSep : String
  keySep : String
  indent : Option Nat

/-- One line, `", "` between items and `": "` after a key. -/
def Layout.flat : Layout := ⟨", ", ": ", none⟩

/-- One item per line, `n` spaces per level. -/
def Layout.indented (n : Nat) : Layout := ⟨",", ": ", some n⟩

/-- Lowercase hexadecimal digits of a number below `16^4`, four of them. -/
def hex4Text (n : Nat) : String :=
  let d (k : Nat) : Char := "0123456789abcdef".toList.getD ((n / Nat.pow 16 k) % 16) '0'
  String.ofList [d 3, d 2, d 1, d 0]

/-- The escaped form of one character. -/
def escapeChar (c : Char) : String :=
  match c with
  | '"' => "\\\""
  | '\\' => "\\\\"
  | '\n' => "\\n"
  | '\r' => "\\r"
  | '\t' => "\\t"
  | '\x08' => "\\b"
  | '\x0c' => "\\f"
  | _ =>
    let n := c.toNat
    if 0x20 ≤ n ∧ n ≤ 0x7e then String.singleton c
    else if let some u := Text.surrogateOf? c then "\\u" ++ hex4Text u
    else if n < 0x10000 then "\\u" ++ hex4Text n
    else
      let m := n - 0x10000
      "\\u" ++ hex4Text (0xD800 + m / 0x400) ++ "\\u" ++ hex4Text (0xDC00 + m % 0x400)

def quote (s : String) : String :=
  "\"" ++ String.join (s.toList.map escapeChar) ++ "\""

/-- A line break followed by the indentation of a level, or nothing on one line. -/
def Layout.breakAt (l : Layout) (level : Nat) : String :=
  match l.indent with
  | some n => "\n" ++ String.ofList (List.replicate (n * level) ' ')
  | none => ""

/-- Written items joined by the item separator and line breaks of a level. -/
def Layout.joinAt (l : Layout) (level : Nat) (parts : List String) : String :=
  (l.itemSep ++ l.breakAt level).intercalate parts

mutual

/-- A document at a nesting level. -/
def writeAt (l : Layout) (level : Nat) : Json → String
  | .null => "null"
  | .bool true => "true"
  | .bool false => "false"
  | .int n => toString n
  | .float x => Decimal.floatText x
  | .str s => quote s
  | .arr [] => "[]"
  | .arr xs =>
    "[" ++ l.breakAt (level + 1) ++ l.joinAt (level + 1) (writeItems l (level + 1) xs) ++
      l.breakAt level ++ "]"
  | .obj [] => "\x7b\x7d"
  | .obj fs =>
    "\x7b" ++ l.breakAt (level + 1) ++ l.joinAt (level + 1) (writeFields l (level + 1) fs) ++
      l.breakAt level ++ "\x7d"

def writeItems (l : Layout) (level : Nat) : List Json → List String
  | [] => []
  | x :: xs => writeAt l level x :: writeItems l level xs

def writeFields (l : Layout) (level : Nat) : List (String × Json) → List String
  | [] => []
  | (k, v) :: fs => (quote k ++ l.keySep ++ writeAt l level v) :: writeFields l level fs

end

def write (l : Layout) (j : Json) : String := writeAt l 0 j

def render (j : Json) : String := write Layout.flat j

mutual

/-- The document with every non-finite float replaced by its word as a string. -/
def nonFiniteAsText : Json → Json
  | .float x =>
    if x.isNaN then .str "NaN"
    else if x.isInf then .str (if x < 0 then "-Infinity" else "Infinity")
    else .float x
  | .arr xs => .arr (nonFiniteItems xs)
  | .obj fs => .obj (nonFiniteFields fs)
  | j => j

def nonFiniteItems : List Json → List Json
  | [] => []
  | x :: xs => nonFiniteAsText x :: nonFiniteItems xs

def nonFiniteFields : List (String × Json) → List (String × Json)
  | [] => []
  | (k, v) :: fs => (k, nonFiniteAsText v) :: nonFiniteFields fs

end

end Lighthouse.Json
