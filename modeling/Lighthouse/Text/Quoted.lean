import Lighthouse.Text.Unicode
/-!
# Quoted text in messages

Messages show a text between single quotes, or between double quotes when it holds a single
quote and no double one. Inside, the backslash and the chosen quote are escaped, tab, line
feed and carriage return take their letters, and characters that do not print (`prints`) take a
hexadecimal escape: `\xhh` below `0x100`, `\uhhhh` below `0x10000`, else `\Uhhhhhhhh`.
-/
namespace Lighthouse.Text

/-- `width` lowercase hexadecimal digits of a number. -/
def hexDigits (width n : Nat) : String :=
  String.ofList ((List.range width).reverse.map fun k =>
    "0123456789abcdef".toList.getD (n / Nat.pow 16 k % 16) '0')

/-- The escaped form of one character inside quotes `q`. -/
def escapeIn (q : Char) (c : Char) : String :=
  if c = '\\' then "\\\\"
  else if c = q then "\\" ++ String.singleton q
  else if c = '\t' then "\\t"
  else if c = '\n' then "\\n"
  else if c = '\r' then "\\r"
  else if let some u := surrogateOf? c then "\\u" ++ hexDigits 4 u
  else if prints c then String.singleton c
  else if c.toNat < 0x100 then "\\x" ++ hexDigits 2 c.toNat
  else if c.toNat < 0x10000 then "\\u" ++ hexDigits 4 c.toNat
  else "\\U" ++ hexDigits 8 c.toNat

def quoted (s : String) : String :=
  let q := if s.contains '\'' && !s.contains '"' then '"' else '\''
  String.singleton q ++ String.join (s.toList.map (escapeIn q)) ++ String.singleton q

end Lighthouse.Text
