/-!
# Lines of a text

A text read line by line breaks at every line boundary: the line feed, the vertical tab, the
form feed, the carriage return (with a line feed after it, the two are one boundary), the file,
group and record separators `0x1C`–`0x1E`, the next-line character `0x85`, and the Unicode line
and paragraph separators. The boundaries are not part of the lines, and a boundary that ends the
text opens no empty last line, so the empty text has no lines.
-/
namespace Lighthouse.Text

def isLineBreak (c : Char) : Bool :=
  let n := c.toNat
  (0x0A ≤ n ∧ n ≤ 0x0D) ∨ (0x1C ≤ n ∧ n ≤ 0x1E) ∨ n = 0x85 ∨ n = 0x2028 ∨ n = 0x2029

/-- The lines of the characters `cs`, the first of them continuing `line`, which holds the
characters read so far in reverse. -/
def lineChunks : List Char → List Char → List (List Char)
  | [], [] => []
  | [], line => [line.reverse]
  | '\r' :: '\n' :: rest, line => line.reverse :: lineChunks rest []
  | c :: rest, line =>
    if isLineBreak c then line.reverse :: lineChunks rest [] else lineChunks rest (c :: line)

def splitLines (s : String) : List String := (lineChunks s.toList []).map String.ofList

theorem lineChunks_of_noBreak (cs line : List Char) (h : ∀ c ∈ cs, isLineBreak c = false) :
    lineChunks cs line = if cs = [] ∧ line = [] then [] else [line.reverse ++ cs] := by
  induction cs generalizing line with
  | nil => cases line <;> simp [lineChunks]
  | cons c cs ih =>
    have hc : isLineBreak c = false := h c (by simp)
    have hcs : ∀ d ∈ cs, isLineBreak d = false := fun d hd => h d (by simp [hd])
    have hr : c ≠ '\r' := by
      intro e
      subst e
      simp [isLineBreak] at hc
    rw [show lineChunks (c :: cs) line = lineChunks cs (c :: line) by
      cases cs <;> simp [lineChunks, hc, hr]]
    simp [ih (c :: line) hcs]

example : splitLines "a\r\nb\rc\x0bd\x1ce f\n" = ["a", "b", "c", "d", "e", "f"] := by
  decide +kernel

example : splitLines "" = [] ∧ splitLines "\n\n" = ["", ""] := by decide +kernel

end Lighthouse.Text
