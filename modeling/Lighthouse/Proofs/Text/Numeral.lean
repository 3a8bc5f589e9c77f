import Lighthouse.Text.Numeral
import Mathlib.Data.Nat.Digits.Defs
import Mathlib.Tactic.IntervalCases
/-!
# Reading back a written numeral

The decimal numeral `toString m` of a natural number reads back as `m`
(`readInteger_toString`), as long as it has no more digits than may be read. A numeral is
read by `scanDigits`, which takes a run of digits and returns its value and its length
(`scanDigits_of_isDigit`); the digits of `toString m` are those of `Nat.toDigits`, and their
value is `m` (`foldl_toDigits`).
-/
namespace Lighthouse.Text

/-- The step `scanDigits` takes on a digit. -/
def digitStep (acc : Nat) (c : Char) : Nat := acc * 10 + (c.toNat - '0'.toNat)

theorem digit_bounds {c : Char} (h : c.isDigit = true) : 48 ≤ c.toNat ∧ c.toNat ≤ 57 := by
  simp only [Char.isDigit, Bool.and_eq_true, decide_eq_true_eq] at h
  exact ⟨UInt32.le_iff_toNat_le.mp h.1, UInt32.le_iff_toNat_le.mp h.2⟩

theorem isAsciiBlank_of_isDigit {c : Char} (h : c.isDigit = true) : isAsciiBlank c = false := by
  have hb := digit_bounds h
  unfold isAsciiBlank
  simp only [decide_eq_false_iff_not]
  rintro (h' | h')
  · rw [h'] at hb
    simp at hb
  · omega

/-- A run of digits is scanned whole: its value after `acc`, and its length. -/
theorem scanDigits_of_isDigit {ds : List Char} (hd : ∀ c ∈ ds, c.isDigit = true) (acc n : Nat) :
    scanDigits ds acc n false = some (ds.foldl digitStep acc, n + ds.length, false, []) := by
  induction ds generalizing acc n with
  | nil => rfl
  | cons c rest ih =>
    rw [scanDigits, if_pos (hd c (List.mem_cons_self ..)),
      ih (fun c hc => hd c (List.mem_cons_of_mem _ hc))]
    simp only [List.foldl_cons, List.length_cons, digitStep]
    rw [Nat.add_assoc, Nat.add_comm 1]

theorem toDigits_eq_append {m : Nat} (hm : 10 ≤ m) :
    Nat.toDigits 10 m = Nat.toDigits 10 (m / 10) ++ [Nat.digitChar (m % 10)] := by
  rw [← Nat.toDigits_of_lt_base (Nat.mod_lt m (by decide)),
    Nat.toDigits_append_toDigits (by decide) (Nat.div_pos hm (by decide)) (Nat.mod_lt m (by decide)),
    Nat.div_add_mod]

theorem isDigit_of_mem_toDigits (m : Nat) : ∀ c ∈ Nat.toDigits 10 m, c.isDigit = true := by
  induction m using Nat.strong_induction_on with
  | _ m ih =>
    intro c hc
    rcases Nat.lt_or_ge m 10 with hm | hm
    · rw [Nat.toDigits_of_lt_base hm, List.mem_singleton] at hc
      rw [hc, Nat.isDigit_digitChar]
      exact decide_eq_true hm
    · rw [toDigits_eq_append hm, List.mem_append, List.mem_singleton] at hc
      rcases hc with hc | rfl
      · exact ih (m / 10) (Nat.div_lt_self (by omega) (by decide)) c hc
      · rw [Nat.isDigit_digitChar]
        exact decide_eq_true (Nat.mod_lt m (by decide))

theorem digitStep_digitChar (acc : Nat) {d : Nat} (hd : d < 10) :
    digitStep acc (Nat.digitChar d) = acc * 10 + d := by
  unfold digitStep
  congr 1
  interval_cases d <;> rfl

/-- The digits of a decimal numeral have the value it was written from. -/
theorem foldl_toDigits (m : Nat) : (Nat.toDigits 10 m).foldl digitStep 0 = m := by
  induction m using Nat.strong_induction_on with
  | _ m ih =>
    rcases Nat.lt_or_ge m 10 with hm | hm
    · rw [Nat.toDigits_of_lt_base hm, List.foldl_cons, List.foldl_nil, digitStep_digitChar _ hm]
      omega
    · rw [toDigits_eq_append hm, List.foldl_append, ih (m / 10) (Nat.div_lt_self (by omega) (by decide)),
        List.foldl_cons, List.foldl_nil, digitStep_digitChar _ (Nat.mod_lt m (by decide))]
      omega

theorem numeralChars_toString (m : Nat) : numeralChars (toString m) = Nat.toDigits 10 m := by
  have hlist : (toString m).toList = Nat.toDigits 10 m := by
    show (Nat.repr m).toList = _
    rw [Nat.repr_eq_ofList_toDigits, String.toList_ofList]
  unfold numeralChars
  rw [hlist]
  refine List.map_congr_left (fun c hc => ?_) |>.trans (List.map_id _)
  have hb := digit_bounds (isDigit_of_mem_toDigits m c hc)
  rw [if_pos (by omega)]
  rfl

/-- A natural number written in decimal reads back as itself. -/
theorem readInteger_toString {m : Nat} (hm : m < 10 ^ integerDigitLimit) :
    readInteger (toString m) = .value m := by
  have hlen : (Nat.toDigits 10 m).length ≤ integerDigitLimit :=
    Nat.toDigits_length 10 m _ (by decide) hm
  obtain ⟨c, rest, hcr⟩ : ∃ c rest, Nat.toDigits 10 m = c :: rest := by
    cases h : Nat.toDigits 10 m with
    | nil => exact absurd h (Nat.toDigits_ne_nil)
    | cons c rest => exact ⟨c, rest, rfl⟩
  have hdig := isDigit_of_mem_toDigits m
  rw [hcr] at hdig hlen
  have hc := digit_bounds (hdig c (List.mem_cons_self ..))
  have hscan := scanDigits_of_isDigit hdig 0 0
  rw [← hcr, foldl_toDigits, hcr] at hscan
  unfold readInteger
  rw [numeralChars_toString, hcr, List.dropWhile_cons, if_neg (by
    rw [isAsciiBlank_of_isDigit (hdig c (List.mem_cons_self ..))]; decide)]
  dsimp only
  have hsign : c ≠ '-' ∧ c ≠ '+' ∧ c ≠ '_' := by
    refine ⟨fun h => ?_, fun h => ?_, fun h => ?_⟩ <;> (rw [h] at hc; simp at hc)
  split
  · exact absurd (List.cons.inj ‹_›).1 hsign.1
  · exact absurd (List.cons.inj ‹_›).1 hsign.2.1
  · dsimp only
    rw [List.head?_cons, if_neg (fun h => hsign.2.2 (Option.some.inj h)), hscan]
    dsimp only
    rw [if_neg Bool.false_ne_true, if_neg (by omega), if_neg (by simp)]
    rfl

end Lighthouse.Text
