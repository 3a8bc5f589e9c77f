import Lighthouse.Proofs.Json.ReadBack
/-!
# Written JSON is printable ASCII

A document written on one line holds only printable ASCII characters, from the space to the
tilde (`all_isPrintable_render`): strings are escaped to ASCII, numbers are digits, signs,
points and exponent marks. In particular it holds no line end, so it makes one line of a log.
-/
namespace Lighthouse.Json

/-- Whether a character is printable ASCII: from the space to the tilde. -/
def isPrintable (c : Char) : Bool := 0x20 ≤ c.toNat && c.toNat ≤ 0x7e

theorem isPrintable_of_isDigit {c : Char} (h : c.isDigit = true) : isPrintable c = true := by
  have := Text.digit_bounds h
  simp only [isPrintable, Bool.and_eq_true, decide_eq_true_eq]
  omega

/-! ### Numbers -/

section Numbers

theorem all_isPrintable_toDigits (n : Nat) : (Nat.toDigits 10 n).all isPrintable = true :=
  List.all_eq_true.mpr fun c hc => isPrintable_of_isDigit (Text.isDigit_of_mem_toDigits n c hc)

theorem all_isPrintable_digitsOf (n : Nat) :
    (Decimal.digitsOf n).toList.all isPrintable = true := by
  show (Nat.repr n).toList.all isPrintable = true
  rw [Nat.repr_eq_ofList_toDigits, String.toList_ofList]
  exact all_isPrintable_toDigits n

theorem all_isPrintable_zeros (n : Nat) : (Decimal.zeros n).toList.all isPrintable = true := by
  refine List.all_eq_true.mpr fun c hc => ?_
  rw [Decimal.zeros, String.toList_ofList] at hc
  rw [List.eq_of_mem_replicate hc]
  rfl

theorem all_isPrintable_toString (n : Int) : (toString n).toList.all isPrintable = true := by
  rw [toList_toString_int, List.all_append, all_isPrintable_toDigits]
  split <;> rfl

theorem all_isPrintable_positional {ds : String} (hds : ds.toList.all isPrintable = true)
    (p : Int) : (Decimal.positional ds p).toList.all isPrintable = true := by
  unfold Decimal.positional
  split
  · simp only [String.toList_append, List.all_append, all_isPrintable_zeros, hds]
    decide
  split
  · have htake : (ds.toList.take p.toNat).all isPrintable = true := List.all_eq_true.mpr
      fun c hc => List.all_eq_true.mp hds c (List.mem_of_mem_take hc)
    have hdrop : (ds.toList.drop p.toNat).all isPrintable = true := List.all_eq_true.mpr
      fun c hc => List.all_eq_true.mp hds c (List.mem_of_mem_drop hc)
    simp only [String.toList_append, String.toList_ofList, List.all_append, htake, hdrop]
    decide
  · simp only [String.toList_append, List.all_append, all_isPrintable_zeros, hds]
    decide

theorem all_isPrintable_scientific {ds : String} (hds : ds.toList.all isPrintable = true)
    (e : Int) (w : Nat) : (Decimal.scientific ds e w).toList.all isPrintable = true := by
  unfold Decimal.scientific
  have hsign : (if e < 0 then "-" else "+").toList.all isPrintable = true := by split <;> rfl
  simp only [String.toList_append, List.all_append, all_isPrintable_zeros, all_isPrintable_digitsOf,
    hsign, Bool.and_true]
  split
  · rfl
  · rename_i d h
    rw [h, List.all_cons, List.all_nil, Bool.and_true] at hds
    simp [hds]
    rfl
  · rename_i d rest _ h
    rw [h, List.all_cons, Bool.and_eq_true] at hds
    simp only [String.toList_append, String.toList_singleton, String.toList_ofList, List.all_append,
      List.all_cons, List.all_nil, hds.1, hds.2]
    rfl

theorem all_isPrintable_floatText (x : Float) :
    (Decimal.floatText x).toList.all isPrintable = true := by
  unfold Decimal.floatText Decimal.FloatStyle.write
  split
  · decide
  split
  · split <;> decide
  dsimp only
  have hsign : ∀ s : String, s.toList.all isPrintable = true →
      ((if (Binary64.parts x).neg then "-" else "") ++ s).toList.all isPrintable = true := by
    intro s hs
    rw [String.toList_append, List.all_append, hs, Bool.and_true]
    split <;> rfl
  split
  · exact hsign _ (by decide)
  · split
    · exact hsign _ (all_isPrintable_positional (all_isPrintable_digitsOf _) _)
    · exact hsign _ (all_isPrintable_scientific (all_isPrintable_digitsOf _) _ _)

end Numbers

/-! ### Strings -/

section Strings

theorem isPrintable_hexDigit (i : Nat) :
    isPrintable ("0123456789abcdef".toList.getD i '0') = true := by
  have hall : "0123456789abcdef".toList.all isPrintable = true := by decide
  rw [List.getD_eq_getElem?_getD]
  cases h : "0123456789abcdef".toList[i]? with
  | none => rfl
  | some c => exact List.all_eq_true.mp hall c (List.mem_of_getElem? h)

theorem all_isPrintable_hex4Text (n : Nat) : (hex4Text n).toList.all isPrintable = true := by
  simp only [hex4Text, String.toList_ofList, List.all_cons, List.all_nil, isPrintable_hexDigit,
    Bool.and_self]

theorem all_isPrintable_unicodeEscape (n : Nat) :
    ("\\u" ++ hex4Text n).toList.all isPrintable = true := by
  rw [String.toList_append, List.all_append, all_isPrintable_hex4Text]
  rfl

theorem all_isPrintable_escapeChar (c : Char) : (escapeChar c).toList.all isPrintable = true := by
  unfold escapeChar
  split
  iterate 7 decide
  dsimp only
  split
  · rename_i h
    simp [isPrintable, h.1, h.2]
  split
  · exact all_isPrintable_unicodeEscape _
  split
  · exact all_isPrintable_unicodeEscape _
  · simp only [String.toList_append, List.all_append, all_isPrintable_hex4Text]
    rfl

theorem all_isPrintable_quote (s : String) : (quote s).toList.all isPrintable = true := by
  rw [toList_quote, List.all_cons, List.all_append, List.all_flatMap,
    List.all_eq_true.mpr fun c _ => all_isPrintable_escapeChar c]
  rfl

theorem all_isPrintable_intercalate {sep : String} (hs : sep.toList.all isPrintable = true) :
    ∀ {l : List String}, (∀ t ∈ l, t.toList.all isPrintable = true) →
      (sep.intercalate l).toList.all isPrintable = true
  | [], _ => rfl
  | [t], h => by
    rw [String.intercalate_singleton]
    exact h t (List.mem_singleton_self t)
  | t :: u :: l, h => by
    have hrest := all_isPrintable_intercalate hs (l := u :: l) fun v hv =>
      h v (List.mem_cons_of_mem t hv)
    rw [String.intercalate_cons_cons, String.toList_append, String.toList_append, List.all_append,
      List.all_append, hs, h t List.mem_cons_self, hrest]
    rfl

end Strings

/-! ### Documents -/

section Documents

mutual

theorem all_isPrintable_writeAt (level : Nat) :
    ∀ j : Json, (writeAt Layout.flat level j).toList.all isPrintable = true
  | .null => by rw [writeAt]; decide
  | .bool true => by rw [writeAt]; decide
  | .bool false => by rw [writeAt]; decide
  | .int n => by rw [writeAt]; exact all_isPrintable_toString n
  | .float x => by rw [writeAt]; exact all_isPrintable_floatText x
  | .str s => by rw [writeAt]; exact all_isPrintable_quote s
  | .arr [] => by rw [writeAt]; decide
  | .arr (x :: xs) => by
    rw [toList_writeAt_arr (List.cons_ne_nil x xs), List.all_cons, List.all_append,
      all_isPrintable_intercalate (by decide) (all_isPrintable_writeItems (level + 1) (x :: xs))]
    rfl
  | .obj [] => by rw [writeAt]; decide
  | .obj (fd :: fs) => by
    rw [toList_writeAt_obj (List.cons_ne_nil fd fs), List.all_cons, List.all_append,
      all_isPrintable_intercalate (by decide) (all_isPrintable_writeFields (level + 1) (fd :: fs))]
    rfl

theorem all_isPrintable_writeItems (level : Nat) :
    ∀ xs : List Json, ∀ t ∈ writeItems Layout.flat level xs, t.toList.all isPrintable = true
  | [] => by simp [writeItems]
  | x :: xs => by
    intro t ht
    rw [writeItems, List.mem_cons] at ht
    rcases ht with rfl | ht
    · exact all_isPrintable_writeAt level x
    · exact all_isPrintable_writeItems level xs t ht

theorem all_isPrintable_writeFields (level : Nat) :
    ∀ fs : List (String × Json), ∀ t ∈ writeFields Layout.flat level fs,
      t.toList.all isPrintable = true
  | [] => by simp [writeFields]
  | (k, v) :: fs => by
    intro t ht
    rw [writeFields, List.mem_cons] at ht
    rcases ht with rfl | ht
    · rw [toList_field, List.all_cons, List.all_append, List.all_flatMap,
        List.all_eq_true.mpr fun c _ => all_isPrintable_escapeChar c, List.all_cons, List.all_cons,
        List.all_cons, all_isPrintable_writeAt level v]
      rfl
    · exact all_isPrintable_writeFields level fs t ht

end

/-- A document written on one line is printable ASCII. -/
theorem all_isPrintable_render (j : Json) : (render j).toList.all isPrintable = true :=
  all_isPrintable_writeAt 0 j

theorem not_mem_render {c : Char} (hc : isPrintable c = false) (j : Json) :
    c ∉ (render j).toList := fun h => by
  rw [List.all_eq_true.mp (all_isPrintable_render j) c h] at hc
  cases hc

end Documents

end Lighthouse.Json
