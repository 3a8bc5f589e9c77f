import Lighthouse.Proofs.Json.Scan
/-!
# Reading back written documents

A document written on one line (`Json.render`) reads back as itself (`parse_render`), provided
that what it holds can be read at all (`Readable`):

* it nests no deeper than the reader's room;
* no object repeats a key, since a repeated key keeps only its last value;
* no integer has more digits than may be read;
* no string or key holds a character standing for a high surrogate right before one standing
  for a low surrogate (`readsBackChars`);
* every float's text reads back as that float on its own (`FloatReadsBack`).

The reader of arrays and objects takes one item or field per step; each step is read back
(`scanArray_last`, `scanArray_next`, `scanObject_last`, `scanObject_next`), and the steps make
up a document by induction on it (`scanValue_writeAt`). The fuel the reader is given, twice the
length of the text, is more than the length of the written text, which bounds the steps taken.
-/
namespace Lighthouse.Json

/-! ### The written text -/

section Text

@[simp] theorem flat_breakAt (level : Nat) : Layout.flat.breakAt level = "" := rfl

@[simp] theorem flat_joinAt (level : Nat) (parts : List String) :
    Layout.flat.joinAt level parts = ", ".intercalate parts := rfl

theorem toList_quote (s : String) :
    (quote s).toList = '"' :: ((s.toList.flatMap fun c => (escapeChar c).toList) ++ ['"']) := by
  simp [quote, List.flatMap, Function.comp_def]

theorem intercalate_cons_of_ne_nil {s t : String} {l : List String} (h : l ≠ []) :
    s.intercalate (t :: l) = t ++ s ++ s.intercalate l := by
  obtain ⟨u, l, rfl⟩ := List.exists_cons_of_ne_nil h
  exact String.intercalate_cons_cons

theorem writeItems_ne_nil {l : Layout} {level : Nat} {xs : List Json} (h : xs ≠ []) :
    writeItems l level xs ≠ [] := by
  obtain ⟨x, xs, rfl⟩ := List.exists_cons_of_ne_nil h
  simp [writeItems]

theorem writeFields_ne_nil {l : Layout} {level : Nat} {fs : List (String × Json)} (h : fs ≠ []) :
    writeFields l level fs ≠ [] := by
  obtain ⟨⟨k, v⟩, fs, rfl⟩ := List.exists_cons_of_ne_nil h
  simp [writeFields]

theorem toList_writeAt_arr {xs : List Json} (hne : xs ≠ []) (level : Nat) :
    (writeAt Layout.flat level (.arr xs)).toList =
      '[' :: ((", ".intercalate (writeItems Layout.flat (level + 1) xs)).toList ++ [']']) := by
  rw [writeAt.eq_8 _ _ _ hne]
  simp

theorem toList_writeAt_obj {fs : List (String × Json)} (hne : fs ≠ []) (level : Nat) :
    (writeAt Layout.flat level (.obj fs)).toList =
      '{' :: ((", ".intercalate (writeFields Layout.flat (level + 1) fs)).toList ++ ['}']) := by
  rw [writeAt.eq_10 _ _ _ hne]
  simp

theorem toList_field (k : String) (v : Json) (level : Nat) :
    (quote k ++ Layout.flat.keySep ++ writeAt Layout.flat level v).toList =
      '"' :: ((k.toList.flatMap fun c => (escapeChar c).toList) ++
        '"' :: ':' :: ' ' :: (writeAt Layout.flat level v).toList) := by
  simp [toList_quote, Layout.flat]

/-- Whether a text starts as a written value does: with an ASCII character that is neither a
blank nor a closing bracket. -/
def opensValue : List Char → Bool
  | c :: _ => decide (c.toNat < 0x80) && !isBlank c && c != ']'
  | [] => false

theorem skipBlank_opens {l : List Char} (h : opensValue l = true) (p : Nat) :
    skipBlank l p = ⟨l, p⟩ := by
  rcases l with _ | ⟨c, t⟩
  · cases h
  · simp only [opensValue, Bool.and_eq_true, Bool.not_eq_true'] at h
    simp [skipBlank, h.1.2]

theorem skipBlank_of_not_blank {c : Char} (hc : isBlank c = false) (t : List Char) (p : Nat) :
    skipBlank (c :: t) p = ⟨c :: t, p⟩ := by
  simp [skipBlank, hc]

@[simp] theorem toList_comma : ", ".toList = [',', ' '] := rfl

theorem skipBlank_blanks {l : List Char} (hl : ∀ c ∈ l, isBlank c = true) (p : Nat) :
    skipBlank l p = ⟨[], p + l.length⟩ := by
  induction l generalizing p with
  | nil => rfl
  | cons c l ih =>
    rw [skipBlank, if_pos (hl c List.mem_cons_self), ih (fun c hc => hl c (List.mem_cons_of_mem _ hc))]
    simp only [List.length_cons, Cursor.mk.injEq, true_and]
    omega

theorem skipBlank_space (l : List Char) (p : Nat) : skipBlank (' ' :: l) p = skipBlank l (p + 1) :=
  rfl

theorem opensValue_not_bom {l : List Char} (h : opensValue l = true) :
    (l.head? == some '\uFEFF') = false := by
  rcases l with _ | ⟨c, t⟩
  · cases h
  · simp only [opensValue, Bool.and_eq_true, decide_eq_true_eq] at h
    simp only [List.head?_cons, beq_eq_false_iff_ne, ne_eq, Option.some.injEq]
    rintro rfl
    exact absurd h.1.1 (by decide)

theorem opensValue_append {l : List Char} (h : opensValue l = true) (r : List Char) :
    opensValue (l ++ r) = true := by
  rcases l with _ | ⟨c, t⟩
  · cases h
  · exact h

theorem opensValue_of_startsNumber {l : List Char} (h : StartsNumber l) : opensValue l = true := by
  rcases l with _ | ⟨c, t⟩
  · exact h.elim
  rcases h with hc | ⟨rfl, -⟩
  · have hb := isBlank_of_isDigit hc
    have hne : c ≠ ']' := by
      rintro rfl
      exact absurd hc (by decide)
    have hlt : c.toNat < 0x80 := by
      have := Text.digit_bounds hc
      omega
    simp [opensValue, hb, hne, hlt]
  · rfl

theorem opensValue_writeAt (level : Nat) (j : Json) :
    opensValue (writeAt Layout.flat level j).toList = true := by
  cases j with
  | null => rw [writeAt]; decide
  | bool b => cases b <;> (rw [writeAt]; decide)
  | int n => exact opensValue_of_startsNumber (startsNumber_toString n)
  | float x =>
    show opensValue (Decimal.floatText x).toList = true
    rcases floatText_cases x with h | h | h | h
    all_goals first
      | exact opensValue_of_startsNumber h
      | (rw [h]; rfl)
  | str s =>
    show opensValue (quote s).toList = true
    rw [toList_quote]
    rfl
  | arr xs =>
    rcases xs with _ | ⟨x, xs⟩
    · rw [writeAt]; decide
    · rw [toList_writeAt_arr (List.cons_ne_nil x xs)]
      rfl
  | obj fs =>
    rcases fs with _ | ⟨f, fs⟩
    · rw [writeAt]; decide
    · rw [toList_writeAt_obj (List.cons_ne_nil f fs)]
      rfl

theorem opensValue_intercalate {w : String} (hw : opensValue w.toList = true) (l : List String) :
    opensValue (", ".intercalate (w :: l)).toList = true := by
  rcases l with _ | ⟨u, l⟩
  · simpa using hw
  · rw [String.intercalate_cons_cons, String.toList_append, String.toList_append, List.append_assoc]
    exact opensValue_append hw _

theorem opensValue_items {level : Nat} {xs : List Json} (hne : xs ≠ []) :
    opensValue (", ".intercalate (writeItems Layout.flat level xs)).toList = true := by
  obtain ⟨x, xs, rfl⟩ := List.exists_cons_of_ne_nil hne
  exact opensValue_intercalate (opensValue_writeAt level x) _

theorem opensValue_fields {level : Nat} {fs : List (String × Json)} (hne : fs ≠ []) :
    opensValue (", ".intercalate (writeFields Layout.flat level fs)).toList = true := by
  obtain ⟨⟨k, v⟩, fs, rfl⟩ := List.exists_cons_of_ne_nil hne
  refine opensValue_intercalate ?_ _
  rw [toList_field]
  rfl

end Text

/-! ### One step of the readers -/

section Steps

variable {room fuel : Nat}

theorem opensValue_ne_close {l : List Char} (h : opensValue l = true) (r r' : List Char) :
    l ++ r ≠ ']' :: r' := by
  rcases l with _ | ⟨c, t⟩
  · cases h
  · rintro he
    obtain ⟨rfl, -⟩ := List.cons.inj he
    cases h

theorem scanValue_str {r : List Char} {p : Nat} {s : String} {c : Cursor}
    (h : scanString p r (p + 1) [] = .ok (s, c)) :
    scanValue room (fuel + 1) ⟨'"' :: r, p⟩ = .ok (.str s, c) := by
  rw [scanValue.eq_2]
  conv => lhs; whnf
  rw [h]

theorem scanValue_arr (hroom : room ≠ 0) (r : List Char) (p : Nat) :
    scanValue room (fuel + 1) ⟨'[' :: r, p⟩ = scanArray (room - 1) fuel (skipBlank r (p + 1)) [] := by
  rw [scanValue.eq_2]
  exact if_neg hroom

theorem scanValue_obj (hroom : room ≠ 0) (r : List Char) (p : Nat) :
    scanValue room (fuel + 1) ⟨'{' :: r, p⟩ = scanObject (room - 1) fuel (skipBlank r (p + 1)) [] := by
  rw [scanValue.eq_2]
  exact if_neg hroom

/-- The last item of an array, then the closing bracket. -/
theorem scanArray_last {w rest : List Char} {p q : Nat} {acc : List Json} {x : Json}
    (hw : opensValue w = true)
    (hx : scanValue room fuel ⟨w ++ ']' :: rest, p⟩ = .ok (x, ⟨']' :: rest, q⟩)) :
    scanArray room (fuel + 1) ⟨w ++ ']' :: rest, p⟩ acc =
      .ok (.arr (x :: acc).reverse, ⟨rest, q + 1⟩) := by
  rw [scanArray.eq_3 _ _ _ _ fun r h _ => opensValue_ne_close hw _ r h, hx]
  rfl

/-- An item of an array, a comma and a blank: the items after it are read next. -/
theorem scanArray_next {w more : List Char} {p q : Nat} {acc : List Json} {x : Json}
    (hw : opensValue w = true) (hm : opensValue more = true)
    (hx : scanValue room fuel ⟨w ++ ',' :: ' ' :: more, p⟩ = .ok (x, ⟨',' :: ' ' :: more, q⟩)) :
    scanArray room (fuel + 1) ⟨w ++ ',' :: ' ' :: more, p⟩ acc =
      scanArray room fuel ⟨more, q + 2⟩ (x :: acc) := by
  rw [scanArray.eq_3 _ _ _ _ fun r h _ => opensValue_ne_close hw _ r h, hx]
  show scanArray room fuel (skipBlank (' ' :: more) (q + 1)) (x :: acc) = _
  rw [skipBlank_space, skipBlank_opens hm]

theorem insertField_new {acc : List (String × Json)} {k : String} (hk : k ∉ acc.map Prod.fst)
    (v : Json) : insertField acc k v = acc ++ [(k, v)] := by
  unfold insertField
  rw [if_neg]
  simpa using hk

/-- A key, a colon, a blank and the last value of an object, then the closing brace. -/
theorem scanObject_last {r w rest : List Char} {p q q' : Nat} {acc : List (String × Json)}
    {k : String} {v : Json}
    (hk : scanString p r (p + 1) [] = .ok (k, ⟨':' :: ' ' :: (w ++ '}' :: rest), q⟩))
    (hw : opensValue w = true)
    (hv : scanValue room fuel ⟨w ++ '}' :: rest, q + 2⟩ = .ok (v, ⟨'}' :: rest, q'⟩)) :
    scanObject room (fuel + 1) ⟨'"' :: r, p⟩ acc =
      .ok (.obj (insertField acc k v), ⟨rest, q' + 1⟩) := by
  rw [scanObject.eq_3 _ _ _ _ r rfl]
  simp only [hk, skipBlank_of_not_blank (c := ':') rfl, skipBlank_space,
    skipBlank_opens (opensValue_append hw _), Nat.add_assoc, hv,
    skipBlank_of_not_blank (c := '}') rfl]

/-- A key, a colon, a blank and a value of an object, a comma and a blank: the fields after it
are read next. -/
theorem scanObject_next {r w more : List Char} {p q q' : Nat} {acc : List (String × Json)}
    {k : String} {v : Json}
    (hk : scanString p r (p + 1) [] = .ok (k, ⟨':' :: ' ' :: (w ++ ',' :: ' ' :: more), q⟩))
    (hw : opensValue w = true) (hm : opensValue more = true)
    (hv : scanValue room fuel ⟨w ++ ',' :: ' ' :: more, q + 2⟩ =
      .ok (v, ⟨',' :: ' ' :: more, q'⟩)) :
    scanObject room (fuel + 1) ⟨'"' :: r, p⟩ acc =
      scanObject room fuel ⟨more, q' + 2⟩ (insertField acc k v) := by
  rw [scanObject.eq_3 _ _ _ _ r rfl]
  simp only [hk, skipBlank_of_not_blank (c := ':') rfl, skipBlank_space,
    skipBlank_opens (opensValue_append hw _), Nat.add_assoc, hv,
    skipBlank_of_not_blank (c := ',') rfl, skipBlank_opens hm]

theorem key_fresh {acc fs : List (String × Json)} {k : String} {v : Json}
    (h : ((acc ++ (k, v) :: fs).map Prod.fst).Nodup) : k ∉ acc.map Prod.fst := by
  rw [List.map_append, List.nodup_append] at h
  intro hk
  exact h.2.2 k hk k (by simp) rfl

end Steps

/-! ### Documents -/

section Documents

mutual

def depth : Json → Nat
  | .arr xs => depthItems xs + 1
  | .obj fs => depthFields fs + 1
  | _ => 0

/-- How deeply arrays and objects nest in the items of an array. -/
def depthItems : List Json → Nat
  | [] => 0
  | x :: xs => max (depth x) (depthItems xs)

/-- How deeply arrays and objects nest in the values of an object. -/
def depthFields : List (String × Json) → Nat
  | [] => 0
  | (_, v) :: fs => max (depth v) (depthFields fs)

end

mutual

/-- A document whose text reads back as itself: integers within the digit limit, floats that
read back (`FloatReadsBack`), strings and keys whose characters read back one by one, and no
object repeating a key. -/
def Readable : Json → Prop
  | .int n => n.natAbs < 10 ^ Text.integerDigitLimit
  | .float x => FloatReadsBack x
  | .str s => readsBackChars s.toList = true
  | .arr xs => ReadableItems xs
  | .obj fs => (fs.map Prod.fst).Nodup ∧ ReadableFields fs
  | _ => True

def ReadableItems : List Json → Prop
  | [] => True
  | x :: xs => Readable x ∧ ReadableItems xs

def ReadableFields : List (String × Json) → Prop
  | [] => True
  | (k, v) :: fs => readsBackChars k.toList = true ∧ Readable v ∧ ReadableFields fs

end

mutual

/-- A readable document written on one line reads back as itself before anything that may
follow a value, given room for its nesting and more fuel than its text has characters. -/
theorem scanValue_writeAt (room fuel level : Nat) : ∀ (j : Json), Readable j → depth j ≤ room →
    (writeAt Layout.flat level j).toList.length < fuel → ∀ (rest : List Char), Stops rest →
    ∀ (p : Nat), ∃ q,
      scanValue room fuel ⟨(writeAt Layout.flat level j).toList ++ rest, p⟩ = .ok (j, ⟨rest, q⟩)
  | .null => by
    rintro - - hf rest - p
    obtain ⟨f, rfl⟩ := Nat.exists_eq_add_one_of_ne_zero (Nat.ne_zero_of_lt hf)
    exact ⟨p + 4, by rw [writeAt]; rfl⟩
  | .bool true => by
    rintro - - hf rest - p
    obtain ⟨f, rfl⟩ := Nat.exists_eq_add_one_of_ne_zero (Nat.ne_zero_of_lt hf)
    exact ⟨p + 4, by rw [writeAt]; rfl⟩
  | .bool false => by
    rintro - - hf rest - p
    obtain ⟨f, rfl⟩ := Nat.exists_eq_add_one_of_ne_zero (Nat.ne_zero_of_lt hf)
    exact ⟨p + 5, by rw [writeAt]; rfl⟩
  | .int n => by
    rintro hn - hf rest hr p
    obtain ⟨f, rfl⟩ := Nat.exists_eq_add_one_of_ne_zero (Nat.ne_zero_of_lt hf)
    obtain ⟨q, hq⟩ := scanNumber_int hn hr p
    refine ⟨q, ?_⟩
    rw [writeAt, scanValue_number (startsNumber_append (startsNumber_toString n) rest), hq]
    rfl
  | .float x => by
    rintro hx - hf rest hr p
    obtain ⟨f, rfl⟩ := Nat.exists_eq_add_one_of_ne_zero (Nat.ne_zero_of_lt hf)
    exact scanValue_floatText hx hr room f p
  | .str s => by
    rintro hs - hf rest - p
    obtain ⟨f, rfl⟩ := Nat.exists_eq_add_one_of_ne_zero (Nat.ne_zero_of_lt hf)
    obtain ⟨q, hq⟩ := scanString_escaped p hs rest (p + 1) []
    rw [List.reverse_nil, List.nil_append, String.ofList_toList] at hq
    refine ⟨q, ?_⟩
    rw [writeAt, toList_quote, List.cons_append, List.append_assoc, List.singleton_append,
      scanValue_str hq]
  | .arr [] => by
    rintro - hd hf rest - p
    rw [writeAt] at hf ⊢
    have hroom : room ≠ 0 := by
      simp only [depth, depthItems] at hd
      omega
    obtain ⟨f, rfl⟩ : ∃ f, fuel = f + 2 := ⟨fuel - 2, by simp at hf; omega⟩
    exact ⟨p + 2, by rw [show "[]".toList ++ rest = '[' :: ']' :: rest from rfl, scanValue_arr hroom]; rfl⟩
  | .arr (x :: xs) => by
    rintro hxs hd hf rest - p
    have hne : x :: xs ≠ [] := List.cons_ne_nil x xs
    rw [toList_writeAt_arr hne] at hf ⊢
    simp only [depth] at hd
    simp only [List.length_cons, List.length_append] at hf
    obtain ⟨f, rfl⟩ := Nat.exists_eq_add_one_of_ne_zero (Nat.ne_zero_of_lt hf)
    obtain ⟨q, hq⟩ := scanArray_writeItems (room - 1) f (level + 1) (x :: xs) hne hxs (by omega)
      (by omega) [] rest (p + 1)
    refine ⟨q, ?_⟩
    rw [List.cons_append, List.append_assoc, List.singleton_append, scanValue_arr (by omega),
      skipBlank_opens (opensValue_append (opensValue_items hne) _), hq, List.reverse_nil,
      List.nil_append]
  | .obj [] => by
    rintro - hd hf rest - p
    rw [writeAt] at hf ⊢
    have hroom : room ≠ 0 := by
      simp only [depth, depthFields] at hd
      omega
    obtain ⟨f, rfl⟩ : ∃ f, fuel = f + 2 := ⟨fuel - 2, by simp at hf; omega⟩
    exact ⟨p + 2, by rw [show "\x7b\x7d".toList ++ rest = '\x7b' :: '\x7d' :: rest from rfl,
      scanValue_obj hroom]; rfl⟩
  | .obj (fd :: fs) => by
    rintro ⟨hkeys, hfs⟩ hd hf rest - p
    have hne : fd :: fs ≠ [] := List.cons_ne_nil fd fs
    rw [toList_writeAt_obj hne] at hf ⊢
    simp only [depth] at hd
    simp only [List.length_cons, List.length_append] at hf
    obtain ⟨f, rfl⟩ := Nat.exists_eq_add_one_of_ne_zero (Nat.ne_zero_of_lt hf)
    obtain ⟨q, hq⟩ := scanObject_writeFields (room - 1) f (level + 1) (fd :: fs) hne hfs (by omega)
      (by omega) [] hkeys rest (p + 1)
    refine ⟨q, ?_⟩
    rw [List.cons_append, List.append_assoc, List.singleton_append, scanValue_obj (by omega),
      skipBlank_opens (opensValue_append (opensValue_fields hne) _), hq, List.nil_append]

theorem scanArray_writeItems (room fuel level : Nat) : ∀ (xs : List Json), xs ≠ [] →
    ReadableItems xs → depthItems xs ≤ room →
    (", ".intercalate (writeItems Layout.flat level xs)).toList.length + 1 < fuel →
    ∀ (acc : List Json) (rest : List Char) (p : Nat), ∃ q,
      scanArray room fuel
          ⟨(", ".intercalate (writeItems Layout.flat level xs)).toList ++ ']' :: rest, p⟩ acc =
        .ok (.arr (acc.reverse ++ xs), ⟨rest, q⟩)
  | [] => fun hne => (hne rfl).elim
  | [x] => by
    rintro - ⟨hx, -⟩ hd hf acc rest p
    simp only [writeItems, String.intercalate_singleton] at hf ⊢
    simp only [depthItems] at hd
    obtain ⟨f, rfl⟩ := Nat.exists_eq_add_one_of_ne_zero (Nat.ne_zero_of_lt hf)
    obtain ⟨q, hq⟩ := scanValue_writeAt room f level x hx (by omega) (by omega) (']' :: rest)
      (stops_cons (Or.inr (Or.inl rfl))) p
    exact ⟨q + 1, by rw [scanArray_last (opensValue_writeAt level x) hq]; simp⟩
  | x :: y :: ys => by
    rintro - ⟨hx, hxs⟩ hd hf acc rest p
    have hne : y :: ys ≠ [] := List.cons_ne_nil y ys
    rw [writeItems, intercalate_cons_of_ne_nil (writeItems_ne_nil hne)] at hf ⊢
    simp only [String.toList_append, toList_comma, List.length_append, List.length_cons,
      List.length_nil] at hf
    simp only [String.toList_append, toList_comma, List.append_assoc, List.cons_append,
      List.nil_append]
    rw [depthItems.eq_2] at hd
    obtain ⟨f, rfl⟩ := Nat.exists_eq_add_one_of_ne_zero (Nat.ne_zero_of_lt hf)
    obtain ⟨q, hq⟩ := scanValue_writeAt room f level x hx (by omega) (by omega)
      (',' :: ' ' :: ((", ".intercalate (writeItems Layout.flat level (y :: ys))).toList ++
        ']' :: rest))
      (stops_cons (Or.inl rfl)) p
    obtain ⟨q', hq'⟩ := scanArray_writeItems room f level (y :: ys) hne hxs (by omega) (by omega)
      (x :: acc) rest (q + 2)
    refine ⟨q', ?_⟩
    rw [scanArray_next (opensValue_writeAt level x) (opensValue_append (opensValue_items hne) _)
      hq, hq']
    simp

theorem scanObject_writeFields (room fuel level : Nat) : ∀ (fs : List (String × Json)), fs ≠ [] →
    ReadableFields fs → depthFields fs ≤ room →
    (", ".intercalate (writeFields Layout.flat level fs)).toList.length + 1 < fuel →
    ∀ (acc : List (String × Json)), ((acc ++ fs).map Prod.fst).Nodup →
    ∀ (rest : List Char) (p : Nat), ∃ q,
      scanObject room fuel
          ⟨(", ".intercalate (writeFields Layout.flat level fs)).toList ++ '}' :: rest, p⟩ acc =
        .ok (.obj (acc ++ fs), ⟨rest, q⟩)
  | [] => fun hne => (hne rfl).elim
  | [(k, v)] => by
    rintro - ⟨hk, hv, -⟩ hd hf acc hkeys rest p
    simp only [writeFields, String.intercalate_singleton] at hf ⊢
    rw [toList_field] at hf ⊢
    simp only [depthFields] at hd
    simp only [List.length_cons, List.length_append] at hf
    obtain ⟨f, rfl⟩ := Nat.exists_eq_add_one_of_ne_zero (Nat.ne_zero_of_lt hf)
    obtain ⟨q, hq⟩ := scanString_escaped p hk
      (':' :: ' ' :: ((writeAt Layout.flat level v).toList ++ '}' :: rest)) (p + 1) []
    rw [List.reverse_nil, List.nil_append, String.ofList_toList] at hq
    obtain ⟨q', hq'⟩ := scanValue_writeAt room f level v hv (by omega) (by omega) ('}' :: rest)
      (stops_cons (Or.inr (Or.inr (Or.inl rfl)))) (q + 2)
    refine ⟨q' + 1, ?_⟩
    rw [List.cons_append, List.append_assoc, List.cons_append, List.cons_append, List.cons_append,
      scanObject_last hq (opensValue_writeAt level v) hq', insertField_new (key_fresh hkeys)]
  | (k, v) :: fd :: fs => by
    rintro - ⟨hk, hv, hfs⟩ hd hf acc hkeys rest p
    have hne : fd :: fs ≠ [] := List.cons_ne_nil fd fs
    rw [writeFields, intercalate_cons_of_ne_nil (writeFields_ne_nil hne), String.toList_append,
      String.toList_append, toList_field, toList_comma] at hf ⊢
    simp only [List.length_append, List.length_cons, List.length_nil] at hf
    simp only [List.append_assoc, List.cons_append, List.nil_append]
    rw [depthFields.eq_2] at hd
    obtain ⟨f, rfl⟩ := Nat.exists_eq_add_one_of_ne_zero (Nat.ne_zero_of_lt hf)
    obtain ⟨q, hq⟩ := scanString_escaped p hk (':' :: ' ' :: ((writeAt Layout.flat level v).toList ++
      ',' :: ' ' :: ((", ".intercalate (writeFields Layout.flat level (fd :: fs))).toList ++
        '}' :: rest))) (p + 1) []
    rw [List.reverse_nil, List.nil_append, String.ofList_toList] at hq
    obtain ⟨q', hq'⟩ := scanValue_writeAt room f level v hv (by omega) (by omega)
      (',' :: ' ' :: ((", ".intercalate (writeFields Layout.flat level (fd :: fs))).toList ++
        '}' :: rest)) (stops_cons (Or.inl rfl)) (q + 2)
    obtain ⟨q'', hq''⟩ := scanObject_writeFields room f level (fd :: fs) hne hfs (by omega)
      (by omega) (acc ++ [(k, v)]) (by simpa using hkeys) rest (q' + 2)
    refine ⟨q'', ?_⟩
    rw [scanObject_next hq (opensValue_writeAt level v) (opensValue_append (opensValue_fields hne) _)
      hq', insertField_new (key_fresh hkeys), hq'']
    simp

end

theorem parse_render_append {room : Nat} {j : Json} (hj : Readable j) (hd : depth j ≤ room)
    {s : String} (hs : ∀ c ∈ s.toList, isBlank c = true) :
    parse room (render j ++ s) = .ok j := by
  have hopen := opensValue_writeAt 0 j
  have hstop : Stops s.toList := fun c t h => Or.inr (Or.inr (Or.inr (hs c (by simp [h]))))
  obtain ⟨q, hq⟩ := scanValue_writeAt room
    (2 * ((writeAt Layout.flat 0 j).toList ++ s.toList).length + 2) 0 j hj hd
    (by simp only [List.length_append]; omega) s.toList hstop 0
  unfold parse render write
  rw [String.toList_append, if_neg (by rw [opensValue_not_bom (opensValue_append hopen _)]; decide),
    skipBlank_opens (opensValue_append hopen _)]
  dsimp only
  rw [hq]
  dsimp only
  rw [skipBlank_blanks hs]
  rfl

/-- A readable document written on one line reads back as itself, given room for its nesting. -/
theorem parse_render {room : Nat} {j : Json} (hj : Readable j) (hd : depth j ≤ room) :
    parse room (render j) = .ok j := by
  have := parse_render_append hj hd (s := "") (by simp)
  rwa [String.append_empty] at this

end Documents

end Lighthouse.Json
