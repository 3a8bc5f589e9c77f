import Lighthouse.Json.Read
import Lighthouse.Json.Write
import Lighthouse.Proofs.Text.Numeral
/-!
# Reading back written scalars

The reader of a document takes a value, then whatever follows it. Each scanner of a scalar is
shown here to read back the text written for its value and to stop exactly at its end, whatever
may follow a value there: nothing, a blank, a comma or a closing bracket (`Stops`).

* An integer within the digit limit reads back (`scanNumber_int`); a number is read as far as
  its grammar goes (`scanNumber_append`) and wherever it stands (`scanNumber_shift`), so a float
  whose text reads back alone reads back inside a document (`scanValue_floatText`).
* A string reads back from its escapes (`scanString_escaped`) unless it holds a character
  standing for a high surrogate right before one standing for a low surrogate: the two escapes
  written for them read back as one character (`readsBackChars`).
-/
namespace Lighthouse.Json

/-- What follows a written value inside a document: nothing, a blank, a comma or a closing
bracket. No reader of a value goes past it. -/
def Stops (rest : List Char) : Prop :=
  ∀ c t, rest = c :: t → c = ',' ∨ c = ']' ∨ c = '}' ∨ isBlank c = true

theorem stops_cons {c : Char} {t : List Char}
    (hc : c = ',' ∨ c = ']' ∨ c = '}' ∨ isBlank c = true) : Stops (c :: t) := by
  rintro c' t' h
  obtain ⟨rfl, -⟩ := List.cons.inj h
  exact hc

/-! ### Numbers

A number is read as far as its grammar goes (`scanNumber_append`) and wherever it stands
(`scanNumber_shift`), so what it reads alone it reads before anything that may follow a value.
-/

section Numbers

theorem stops_head {rest : List Char} (hr : Stops rest) :
    ∀ c t, rest = c :: t →
      c ≠ '.' ∧ c ≠ 'e' ∧ c ≠ 'E' ∧ c ≠ '+' ∧ c ≠ '-' ∧ c.isDigit = false := by
  rintro c t rfl
  rcases hr c t rfl with rfl | rfl | rfl | hb
  all_goals try decide
  simp only [isBlank, Bool.or_eq_true, decide_eq_true_eq] at hb
  rcases hb with ((rfl | rfl) | rfl) | rfl <;> decide

theorem takeDigits_append_stop {rest : List Char} (hr : ∀ c t, rest = c :: t → c.isDigit = false)
    (u : List Char) (acc n : Nat) :
    Decimal.takeDigits (u ++ rest) acc n =
      ((Decimal.takeDigits u acc n).1, (Decimal.takeDigits u acc n).2.1,
        (Decimal.takeDigits u acc n).2.2 ++ rest) := by
  induction u generalizing acc n with
  | nil =>
    cases rest with
    | nil => rfl
    | cons c t => simp [Decimal.takeDigits, hr c t rfl]
  | cons c u ih =>
    simp only [List.cons_append, Decimal.takeDigits]
    split
    · exact ih _ _
    · rfl

theorem takeDigits_digits {ds : List Char} (hd : ∀ c ∈ ds, c.isDigit = true) (acc n : Nat) :
    Decimal.takeDigits ds acc n = (ds.foldl Text.digitStep acc, n + ds.length, []) := by
  induction ds generalizing acc n with
  | nil => rfl
  | cons c ds ih =>
    rw [Decimal.takeDigits, if_pos (hd c List.mem_cons_self),
      ih (fun c hc => hd c (List.mem_cons_of_mem _ hc))]
    simp only [List.foldl_cons, List.length_cons, Text.digitStep]
    rw [Nat.add_assoc, Nat.add_comm 1]

theorem intPart_append {rest : List Char} (hr : Stops rest) (u : List Char) :
    intPart (u ++ rest) = (intPart u).map fun w => (w.1, w.2.1, w.2.2 ++ rest) := by
  have hstop := stops_head hr
  cases u with
  | nil =>
    rcases rest with _ | ⟨c, t⟩
    · rfl
    · obtain ⟨-, -, -, -, -, hd⟩ := hstop c t rfl
      have h0 : c ≠ '0' := by
        rintro rfl
        simp at hd
      simp [intPart.eq_2 _ _ h0, intPart.eq_3, hd]
  | cons c u =>
    by_cases h0 : c = '0'
    · subst h0
      rfl
    · rw [List.cons_append, intPart.eq_2 _ _ h0, intPart.eq_2 _ _ h0]
      split
      · rw [← List.cons_append, takeDigits_append_stop (fun c t h => (hstop c t h).2.2.2.2.2)]
        rfl
      · rfl

theorem fracPart_append {rest : List Char} (hr : Stops rest) (whole : Nat) (u : List Char) :
    fracPart whole (u ++ rest) =
      ((fracPart whole u).1, (fracPart whole u).2.1, (fracPart whole u).2.2 ++ rest) := by
  have hstop := stops_head hr
  rcases u with _ | ⟨c, _ | ⟨d, r⟩⟩
  · -- nothing of the number is left: what follows holds no point
    rcases rest with _ | ⟨c, t⟩
    · rfl
    · obtain ⟨hp, -⟩ := hstop c t rfl
      rw [List.nil_append, fracPart.eq_2 _ _ (by simp [hp]), fracPart.eq_2 _ _ (by simp)]
      rfl
  · by_cases hc : c = '.'
    · -- a lone point, which no digit follows
      subst hc
      rcases rest with _ | ⟨c, t⟩
      · rfl
      · obtain ⟨-, -, -, -, -, hd⟩ := hstop c t rfl
        rw [List.singleton_append, fracPart.eq_1, if_neg (by simp [hd]), fracPart.eq_2 _ _ (by simp)]
        rfl
    · rw [List.singleton_append, fracPart.eq_2 _ _ (by simp [hc]), fracPart.eq_2 _ _ (by simp [hc])]
      rfl
  · by_cases hc : c = '.'
    · subst hc
      rw [List.cons_append, List.cons_append, fracPart.eq_1, fracPart.eq_1]
      split
      · rw [← List.cons_append, takeDigits_append_stop (fun c t h => (hstop c t h).2.2.2.2.2)]
      · rfl
    · rw [List.cons_append, List.cons_append, fracPart.eq_2 _ _ (by simp [hc]),
        fracPart.eq_2 _ _ (by simp [hc])]
      rfl

theorem expSign_append {rest : List Char} (hr : Stops rest) {r : List Char} (h1 : r ≠ ['+'])
    (h2 : r ≠ ['-']) :
    expSign (r ++ rest) = ((expSign r).1, (expSign r).2.1 ++ rest, (expSign r).2.2) := by
  rcases rest with _ | ⟨c, t⟩
  · simp
  obtain ⟨-, -, -, hp, hm, -⟩ := stops_head hr c t rfl
  rcases r with _ | ⟨s, _ | ⟨d, r⟩⟩
  · rw [List.nil_append, expSign.eq_3 _ (by simp [hp]) (by simp [hm]),
      expSign.eq_3 _ (by simp) (by simp)]
    rfl
  · have hs : s ≠ '+' ∧ s ≠ '-' := ⟨fun h => h1 (by rw [h]), fun h => h2 (by rw [h])⟩
    rw [List.singleton_append, expSign.eq_3 _ (by simp [hs.1]) (by simp [hs.2]),
      expSign.eq_3 _ (by simp [hs.1]) (by simp [hs.2])]
    rfl
  · by_cases hs : s = '+' ∨ s = '-'
    · rcases hs with rfl | rfl <;> rfl
    · simp only [not_or] at hs
      rw [expSign.eq_3 _ (by simp [hs.1]) (by simp [hs.2]),
        expSign.eq_3 _ (by simp [hs.1]) (by simp [hs.2])]

theorem expoPart_append {rest : List Char} (hr : Stops rest) (u : List Char) :
    expoPart (u ++ rest) = (expoPart u).map fun w => (w.1, w.2.1, w.2.2 ++ rest) := by
  rcases rest with _ | ⟨c, t⟩
  · simp
  obtain ⟨-, he, hE, -, -, hd⟩ := stops_head hr c t rfl
  have hdig : ∀ c' t', c :: t = c' :: t' → c'.isDigit = false := by
    rintro c' t' h
    rw [← (List.cons.inj h).1]
    exact hd
  rcases u with _ | ⟨e, r⟩
  · rw [List.nil_append, expoPart.eq_1, if_neg (by simp [he, hE]), expoPart.eq_2]
    rfl
  rw [List.cons_append, expoPart.eq_1, expoPart.eq_1]
  split
  case isFalse => rfl
  dsimp only
  by_cases hs : r = ['+'] ∨ r = ['-']
  · -- a lone sign, which no digit follows
    rcases hs with rfl | rfl <;> simp [expSign.eq_1, expSign.eq_2, expSign.eq_3, Decimal.takeDigits, hd]
  · simp only [not_or] at hs
    rw [expSign_append hr hs.1 hs.2, takeDigits_append_stop hdig]
    split <;> simp_all

theorem scanUnsigned_append {rest : List Char} (hr : Stops rest) (neg : Bool) (u : List Char)
    (p start : Nat) :
    scanUnsigned neg (u ++ rest) p start =
      (scanUnsigned neg u p start).map (Except.map fun r => (r.1, ⟨r.2.rest ++ rest, r.2.pos⟩)) := by
  unfold scanUnsigned
  rw [intPart_append hr]
  rcases intPart u with _ | ⟨whole, nWhole, r1⟩
  · rfl
  dsimp only [Option.map_some]
  rw [fracPart_append hr, expoPart_append hr]
  rcases expoPart (fracPart whole r1).2.2 with _ | ⟨e, n, r3⟩
  · dsimp only [Option.map_none]
    split
    · rfl
    split <;> rfl
  · rfl

theorem scanNumber_unsigned {c : Char} (hc : c ≠ '-') (t : List Char) (p : Nat) :
    scanNumber ⟨c :: t, p⟩ = scanUnsigned false (c :: t) p p := by
  unfold scanNumber
  split
  · simp_all
  · rfl

theorem scanNumber_append {rest : List Char} (hr : Stops rest) {t : List Char} (ht : t ≠ [])
    (p : Nat) :
    scanNumber ⟨t ++ rest, p⟩ =
      (scanNumber ⟨t, p⟩).map (Except.map fun r => (r.1, ⟨r.2.rest ++ rest, r.2.pos⟩)) := by
  obtain ⟨c, t, rfl⟩ := List.exists_cons_of_ne_nil ht
  by_cases hc : c = '-'
  · subst hc
    exact scanUnsigned_append hr true t (p + 1) p
  · rw [List.cons_append, scanNumber_unsigned hc, scanNumber_unsigned hc, ← List.cons_append]
    exact scanUnsigned_append hr false (c :: t) p p

theorem scanUnsigned_shift {neg : Bool} {u : List Char} {p start : Nat} {j : Json} {c : Cursor}
    (h : scanUnsigned neg u p start = some (.ok (j, c))) (k start' : Nat) :
    scanUnsigned neg u (p + k) start' = some (.ok (j, ⟨c.rest, c.pos + k⟩)) := by
  unfold scanUnsigned at h ⊢
  split at h
  · cases h
  dsimp only at h ⊢
  have hpos : ∀ r q q', q' = q + k →
      (some (.ok (j, ⟨r, q'⟩)) : Option (Except ReadError (Json × Cursor))) =
        some (.ok (j, ⟨r, q + k⟩)) := by
    rintro r q q' rfl
    rfl
  split at h
  · cases h
    exact hpos _ _ _ (by dsimp only; split <;> omega)
  · split at h
    · rw [if_pos ‹_›]
      cases h
      exact hpos _ _ _ (by dsimp only; split <;> omega)
    · rw [if_neg ‹_›]
      split at h
      · cases h
      · rw [if_neg ‹_›]
        cases h
        exact hpos _ _ _ (by dsimp only; split <;> omega)

/-- Reading a number does not depend on where it stands. -/
theorem scanNumber_shift {t : List Char} {j : Json} {c : Cursor}
    (h : scanNumber ⟨t, 0⟩ = some (.ok (j, c))) (p : Nat) :
    scanNumber ⟨t, p⟩ = some (.ok (j, ⟨c.rest, c.pos + p⟩)) := by
  rcases t with _ | ⟨d, t⟩
  · cases h
  by_cases hd : d = '-'
  · subst hd
    have := scanUnsigned_shift h p p
    rw [Nat.zero_add, Nat.add_comm] at this
    exact this
  · rw [scanNumber_unsigned hd] at h ⊢
    have := scanUnsigned_shift h p p
    rw [Nat.zero_add] at this
    exact this

theorem toDigits_head_ne_zero {m : Nat} (hm : 0 < m) :
    ∃ c ds, Nat.toDigits 10 m = c :: ds ∧ c ≠ '0' := by
  induction m using Nat.strong_induction_on with
  | _ m ih =>
    rcases Nat.lt_or_ge m 10 with hlt | hge
    · refine ⟨Nat.digitChar m, [], Nat.toDigits_of_lt_base hlt, ?_⟩
      interval_cases m <;> decide
    · obtain ⟨c, ds, hcd, hc⟩ := ih (m / 10) (Nat.div_lt_self (by omega) (by decide)) (by omega)
      exact ⟨c, ds ++ [Nat.digitChar (m % 10)], by rw [Text.toDigits_eq_append hge, hcd]; rfl, hc⟩

theorem scanUnsigned_toDigits (neg : Bool) {m : Nat} (hm : m < 10 ^ Text.integerDigitLimit)
    (p start : Nat) :
    scanUnsigned neg (Nat.toDigits 10 m) p start =
      some (.ok (.int (if neg then -(m : Int) else m), ⟨[], p + (Nat.toDigits 10 m).length⟩)) := by
  have hlen : (Nat.toDigits 10 m).length ≤ Text.integerDigitLimit :=
    Nat.toDigits_length 10 m _ (by decide) hm
  unfold scanUnsigned
  rcases Nat.eq_zero_or_pos m with rfl | hpos
  · -- zero is written `0`
    rfl
  · obtain ⟨c, ds, hcd, hc⟩ := toDigits_head_ne_zero hpos
    have htake := takeDigits_digits (Text.isDigit_of_mem_toDigits m) 0 0
    rw [Text.foldl_toDigits, hcd] at htake
    have hdig : c.isDigit = true :=
      Text.isDigit_of_mem_toDigits m c (by rw [hcd]; exact List.mem_cons_self)
    rw [hcd] at hlen ⊢
    rw [intPart.eq_2 _ _ hc, if_pos ⟨hdig, hc⟩, htake]
    dsimp only
    rw [fracPart.eq_2 _ _ (by simp), expoPart.eq_2]
    dsimp only
    -- no fraction, no exponent, and no more digits than the limit
    rw [if_neg (Nat.lt_irrefl 0), if_neg (by omega), if_neg (Nat.lt_irrefl 0), Nat.zero_add,
      Nat.add_zero]

theorem toList_toString_int (n : Int) :
    (toString n).toList = (if decide (n < 0) then ['-'] else []) ++ Nat.toDigits 10 n.natAbs := by
  cases n with
  | ofNat m =>
    show (Nat.repr m).toList = _
    simp [Nat.repr_eq_ofList_toDigits]
  | negSucc m =>
    show ("-" ++ Nat.repr (m + 1)).toList = _
    simp [Nat.repr_eq_ofList_toDigits, Int.natAbs_negSucc]

theorem scanNumber_toString {n : Int} (hn : n.natAbs < 10 ^ Text.integerDigitLimit) (p : Nat) :
    ∃ q, scanNumber ⟨(toString n).toList, p⟩ = some (.ok (.int n, ⟨[], q⟩)) := by
  rw [toList_toString_int]
  by_cases hneg : n < 0
  · refine ⟨p + 1 + (Nat.toDigits 10 n.natAbs).length, ?_⟩
    rw [decide_eq_true hneg, if_pos rfl, List.singleton_append]
    refine (scanUnsigned_toDigits true hn (p + 1) p).trans ?_
    rw [if_pos rfl, show -(n.natAbs : Int) = n by omega]
  · obtain ⟨c, ds, hcd⟩ := List.exists_cons_of_ne_nil (Nat.toDigits_ne_nil (n := n.natAbs))
    have hc : c ≠ '-' := by
      rintro rfl
      exact absurd (Text.isDigit_of_mem_toDigits _ '-' (by rw [hcd]; exact List.mem_cons_self))
        (by decide)
    refine ⟨p + (Nat.toDigits 10 n.natAbs).length, ?_⟩
    rw [decide_eq_false hneg, if_neg (by decide), List.nil_append, hcd, scanNumber_unsigned hc,
      ← hcd]
    refine (scanUnsigned_toDigits false hn p p).trans ?_
    rw [if_neg (by decide), show ((n.natAbs : Nat) : Int) = n by omega]

/-- An integer written in decimal reads back as itself before anything that may follow a value. -/
theorem scanNumber_int {n : Int} (hn : n.natAbs < 10 ^ Text.integerDigitLimit) {rest : List Char}
    (hr : Stops rest) (p : Nat) :
    ∃ q, scanNumber ⟨(toString n).toList ++ rest, p⟩ = some (.ok (.int n, ⟨rest, q⟩)) := by
  obtain ⟨q, hq⟩ := scanNumber_toString hn p
  have hne : (toString n).toList ≠ [] := by
    rw [toList_toString_int]
    simp [Nat.toDigits_ne_nil]
  exact ⟨q, by rw [scanNumber_append hr hne, hq]; rfl⟩

/-- Text that the reader takes for a number: a digit first, or a minus sign before a digit. -/
def StartsNumber : List Char → Prop
  | c :: t => c.isDigit = true ∨ (c = '-' ∧ ∃ d u, t = d :: u ∧ d.isDigit = true)
  | [] => False

theorem scanValue_number {room fuel : Nat} {t : List Char} (ht : StartsNumber t) (p : Nat) :
    scanValue room (fuel + 1) ⟨t, p⟩ =
      (scanNumber ⟨t, p⟩).getD (.error (malformedError "Expecting value" p)) := by
  rcases t with _ | ⟨c, t⟩
  · exact ht.elim
  rw [scanValue.eq_2]
  dsimp only
  split
  case h_10 => cases scanNumber ⟨c :: t, p⟩ <;> rfl
  all_goals (rcases ht with hc | ⟨rfl, d, u, hu, hd⟩ <;> simp_all)

theorem startsNumber_append {t : List Char} (ht : StartsNumber t) (rest : List Char) :
    StartsNumber (t ++ rest) := by
  rcases t with _ | ⟨c, t⟩
  · exact ht.elim
  rcases ht with hc | ⟨rfl, d, u, rfl, hd⟩
  · exact Or.inl hc
  · exact Or.inr ⟨rfl, d, u ++ rest, rfl, hd⟩

theorem startsNumber_sign (neg : Bool) {s : String} {c : Char} (hs : s.toList.head? = some c)
    (hc : c.isDigit = true) : StartsNumber ((if neg then "-" else "") ++ s).toList := by
  obtain ⟨t, ht⟩ := List.head?_eq_some_iff.mp hs
  cases neg <;> simp [ht, StartsNumber, hc]

theorem isBlank_of_isDigit {c : Char} (hc : c.isDigit = true) : isBlank c = false := by
  have := Text.digit_bounds hc
  unfold isBlank
  simp only [Bool.or_eq_false_iff, decide_eq_false_iff_not]
  refine ⟨⟨⟨?_, ?_⟩, ?_⟩, ?_⟩ <;> rintro rfl <;> simp at this

theorem startsNumber_toString (n : Int) : StartsNumber (toString n).toList := by
  obtain ⟨c, ds, hcd⟩ := List.exists_cons_of_ne_nil (Nat.toDigits_ne_nil (n := n.natAbs))
  have hc : c.isDigit = true :=
    Text.isDigit_of_mem_toDigits _ c (by rw [hcd]; exact List.mem_cons_self)
  rw [toList_toString_int, hcd]
  split
  · exact Or.inr ⟨rfl, c, ds, rfl, hc⟩
  · exact Or.inl hc

theorem digitsOf_head (n : Nat) :
    ∃ c t, (Decimal.digitsOf n).toList = c :: t ∧ c.isDigit = true := by
  show ∃ c t, (Nat.repr n).toList = c :: t ∧ c.isDigit = true
  rw [Nat.repr_eq_ofList_toDigits, String.toList_ofList]
  rcases h : Nat.toDigits 10 n with _ | ⟨c, t⟩
  · exact absurd h (Nat.toDigits_ne_nil)
  · exact ⟨c, t, rfl, Text.isDigit_of_mem_toDigits n c (by rw [h]; exact List.mem_cons_self)⟩

theorem positional_head {ds : String} {c : Char} {t : List Char} (hds : ds.toList = c :: t)
    (hc : c.isDigit = true) (point : Int) :
    ∃ c', (Decimal.positional ds point).toList.head? = some c' ∧ c'.isDigit = true := by
  unfold Decimal.positional
  split
  · exact ⟨'0', by simp, rfl⟩
  split
  · obtain ⟨k, hk⟩ : ∃ k, point.toNat = k + 1 := ⟨point.toNat - 1, by omega⟩
    exact ⟨c, by simp [hds, hk], hc⟩
  · exact ⟨c, by simp [hds], hc⟩

theorem scientific_head {ds : String} {c : Char} {t : List Char} (hds : ds.toList = c :: t)
    (hc : c.isDigit = true) (e : Int) (w : Nat) :
    ∃ c', (Decimal.scientific ds e w).toList.head? = some c' ∧ c'.isDigit = true := by
  unfold Decimal.scientific
  cases t with
  | nil => exact ⟨c, by simp [hds], hc⟩
  | cons d t => exact ⟨c, by simp [hds], hc⟩

theorem floatText_cases (x : Float) :
    Decimal.floatText x = "NaN" ∨ Decimal.floatText x = "Infinity" ∨
      Decimal.floatText x = "-Infinity" ∨ StartsNumber (Decimal.floatText x).toList := by
  unfold Decimal.floatText Decimal.FloatStyle.write
  split
  · exact Or.inl rfl
  split
  · split
    · exact Or.inr (Or.inr (Or.inl rfl))
    · exact Or.inr (Or.inl rfl)
  dsimp only
  refine Or.inr (Or.inr (Or.inr ?_))
  split
  · exact startsNumber_sign _ (c := '0') (by simp) rfl
  obtain ⟨d, t, hds, hd⟩ :=
    digitsOf_head (Decimal.shortest (Binary64.parts x).mant (Binary64.parts x).exp).1
  split
  · obtain ⟨c, hc, hcd⟩ := positional_head hds hd _
    exact startsNumber_sign _ hc hcd
  · obtain ⟨c, hc, hcd⟩ := scientific_head hds hd _ _
    exact startsNumber_sign _ hc hcd

/-- A float whose text, read alone as a value, is that float, all of the text being read. -/
def FloatReadsBack (x : Float) : Prop :=
  ∃ q, scanValue 0 1 ⟨(Decimal.floatText x).toList, 0⟩ = .ok (.float x, ⟨[], q⟩)

/-- A float that reads back alone reads back wherever a value may end. -/
theorem scanValue_floatText {x : Float} (hx : FloatReadsBack x) {rest : List Char} (hr : Stops rest)
    (room fuel p : Nat) :
    ∃ q, scanValue room (fuel + 1) ⟨(Decimal.floatText x).toList ++ rest, p⟩ =
      .ok (.float x, ⟨rest, q⟩) := by
  obtain ⟨q, hq⟩ := hx
  rcases floatText_cases x with h | h | h | h
  · rw [h] at hq ⊢
    cases hq
    exact ⟨p + 3, rfl⟩
  · rw [h] at hq ⊢
    cases hq
    exact ⟨p + 8, rfl⟩
  · rw [h] at hq ⊢
    cases hq
    exact ⟨p + 9, rfl⟩
  · rw [scanValue_number h] at hq
    rcases hs : scanNumber ⟨(Decimal.floatText x).toList, 0⟩ with _ | res
    · rw [hs] at hq
      cases hq
    rw [hs, Option.getD_some] at hq
    subst hq
    have hne : (Decimal.floatText x).toList ≠ [] := by
      rintro hnil
      rw [hnil] at h
      exact h
    refine ⟨q + p, ?_⟩
    rw [scanValue_number (startsNumber_append h rest), scanNumber_append hr hne, scanNumber_shift hs p]
    rfl

end Numbers

/-! ### Strings -/

section Strings

/-- Whether a character stands for a high surrogate (`Text.surrogateOf?`). -/
def isHighStandIn (c : Char) : Bool := 0x10F800 ≤ c.toNat && c.toNat ≤ 0x10FBFF

/-- `c` stands for a high surrogate and `d` for a low one: their escapes, written one after the
other, read back as a single character. -/
def joinsWith (c d : Char) : Bool := isHighStandIn c && 0x10FC00 ≤ d.toNat

/-- Characters that read back one by one from their escapes: no two of them join. -/
def readsBackChars : List Char → Bool
  | c :: d :: cs => !joinsWith c d && readsBackChars (d :: cs)
  | _ => true

theorem hexValue_digit : ∀ i : Fin 16,
    hexValue ("0123456789abcdef".toList.getD i.val '0') = some i.val := by
  decide

theorem hex4_hex4Text {v : Nat} (hv : v < 0x10000) :
    ∃ a b c d, (hex4Text v).toList = [a, b, c, d] ∧ hex4 a b c d = some v := by
  refine ⟨_, _, _, _, by unfold hex4Text; exact String.toList_ofList, ?_⟩
  have hd : ∀ k, hexValue ("0123456789abcdef".toList.getD (v / Nat.pow 16 k % 16) '0') =
      some (v / Nat.pow 16 k % 16) := fun k =>
    hexValue_digit ⟨v / Nat.pow 16 k % 16, Nat.mod_lt _ (by decide)⟩
  simp only [hex4, hd, Option.bind_eq_bind, Option.bind_some, Option.pure_def, Option.some.injEq]
  simp only [Nat.pow_eq]
  omega

variable (start : Nat)

theorem scanString_plain {c : Char} (hq : c ≠ '"') (hb : c ≠ '\\') (hc : ¬c.toNat ≤ 0x1f)
    (more : List Char) (p : Nat) (acc : List Char) :
    scanString start (c :: more) p acc = scanString start more (p + 1) (c :: acc) := by
  rw [scanString.eq_8 _ _ _ _ _ hq (fun h => absurd h hb) (fun _ _ _ _ _ _ _ _ _ _ h => absurd h hb)
    (fun _ _ _ _ _ _ h => absurd h hb) (fun _ h => absurd h hb) (fun _ _ h => absurd h hb), if_neg hc]

theorem scanString_simple {c e : Char} (hu : c ≠ 'u') (he : simpleEscape c = some e)
    (more : List Char) (p : Nat) (acc : List Char) :
    scanString start ('\\' :: c :: more) p acc = scanString start more (p + 2) (e :: acc) := by
  rw [scanString.eq_7 _ _ _ _ _ (fun _ _ _ _ _ _ _ _ _ _ h _ => hu h)
    (fun _ _ _ _ _ _ h _ => hu h) hu, he]

/-- What may follow the escape of a high surrogate without joining it: anything but the escape
of a low surrogate. -/
def FollowsHigh (more : List Char) : Prop :=
  ∀ a b c d e r, more = '\\' :: 'u' :: a :: b :: c :: d :: e :: r →
    ∃ lo, hex4 a b c d = some lo ∧ ¬(0xDC00 ≤ lo ∧ lo ≤ 0xDFFF)

theorem scanString_unicode {a b c d : Char} {v : Nat} (hv : hex4 a b c d = some v)
    {more : List Char} (hne : more ≠ []) (hf : 0xD800 ≤ v ∧ v ≤ 0xDBFF → FollowsHigh more)
    (p : Nat) (acc : List Char) :
    scanString start ('\\' :: 'u' :: a :: b :: c :: d :: more) p acc =
      scanString start more (p + 6) (charOfCode v :: acc) := by
  by_cases hpat : ∃ a2 b2 c2 d2 e r, more = '\\' :: 'u' :: a2 :: b2 :: c2 :: d2 :: e :: r
  · obtain ⟨a2, b2, c2, d2, e, r, rfl⟩ := hpat
    rw [scanString.eq_4, hv]
    dsimp only
    split
    · obtain ⟨lo, hlo, hnot⟩ := hf ‹_› a2 b2 c2 d2 e r rfl
      rw [hlo]
      dsimp only
      rw [if_neg hnot]
    · rfl
  · obtain ⟨e, r, rfl⟩ := List.exists_cons_of_ne_nil hne
    rw [scanString.eq_5 _ _ _ _ _ _ _ _ _ fun a2 b2 c2 d2 e' r' he hr =>
      hpat ⟨a2, b2, c2, d2, e', r', by rw [he, hr]⟩, hv]

theorem scanString_pair {a b c d a2 b2 c2 d2 e : Char} {hi lo : Nat} (hhi : hex4 a b c d = some hi)
    (hh : 0xD800 ≤ hi ∧ hi ≤ 0xDBFF) (hlo : hex4 a2 b2 c2 d2 = some lo)
    (hl : 0xDC00 ≤ lo ∧ lo ≤ 0xDFFF) (r : List Char) (p : Nat) (acc : List Char) :
    scanString start ('\\' :: 'u' :: a :: b :: c :: d :: '\\' :: 'u' :: a2 :: b2 :: c2 :: d2 :: e :: r)
        p acc =
      scanString start (e :: r) (p + 12)
        (Char.ofNat (0x10000 + (hi - 0xD800) * 0x400 + (lo - 0xDC00)) :: acc) := by
  rw [scanString.eq_4, hhi]
  dsimp only
  rw [if_pos hh, hlo]
  dsimp only
  rw [if_pos hl]

theorem scanString_escapeChar (c : Char) {more : List Char} (hne : more ≠ [])
    (hf : isHighStandIn c = true → FollowsHigh more) (p : Nat) (acc : List Char) :
    ∃ q, scanString start ((escapeChar c).toList ++ more) p acc = scanString start more q (c :: acc) := by
  have hvalid : c.toNat < 0xD800 ∨ (0xDFFF < c.toNat ∧ c.toNat < 0x110000) := c.valid
  unfold escapeChar
  split
  case h_8 hq hb _ _ _ _ _ =>
    dsimp only
    split
    · -- printable ASCII stands for itself
      refine ⟨p + 1, ?_⟩
      rw [String.toList_singleton, List.singleton_append]
      exact scanString_plain start hq hb (by omega) more p acc
    · split
      · -- a character standing for a lone surrogate is written as that surrogate's escape
        rename_i u hu
        unfold Text.surrogateOf? at hu
        split at hu
        · cases hu
          obtain ⟨a, b, e, f, htext, hhex⟩ := hex4_hex4Text (v := c.toNat - 0x10F800 + 0xD800) (by omega)
          refine ⟨p + 6, ?_⟩
          rw [String.toList_append, htext]
          refine (scanString_unicode start hhex hne (fun hh => hf ?_) p acc).trans ?_
          · simp only [isHighStandIn, Bool.and_eq_true, decide_eq_true_eq]
            omega
          · unfold charOfCode Text.loneSurrogate
            rw [if_pos (by omega), show 0x10F800 + (c.toNat - 0x10F800 + 0xD800 - 0xD800) = c.toNat by omega,
              Char.ofNat_toNat]
        · cases hu
      · split
        · -- the rest of the basic plane is written as one escape
          obtain ⟨a, b, e, f, htext, hhex⟩ := hex4_hex4Text (v := c.toNat) ‹_›
          refine ⟨p + 6, ?_⟩
          rw [String.toList_append, htext]
          refine (scanString_unicode start hhex hne (fun hh => by omega) p acc).trans ?_
          unfold charOfCode
          rw [if_neg (by omega), Char.ofNat_toNat]
        · -- beyond it, as the escapes of a surrogate pair
          have hs : ¬0x10F800 ≤ c.toNat := by
            intro h
            rename_i hnone _
            exact hnone _ (by unfold Text.surrogateOf?; rw [if_pos h])
          obtain ⟨a, b, e, f, htext, hhex⟩ :=
            hex4_hex4Text (v := 0xD800 + (c.toNat - 0x10000) / 0x400) (by omega)
          obtain ⟨a2, b2, e2, f2, htext2, hhex2⟩ :=
            hex4_hex4Text (v := 0xDC00 + (c.toNat - 0x10000) % 0x400) (by omega)
          obtain ⟨g, r, rfl⟩ := List.exists_cons_of_ne_nil hne
          refine ⟨p + 12, ?_⟩
          simp only [String.toList_append, htext, htext2]
          refine (scanString_pair start hhex (by omega) hhex2 (by omega) r p acc).trans ?_
          rw [show 0x10000 + (0xD800 + (c.toNat - 0x10000) / 0x400 - 0xD800) * 0x400 +
              (0xDC00 + (c.toNat - 0x10000) % 0x400 - 0xDC00) = c.toNat by omega, Char.ofNat_toNat]
  all_goals exact ⟨p + 2, scanString_simple start (by decide) rfl more p acc⟩

theorem followsHigh_escapeChar {d : Char} (hd : ¬0x10FC00 ≤ d.toNat) (t : List Char) :
    FollowsHigh ((escapeChar d).toList ++ t) := by
  intro a b c e g r h
  have hvalid : d.toNat < 0xD800 ∨ (0xDFFF < d.toNat ∧ d.toNat < 0x110000) := d.valid
  unfold escapeChar at h
  split at h
  case h_8 _ hb _ _ _ _ _ =>
    dsimp only at h
    split at h
    · -- a printable character is no backslash
      rw [String.toList_singleton, List.singleton_append] at h
      exact absurd (List.cons.inj h).1 hb
    · split at h
      · rename_i u hu
        unfold Text.surrogateOf? at hu
        split at hu
        · -- a high surrogate's escape
          cases hu
          obtain ⟨a', b', c', e', htext, hhex⟩ :=
            hex4_hex4Text (v := d.toNat - 0x10F800 + 0xD800) (by omega)
          simp only [String.toList_append, htext, List.append_assoc, List.cons_append,
            List.nil_append] at h
          obtain ⟨-, -, rfl, rfl, rfl, rfl, -⟩ := h
          exact ⟨_, hhex, by omega⟩
        · cases hu
      · split at h
        · obtain ⟨a', b', c', e', htext, hhex⟩ := hex4_hex4Text (v := d.toNat) ‹_›
          simp only [String.toList_append, htext, List.append_assoc, List.cons_append,
            List.nil_append] at h
          obtain ⟨-, -, rfl, rfl, rfl, rfl, -⟩ := h
          exact ⟨_, hhex, by omega⟩
        · -- the first escape of a pair is a high surrogate's
          obtain ⟨a', b', c', e', htext, hhex⟩ :=
            hex4_hex4Text (v := 0xD800 + (d.toNat - 0x10000) / 0x400) (by omega)
          simp only [String.toList_append, htext, List.append_assoc, List.cons_append,
            List.nil_append] at h
          obtain ⟨-, -, rfl, rfl, rfl, rfl, -⟩ := h
          exact ⟨_, hhex, by omega⟩
  all_goals simp at h

/-- The escapes of characters that read back one by one, followed by a closing quote, read
back as those characters. -/
theorem scanString_escaped {cs : List Char} (hcs : readsBackChars cs = true) (rest : List Char)
    (p : Nat) (acc : List Char) :
    ∃ q, scanString start ((cs.flatMap fun c => (escapeChar c).toList) ++ '"' :: rest) p acc =
      .ok (String.ofList (acc.reverse ++ cs), ⟨rest, q⟩) := by
  induction cs generalizing p acc with
  | nil => exact ⟨p + 1, by rw [List.flatMap_nil, List.nil_append, scanString.eq_2, List.append_nil]⟩
  | cons c cs ih =>
    have hne : (cs.flatMap fun c => (escapeChar c).toList) ++ '"' :: rest ≠ [] := by simp
    have hf : isHighStandIn c = true →
        FollowsHigh ((cs.flatMap fun c => (escapeChar c).toList) ++ '"' :: rest) := by
      intro hc
      cases cs with
      | nil =>
        intro _ _ _ _ _ _ h
        simp at h
      | cons d cs =>
        simp only [readsBackChars, joinsWith, hc, Bool.true_and, Bool.and_eq_true, Bool.not_eq_true',
          decide_eq_false_iff_not] at hcs
        rw [List.flatMap_cons, List.append_assoc]
        exact followsHigh_escapeChar hcs.1 _
    obtain ⟨q, hq⟩ := scanString_escapeChar start c hne hf p acc
    have htail : readsBackChars cs = true := by
      cases cs with
      | nil => rfl
      | cons d cs =>
        simp only [readsBackChars, Bool.and_eq_true] at hcs
        exact hcs.2
    obtain ⟨q', hq'⟩ := ih htail q (c :: acc)
    refine ⟨q', ?_⟩
    rw [List.flatMap_cons, List.append_assoc, hq, hq']
    simp

end Strings

end Lighthouse.Json
