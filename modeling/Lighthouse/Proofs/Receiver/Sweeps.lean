import Lighthouse.Proofs.Receiver.Run
/-!
# The sweep reports of a receiver

A sync pulse ends the sweep that the sweep pulses since the previous sync pulse belong to.
`sweepReport` says what the report of that sweep is, in terms of the pulses alone: for each
sensor they hit, in increasing order, the longest of its pulses and the time of the earliest
pulse that long; the slot is the last one whose acode is set and does not skip; and the report
is withheld until that slot's lighthouse has identified itself.

The receiver keeps less than the pulses: a window of the longest pulse per sensor, and the
sweeping slot as chosen at the last sweep pulse. `Between` says how the two agree along the
pulses of one sweep, and `sweep_report_at_sync` puts it together over a whole stream.
-/
namespace Lighthouse

/-- A pulse that the sweep window counts: a known sensor and a positive length no longer than
a sync pulse's. -/
def countedSweep (numSensors : Int) (p : Int × Int × Int) : Prop :=
  0 ≤ p.2.1 ∧ p.2.1 < numSensors ∧ 0 < p.2.2 ∧ p.2.2 ≤ syncThreshold

instance (numSensors : Int) (p : Int × Int × Int) : Decidable (countedSweep numSensors p) :=
  inferInstanceAs (Decidable (0 ≤ _ ∧ _ < _ ∧ _ < _ ∧ _ ≤ _))

/-- The pulses after the last kept sync pulse of `ps`. -/
def sinceSync (numSensors : Int) (ps : List (Int × Int × Int)) : List (Int × Int × Int) :=
  (ps.reverse.takeWhile fun p => !decide (keptSync numSensors p.2.1 p.2.2)).reverse

/-- The longest of sensor `k`'s pulses in `ws`, or 0 when it has none. -/
def longest (ws : List (Int × Int × Int)) (k : Nat) : Int :=
  ((ws.filter fun p => p.2.1 = (k : Int)).map (·.2.2)).foldl max 0

/-- The timecode of the earliest of sensor `k`'s pulses in `ws` that is as long as its
longest. -/
def earliestLongest (ws : List (Int × Int × Int)) (k : Nat) : Int :=
  ((ws.find? fun p => p.2.1 = (k : Int) ∧ p.2.2 = longest ws k).map (·.1)).getD 0

/-- The sensors below `n` that `ws` hits, in increasing order. -/
def hitSensors (n : Nat) (ws : List (Int × Int × Int)) : List Nat :=
  (List.range n).filter fun k => ws.any fun p => p.2.1 = (k : Int)

/-- The slot that sweeps: the last whose acode is set and does not skip. -/
def sweepingSlot (acode : List Int) : Option Nat :=
  ((acode.zipIdx.filter fun p => p.1 ≥ 0 ∧ !Acode.skips p.1).getLast?).map (·.2)

/-- The report of a sweep whose counted pulses are `ws`, with `n` sensors, the flash table's
acodes and start times, and the channels as they stand when the sync pulse ending it arrives. -/
def sweepReport (n : Nat) (acode start : List Int) (channels : List Channel)
    (ws : List (Int × Int × Int)) : Option SweepTicks :=
  match sweepingSlot acode with
  | none => none
  | some slot =>
    let sensors := hitSensors n ws
    if sensors = [] then none
    else ((channels[slot]?).bind Channel.lighthouse).map fun cal =>
      let syncTime := start.getD slot 0
      { lighthouse := cal, slot, axis := Acode.axis (acode.getD slot 0), syncTime, sensors
        sweepTimes := sensors.map (earliestLongest ws)
        angles := sensors.map fun k =>
          Ticks.timecodeDelta (earliestLongest ws k) syncTime + longest ws k / 2
        lengths := sensors.map (longest ws) }

/-! ### The longest pulse per sensor -/

section Longest

variable {ws : List (Int × Int × Int)} {k : Nat}

theorem le_foldl_max (l : List Int) (a : Int) :
    a ≤ l.foldl max a ∧ ∀ x ∈ l, x ≤ l.foldl max a := by
  induction l generalizing a with
  | nil => simp
  | cons y l ih =>
    obtain ⟨h1, h2⟩ := ih (max a y)
    simp only [List.foldl_cons]
    refine ⟨by omega, ?_⟩
    intro x hx
    rcases List.mem_cons.mp hx with rfl | hx
    · omega
    · exact h2 x hx

theorem foldl_max_mem (l : List Int) (a : Int) : l.foldl max a = a ∨ l.foldl max a ∈ l := by
  induction l generalizing a with
  | nil => simp
  | cons y l ih =>
    rcases ih (max a y) with h | h
    · simp only [List.foldl_cons, h, List.mem_cons]
      omega
    · exact .inr (List.mem_cons_of_mem y h)

theorem longest_nonneg (ws : List (Int × Int × Int)) (k : Nat) : 0 ≤ longest ws k :=
  (le_foldl_max _ 0).1

theorem le_longest {q : Int × Int × Int} (hq : q ∈ ws) (hk : q.2.1 = (k : Int)) : q.2.2 ≤ longest ws k :=
  (le_foldl_max _ 0).2 _ (List.mem_map.mpr ⟨q, List.mem_filter.mpr ⟨hq, by simp [hk]⟩, rfl⟩)

theorem exists_longest (h : 0 < longest ws k) : ∃ q ∈ ws, q.2.1 = (k : Int) ∧ q.2.2 = longest ws k := by
  rcases foldl_max_mem ((ws.filter fun p => p.2.1 = (k : Int)).map (·.2.2)) 0 with h0 | hm
  · rw [longest, h0] at h
    exact absurd h (Int.lt_irrefl 0)
  · obtain ⟨q, hq, hlen⟩ := List.mem_map.mp hm
    obtain ⟨hq, hk⟩ := List.mem_filter.mp hq
    exact ⟨q, hq, by simpa using hk, hlen⟩

@[simp] theorem longest_nil : longest [] = fun _ => 0 := rfl

theorem longest_append_single (ws : List (Int × Int × Int)) (p : Int × Int × Int) (k : Nat) :
    longest (ws ++ [p]) k = if p.2.1 = (k : Int) then max (longest ws k) p.2.2 else longest ws k := by
  by_cases h : p.2.1 = (k : Int) <;> simp [longest, List.filter_append, h]

@[simp] theorem earliestLongest_nil : earliestLongest [] = fun _ => 0 := rfl

theorem earliestLongest_append_single {p : Int × Int × Int} (hp : 0 < p.2.2) (k : Nat) :
    earliestLongest (ws ++ [p]) k =
      if p.2.1 = (k : Int) ∧ longest ws k < p.2.2 then p.1 else earliestLongest ws k := by
  unfold earliestLongest
  rw [longest_append_single, List.find?_append]
  by_cases hk : p.2.1 = (k : Int)
  · rw [if_pos hk]
    by_cases hlt : longest ws k < p.2.2
    · -- no earlier pulse is that long, so the search reaches the new one
      rw [Int.max_eq_right (Int.le_of_lt hlt), if_pos ⟨hk, hlt⟩]
      have hnone : ws.find? (fun q => q.2.1 = (k : Int) ∧ q.2.2 = p.2.2) = none := by
        rw [List.find?_eq_none]
        intro q hq hfound
        have hfound := of_decide_eq_true hfound
        have := le_longest hq hfound.1
        omega
      rw [hnone]
      simp [hk]
    · -- the earlier longest stays, and the search stops at it first
      rw [Int.max_eq_left (by omega), if_neg fun h => hlt h.2]
      obtain ⟨q, hq, hqk, hql⟩ := exists_longest (show 0 < longest ws k by omega)
      obtain ⟨q', hq'⟩ := Option.isSome_iff_exists.mp
        (List.find?_isSome.mpr ⟨q, hq, by simp [hqk, hql]⟩ :
          (ws.find? fun q => q.2.1 = (k : Int) ∧ q.2.2 = longest ws k).isSome)
      rw [hq']
      rfl
  · rw [if_neg hk, if_neg fun h => hk h.1]
    cases hf : ws.find? (fun q => q.2.1 = (k : Int) ∧ q.2.2 = longest ws k) with
    | none =>
      rw [Option.none_or]
      simp [hk]
    | some q => rfl

section Append

variable {m : Nat} {t len : Int}

theorem longest_append_longer (hlt : longest ws m < len) (i : Nat) :
    longest (ws ++ [(t, (m : Int), len)]) i = if m = i then len else longest ws i := by
  rw [longest_append_single]
  by_cases hi : m = i
  · subst hi
    simp [Int.max_eq_right (Int.le_of_lt hlt)]
  · have hi' : (m : Int) ≠ i := by exact_mod_cast hi
    simp [hi, hi']

theorem longest_append_shorter (hle : len ≤ longest ws m) (i : Nat) :
    longest (ws ++ [(t, (m : Int), len)]) i = longest ws i := by
  simp only [longest_append_single]
  split
  · rename_i hi
    have : m = i := by exact_mod_cast hi
    subst this
    exact Int.max_eq_left hle
  · rfl

theorem earliestLongest_append_longer (hlt : longest ws m < len) (i : Nat) :
    earliestLongest (ws ++ [(t, (m : Int), len)]) i =
      if m = i then t else earliestLongest ws i := by
  rw [earliestLongest_append_single (p := (t, (m : Int), len))
    (Int.lt_of_le_of_lt (longest_nonneg ws m) hlt)]
  by_cases hi : m = i
  · subst hi
    simp [hlt]
  · have hi' : (m : Int) ≠ i := by exact_mod_cast hi
    simp [hi, hi']

theorem earliestLongest_append_shorter (hpos : 0 < len) (hle : len ≤ longest ws m) (i : Nat) :
    earliestLongest (ws ++ [(t, (m : Int), len)]) i = earliestLongest ws i := by
  simp only [earliestLongest_append_single (p := (t, (m : Int), len)) hpos]
  rw [if_neg]
  rintro ⟨hi, hlt⟩
  have : m = i := by exact_mod_cast hi
  subst this
  omega

end Append

end Longest

/-! ### The window of longest pulses -/

/-- The window holds, for each of `n` sensors, the longest of its pulses in `ws` and the time of
the earliest pulse that long. -/
structure SweepWindow.Holds (w : SweepWindow) (n : Nat) (ws : List (Int × Int × Int)) :
    Prop where
  lengths : w.lengths = (List.range n).map (longest ws)
  times : w.times = (List.range n).map (earliestLongest ws)

theorem SweepWindow.holds_nil (n : Nat) (hits : List (Nat × Nat)) :
    (⟨List.replicate n 0, List.replicate n 0, hits⟩ : SweepWindow).Holds n [] :=
  ⟨by simp [List.map_const'], by simp [List.map_const']⟩

theorem SweepWindow.record_holds {w : SweepWindow} {n : Nat} {ws : List (Int × Int × Int)}
    (hw : w.Holds n ws) {p : Int × Int × Int} (h0 : 0 ≤ p.2.1) (hn : p.2.1 < n) :
    (w.record p.2.1.toNat p.1 p.2.2).Holds n (if 0 < p.2.2 then ws ++ [p] else ws) := by
  obtain ⟨t, s, len⟩ := p
  dsimp only at h0 hn
  obtain ⟨m, rfl⟩ := Int.eq_ofNat_of_zero_le h0
  have hm : m < n := by omega
  have hget : w.lengths.getD m 0 = longest ws m := by
    simp [hw.lengths, List.getD_eq_getElem?_getD, hm]
  dsimp only at hget ⊢
  unfold SweepWindow.record
  rw [Int.toNat_natCast, hget]
  split
  · -- a new longest: both entries of the sensor are rewritten
    rename_i hlt
    rw [if_pos (Int.lt_of_le_of_lt (longest_nonneg ws m) hlt)]
    constructor
    · apply List.ext_getElem (by simp [hw.lengths])
      intro i _ _
      simp [hw.lengths, List.getElem_set, longest_append_longer hlt]
    · apply List.ext_getElem (by simp [hw.times])
      intro i _ _
      simp [hw.times, List.getElem_set, earliestLongest_append_longer hlt]
  · -- not longer: the window stays, and so do both lists it promises
    rename_i hle
    split
    · rename_i hpos
      constructor
      · rw [hw.lengths]
        exact List.map_congr_left fun i _ => (longest_append_shorter (by omega) i).symm
      · rw [hw.times]
        exact List.map_congr_left fun i _ =>
          (earliestLongest_append_shorter hpos (by omega) i).symm
    · exact hw

/-! ### The sweeping slot -/

theorem foldl_last_some {α β : Type} (P : α → Prop) [DecidablePred P] (g : α → β)
    (l : List α) (init : Option β) :
    l.foldl (fun acc x => if P x then some (g x) else acc) init =
      ((l.filter fun x => decide (P x)).getLast?.map g).or init := by
  induction l generalizing init with
  | nil => rfl
  | cons x l ih =>
    rw [List.foldl_cons, ih, List.filter_cons]
    by_cases hx : P x
    · cases h : (l.filter fun x => decide (P x)).getLast? <;> simp [hx, h, List.getLast?_cons]
    · simp [hx]

theorem selectActive_eq_sweepingSlot (s : SyncTable) :
    Receiver.selectActive s = match sweepingSlot s.acode with
      | some i => { s with
          active := i, activeStart := s.start.getD i 0, activeAcode := s.acode.getD i 0 }
      | none => { s with active := -1, activeStart := 0, activeAcode := 0 } := by
  unfold Receiver.selectActive sweepingSlot
  dsimp only
  rw [foldl_last_some (fun p : Int × Nat => p.1 ≥ 0 ∧ (!Acode.skips p.1) = true)
    (fun p => (p.2, p.1)), Option.or_none]
  cases h : (s.acode.zipIdx.filter fun p => decide (p.1 ≥ 0 ∧ (!Acode.skips p.1) = true)).getLast?
    with
  | none => rfl
  | some p =>
    -- the slot found is a position of the acode list holding that acode
    obtain ⟨a, i⟩ := p
    have hmem := List.mem_of_getLast? h
    have hget : s.acode[i]? = some a := List.mem_zipIdx_iff_getElem?.mp (List.mem_filter.mp hmem).1
    simp [List.getD_eq_getElem?_getD, hget]

theorem selectActive_acode (s : SyncTable) : (Receiver.selectActive s).acode = s.acode := by
  rw [selectActive_eq_sweepingSlot]
  split <;> rfl

theorem selectActive_start (s : SyncTable) : (Receiver.selectActive s).start = s.start := by
  rw [selectActive_eq_sweepingSlot]
  split <;> rfl

theorem selectActive_selectActive (s : SyncTable) :
    Receiver.selectActive (Receiver.selectActive s) = Receiver.selectActive s := by
  rw [selectActive_eq_sweepingSlot (Receiver.selectActive s), selectActive_acode,
    selectActive_start, selectActive_eq_sweepingSlot s]
  split <;> rfl

theorem selectActive_active_neg {s : SyncTable} :
    (Receiver.selectActive s).active < 0 ↔ sweepingSlot s.acode = none := by
  rw [selectActive_eq_sweepingSlot]
  split <;> simp_all

theorem longest_ne_zero_iff {ws : List (Int × Int × Int)} (hws : ∀ q ∈ ws, 0 < q.2.2) (k : Nat) :
    longest ws k ≠ 0 ↔ ∃ q ∈ ws, q.2.1 = (k : Int) := by
  constructor
  · intro h
    have := longest_nonneg ws k
    obtain ⟨q, hq, hqk, -⟩ := exists_longest (show 0 < longest ws k by omega)
    exact ⟨q, hq, hqk⟩
  · rintro ⟨q, hq, hqk⟩
    have := le_longest hq hqk
    have := hws q hq
    omega

theorem zipIdx_map_range {β : Type} (f : Nat → β) (n : Nat) :
    ((List.range n).map f).zipIdx = (List.range n).map fun k => (f k, k) :=
  List.ext_getElem (by simp) fun i _ _ => by simp [List.getElem_zipIdx]

theorem SweepWindow.Holds.kept {w : SweepWindow} {n : Nat} {ws : List (Int × Int × Int)}
    (hw : w.Holds n ws) (hws : ∀ q ∈ ws, 0 < q.2.2) :
    ((w.lengths.zip w.times).zipIdx).filter (fun p => p.1.1 ≠ 0) =
      (hitSensors n ws).map fun k => ((longest ws k, earliestLongest ws k), k) := by
  rw [hw.lengths, hw.times, List.zip_map', zipIdx_map_range, List.filter_map, hitSensors]
  congr 1
  apply List.filter_congr
  intro k _
  have hk := longest_ne_zero_iff hws k
  by_cases hz : longest ws k = 0
  · have hnone : (ws.any fun p => decide (p.2.1 = (k : Int))) = false :=
      List.any_eq_false.mpr fun q hq hqk => hk.mpr ⟨q, hq, of_decide_eq_true hqk⟩ hz
    simp [hz, hnone]
  · obtain ⟨q, hq, hqk⟩ := hk.mp hz
    have hsome : (ws.any fun p => decide (p.2.1 = (k : Int))) = true :=
      List.any_eq_true.mpr ⟨q, hq, decide_eq_true hqk⟩
    simp [hz, hsome]

/-! ### Between two sync pulses -/

namespace Receiver

variable {r₀ r : Receiver} {ws : List (Int × Int × Int)} {timecode sensor length : Int}

/-- The pulses of `ps` that the window records while the flash table is `s`: the counted sweep
pulses when some slot sweeps, and none otherwise. -/
def recorded (numSensors : Int) (s : SyncTable) (ps : List (Int × Int × Int)) :
    List (Int × Int × Int) :=
  if sweepingSlot s.acode = none then [] else ps.filter fun p => countedSweep numSensors p

theorem recorded_cons (numSensors : Int) (s : SyncTable) (p : Int × Int × Int)
    (ps : List (Int × Int × Int)) :
    recorded numSensors s (p :: ps) = recorded numSensors s [p] ++ recorded numSensors s ps := by
  unfold recorded
  split
  · rfl
  · rw [show p :: ps = [p] ++ ps from rfl, List.filter_append]

theorem recorded_of_not_counted {numSensors : Int} (s : SyncTable) {p : Int × Int × Int}
    (h : ¬countedSweep numSensors p) : recorded numSensors s [p] = [] := by
  unfold recorded
  split
  · rfl
  · simp [h]

theorem recorded_of_counted {numSensors : Int} {s : SyncTable} {p : Int × Int × Int}
    (hs : sweepingSlot s.acode ≠ none) (h : countedSweep numSensors p) :
    recorded numSensors s [p] = [p] := by
  simp [recorded, hs, h]

/-- `r` is `r₀` after pulses none of which is a kept sync pulse, and its window has recorded
`ws`. Until a sweep pulse comes the flash table is untouched; after one, the sweeping slot is
chosen from it. -/
structure Between (r₀ r : Receiver) (ws : List (Int × Int × Int)) : Prop where
  wf : r.Wf
  numSensors : r.numSensors = r₀.numSensors
  channels : r.channels = r₀.channels
  window : r.window.Holds r₀.numSensors.toNat ws
  counted : ∀ q ∈ ws, countedSweep r₀.numSensors q
  sync : r.sync = selectActive r₀.sync ∨ r.sync = r₀.sync ∧ ws = []
  quiet : sweepingSlot r₀.sync.acode = none → ws = []

theorem Between.start (hr : r₀.Wf) (hw : r₀.window.Holds r₀.numSensors.toNat []) :
    Between r₀ r₀ [] :=
  ⟨hr, rfl, rfl, hw, by simp, .inr ⟨rfl, rfl⟩, fun _ => rfl⟩

theorem Between.selectActive_sync (h : Between r₀ r ws) :
    selectActive r.sync = selectActive r₀.sync := by
  rcases h.sync with hs | ⟨hs, -⟩ <;> rw [hs]
  exact selectActive_selectActive r₀.sync

theorem Between.acode (h : Between r₀ r ws) : r.sync.acode = r₀.sync.acode := by
  rcases h.sync with hs | ⟨hs, -⟩ <;> rw [hs]
  exact selectActive_acode r₀.sync

theorem Between.start_times (h : Between r₀ r ws) : r.sync.start = r₀.sync.start := by
  rcases h.sync with hs | ⟨hs, -⟩ <;> rw [hs]
  exact selectActive_start r₀.sync

theorem Between.step (h : Between r₀ r ws) (timecode : Int)
    (hk : ¬keptSync r.numSensors sensor length) :
    (r.step timecode sensor length).failure = none ∧
      Between r₀ (r.step timecode sensor length).final
        (ws ++ recorded r₀.numSensors r₀.sync [(timecode, sensor, length)]) := by
  obtain ⟨hfail, hwf, -⟩ := step_wf h.wf timecode sensor length
  refine ⟨hfail, ?_⟩
  have hN := h.numSensors
  have hgap := syncThreshold_lt_maxPulse
  by_cases hd : sensor < 0 ∨ sensor ≥ r.numSensors ∨ length > maxPulse
  · -- a dropped pulse touches nothing the window or the table keeps
    have hnc : ¬countedSweep r₀.numSensors (timecode, sensor, length) :=
      fun ⟨h1, h2, _, h4⟩ => by dsimp only at h1 h2 h4; omega
    rw [recorded_of_not_counted _ hnc, List.append_nil]
    rw [step_of_dropped hd] at hwf ⊢
    exact ⟨hwf, h.numSensors, h.channels, h.window, h.counted, h.sync, h.quiet⟩
  obtain ⟨h0, hn, hl⟩ := sweep_of_not_keptSync hd hk
  rw [step_of_sweep h0 hn hl, onSweep_eq, h.selectActive_sync] at hwf ⊢
  by_cases hs : sweepingSlot r₀.sync.acode = none
  · -- no slot sweeps: the window stays as it was, empty
    rw [if_pos (selectActive_active_neg.mpr hs)] at hwf ⊢
    simp only [recorded, if_pos hs, List.append_nil]
    exact ⟨hwf, h.numSensors, h.channels, h.window, h.counted, .inl rfl, h.quiet⟩
  · rw [if_neg (mt selectActive_active_neg.mp hs)] at hwf ⊢
    have hrec := SweepWindow.record_holds h.window (p := (timecode, sensor, length))
      (by omega : (0 : Int) ≤ sensor) (by omega : sensor < (r₀.numSensors.toNat : Int))
    -- a sweep pulse of a known sensor counts exactly when its length is positive
    by_cases hpos : 0 < length
    · have hc : countedSweep r₀.numSensors (timecode, sensor, length) :=
        ⟨by dsimp only; omega, by dsimp only; omega, hpos, hl⟩
      rw [recorded_of_counted hs hc]
      refine ⟨hwf, h.numSensors, h.channels, by simpa [hpos] using hrec, ?_, .inl rfl,
        fun h' => absurd h' hs⟩
      intro q hq
      rcases List.mem_append.mp hq with hq | hq
      · exact h.counted q hq
      · rw [List.mem_singleton.mp hq]
        exact hc
    · rw [recorded_of_not_counted _ fun hc => hpos hc.2.2.1, List.append_nil]
      exact ⟨hwf, h.numSensors, h.channels, by simpa [hpos] using hrec, h.counted, .inl rfl,
        fun h' => absurd h' hs⟩

theorem Between.run (h : Between r₀ r ws) (mid : List (Int × Int × Int))
    (hmid : ∀ p ∈ mid, ¬keptSync r₀.numSensors p.2.1 p.2.2) :
    ∃ r', r.run mid = .ok r' ∧ Between r₀ r' (ws ++ recorded r₀.numSensors r₀.sync mid) := by
  induction mid generalizing r ws with
  | nil => exact ⟨r, rfl, by simpa [recorded] using h⟩
  | cons p mid ih =>
    obtain ⟨timecode, sensor, length⟩ := p
    have hk : ¬keptSync r.numSensors sensor length := by
      rw [h.numSensors]
      exact hmid _ List.mem_cons_self
    obtain ⟨hfail, h'⟩ := h.step timecode hk
    obtain ⟨r', hrun, hr'⟩ := ih h' fun q hq => hmid q (List.mem_cons_of_mem _ hq)
    refine ⟨r', by rw [run_cons_of_failure_eq_none hfail, hrun], ?_⟩
    rwa [recorded_cons, ← List.append_assoc]

theorem Between.reportSweep (h : Between r₀ r ws) :
    r.reportSweep.2 =
      sweepReport r₀.numSensors.toNat r₀.sync.acode r₀.sync.start r₀.channels ws := by
  have hkept := h.window.kept fun q hq => (h.counted q hq).2.2.1
  unfold Receiver.reportSweep
  dsimp only
  rw [hkept]
  by_cases hnil : hitSensors r₀.numSensors.toNat ws = []
  · -- nothing hit: no report, whichever slot sweeps
    simp only [hnil, List.map_nil, List.isEmpty_nil, true_or, if_true]
    unfold sweepReport
    split <;> simp [hnil]
  · -- something hit: a slot sweeps, and the table's choice of it is the receiver's
    have hws : ws ≠ [] := by
      rintro rfl
      exact hnil (by simp [hitSensors])
    obtain ⟨i, hi⟩ := Option.ne_none_iff_exists'.mp (mt h.quiet hws)
    have hsync : r.sync = selectActive r₀.sync := h.sync.resolve_right fun h' => hws h'.2
    have hi0 : ¬((i : Int) < 0) := by omega
    rw [hsync, selectActive_eq_sweepingSlot, hi, h.channels]
    cases hch : (r₀.channels[i]?).bind Channel.lighthouse <;>
      simp [sweepReport, hi, hnil, hch, hi0, List.map_map, Function.comp_def]

/-! ### Over a whole stream -/

theorem not_keptSync_of_mem_sinceSync {numSensors : Int} {ps : List (Int × Int × Int)}
    {p : Int × Int × Int} (hp : p ∈ sinceSync numSensors ps) :
    ¬keptSync numSensors p.2.1 p.2.2 := by
  unfold sinceSync at hp
  have hall := List.all_eq_true.mp
    (List.all_takeWhile (p := fun p : Int × Int × Int => !decide (keptSync numSensors p.2.1 p.2.2))
      (l := ps.reverse)) p (List.mem_reverse.mp hp)
  simpa using hall

theorem exists_append_sinceSync (numSensors : Int) (ps : List (Int × Int × Int)) :
    ∃ pre, ps = pre ++ sinceSync numSensors ps ∧
      (pre = [] ∨ ∃ pre' q, pre = pre' ++ [q] ∧ keptSync numSensors q.2.1 q.2.2) := by
  let notKept := fun p : Int × Int × Int => !decide (keptSync numSensors p.2.1 p.2.2)
  refine ⟨(ps.reverse.dropWhile notKept).reverse, ?_, ?_⟩
  · have h := congrArg List.reverse
      (List.takeWhile_append_dropWhile (p := notKept) (l := ps.reverse))
    rw [List.reverse_append, List.reverse_reverse] at h
    exact h.symm
  · cases hd : ps.reverse.dropWhile notKept with
    | nil => exact .inl rfl
    | cons q rest =>
      refine .inr ⟨rest.reverse, q, by simp, ?_⟩
      have := List.head_dropWhile_not notKept (l := ps.reverse) (by simp [hd])
      simp only [hd, List.head_cons, notKept] at this
      simpa using this

theorem run_to_sync {channels : List Channel} (h2 : 2 ≤ channels.length) (numSensors : Int)
    {pre : List (Int × Int × Int)}
    (hpre : pre = [] ∨ ∃ pre' q, pre = pre' ++ [q] ∧ keptSync numSensors q.2.1 q.2.2) :
    ∃ r₀, (create channels numSensors).run pre = .ok r₀ ∧ r₀.Wf ∧
      r₀.numSensors = numSensors ∧ r₀.window.Holds numSensors.toNat [] := by
  rcases hpre with rfl | ⟨pre', ⟨timecode, sensor, length⟩, rfl, hq⟩
  · exact ⟨_, rfl, create_wf h2 numSensors, rfl, SweepWindow.holds_nil _ _⟩
  · obtain ⟨r', hrun, hwf, hn⟩ := run_wf (create_wf h2 numSensors) pre'
    have hk : keptSync r'.numSensors sensor length := by
      rw [hn]
      exact hq
    obtain ⟨hfail, s', hits, e, a, -, -, hfin⟩ := onSync_eq hwf.sync timecode length
    rw [← step_of_keptSync hk] at hfail hfin
    obtain ⟨-, hwf', hn'⟩ := step_wf hwf timecode sensor length
    refine ⟨(r'.step timecode sensor length).final, ?_, hwf', hn'.trans hn, ?_⟩
    · rw [run_append, hrun]
      exact run_cons_of_failure_eq_none hfail []
    · -- the last sync pulse emptied the window, one entry per sensor
      rw [hfin]
      dsimp only
      rw [hwf.lengths, hn]
      exact SweepWindow.holds_nil _ _

/-- A receiver over at least two channels takes every stream without failing, and only a kept
sync pulse reports a sweep, at most one. The report is `sweepReport` of the sweep pulses counted
since the last kept sync pulse of the stream, with the flash table and channels as they stand
when the sync pulse arrives: the sensors hit in increasing order, each with its longest length
and the time of its earliest pulse that long, the last slot whose acode is set and does not skip
with that slot's start time and axis, and nothing until that slot's lighthouse is known. -/
theorem sweep_report_at_sync (channels : List Channel) (numSensors : Int)
    (h2 : 2 ≤ channels.length) (ps : List (Int × Int × Int)) (timecode sensor length : Int) :
    ∃ r, (create channels numSensors).run ps = .ok r ∧
      (r.step timecode sensor length).report.map Prod.snd =
        if keptSync numSensors sensor length then
          sweepReport numSensors.toNat r.sync.acode r.sync.start r.channels
            ((sinceSync numSensors ps).filter fun p => countedSweep numSensors p)
        else none := by
  obtain ⟨pre, hps, hpre⟩ := exists_append_sinceSync numSensors ps
  obtain ⟨r₀, hrun₀, hwf₀, hn₀, hw₀⟩ := run_to_sync h2 numSensors hpre
  have hstart : Between r₀ r₀ [] := Between.start hwf₀ (by rw [hn₀]; exact hw₀)
  obtain ⟨r, hrun, hb⟩ := hstart.run (sinceSync numSensors ps)
    fun p hp => by rw [hn₀]; exact not_keptSync_of_mem_sinceSync hp
  refine ⟨r, by rw [hps, run_append, hrun₀]; exact hrun, ?_⟩
  have hN : r.numSensors = numSensors := hb.numSensors.trans hn₀
  split
  · rename_i hk
    rw [step_of_keptSync (by rw [hN]; exact hk), onSync_report, hb.reportSweep, hb.acode,
      hb.start_times, hb.channels, hn₀, List.nil_append]
    -- what the window recorded is the counted pulses, unless no slot sweeps and nothing is
    unfold recorded
    split
    · rename_i hs
      simp [sweepReport, hs]
    · rfl
  · rename_i hk
    rw [step_report_of_not_keptSync (by rw [hN]; exact hk)]
    rfl

/-- A flash of the first lighthouse, three sweep pulses on one sensor (the middle one the
longest), and the sync pulse that ends the sweep. -/
theorem sweep_reported_after_flash :
    2 ≤ [({ lighthouse := some (Calibration.ofSerial "100") } : Channel), {}].length ∧
      ∃ r, (create [{ lighthouse := some (Calibration.ofSerial "100") }, {}] 8).run
          [(1000000, 0, 3000), (1100000, 3, 100), (1100500, 3, 300), (1101000, 3, 200)] = .ok r ∧
        (r.step 1400000 0 3000).report.map Prod.snd =
          if keptSync 8 0 3000 then
            sweepReport (8 : Int).toNat r.sync.acode r.sync.start r.channels
              ((sinceSync 8
                [(1000000, 0, 3000), (1100000, 3, 100), (1100500, 3, 300), (1101000, 3, 200)]).filter
                fun p => countedSweep 8 p)
          else none :=
  ⟨by decide, sweep_report_at_sync _ 8 (by decide) _ 1400000 0 3000⟩

end Receiver

end Lighthouse
