import Lighthouse.Proofs.Receiver.Feeds
import Lighthouse.Proofs.Receiver.Sweeps
import Mathlib.Tactic.SplitIfs
/-!
# Moving the clock

A tracker's timecodes count modulo `2^32`, and where the count starts is arbitrary. The
receiver only ever compares two timecodes through their wraparound difference, so starting the
clock `c` ticks later changes nothing but the times it keeps and reports.

`Receiver.Shifted c r₁ r₂` says that `r₂` is `r₁` with its times read on a clock `c` ticks
ahead (`Ticks.shift c`): the time of the last sync pulse, the start time of each slot whose
acode is set, the sweeping slot's start time once a slot sweeps, and the time of each sensor's
kept sweep pulse. Times that are never read again (a slot cleared by a new cycle, a sensor
cleared with the window, the sweeping slot's start once no slot sweeps) are left free, since a
new cycle writes absolute zeros there. Main statements:

* `step_shifted`: a pulse taken by both, at `t` and at `Ticks.shift c t`, keeps the relation,
  feeds the same bit to the same decoder, and gives the same report with its sync time and
  sweep times moved (`SweepTicks.shift`).
* `reports_after_common_reset`: two streams whose timecodes differ by `c` modulo `2^32`, taken
  from any two states, agree from the first sync pulse on which both start a new cycle: the
  same bits go to the same decoders, and the reports after it agree up to the move.
-/
namespace Lighthouse

namespace Ticks

/-- A timecode read on a clock `c` ticks ahead. -/
def shift (c t : Int) : Int := (t + c) % (modulus : Int)

theorem timecodeDelta_shift (c a b : Int) :
    timecodeDelta (shift c a) (shift c b) = timecodeDelta a b := by
  unfold timecodeDelta shift
  rw [← Int.sub_emod]
  congr 1
  omega

theorem wrap_shift_add (c t l : Int) : wrap (shift c t + l) = shift c (wrap (t + l)) := by
  unfold wrap shift
  rw [Int.emod_add_emod, Int.emod_add_emod]
  congr 1
  omega

end Ticks

/-- A sweep report read on a clock `c` ticks ahead: its sync time and sweep times move, all
else stays. -/
def SweepTicks.shift (c : Int) (t : SweepTicks) : SweepTicks :=
  { t with syncTime := Ticks.shift c t.syncTime, sweepTimes := t.sweepTimes.map (Ticks.shift c) }

/-- A pulse read on a clock `c` ticks ahead. -/
def shiftPulse (c : Int) (p : Int × Int × Int) : Int × Int × Int := (Ticks.shift c p.1, p.2)

/-- `ys₂` holds the entries of `ys₁` read on a clock `c` ticks ahead at every position whose key
in `keys` passes `P`; the other entries are free. -/
def ShiftedWhere (P : Int → Prop) (c : Int) (keys ys₁ ys₂ : List Int) : Prop :=
  ∀ (i : Nat) (k y : Int), keys[i]? = some k → P k → ys₁[i]? = some y →
    ys₂[i]? = some (Ticks.shift c y)

section ShiftedWhere

variable {P : Int → Prop} {c : Int} {keys ys₁ ys₂ : List Int}

theorem ShiftedWhere.set (h : ShiftedWhere P c keys ys₁ ys₂) (hlen : ys₂.length = ys₁.length)
    (j : Nat) (k y : Int) :
    ShiftedWhere P c (keys.set j k) (ys₁.set j y) (ys₂.set j (Ticks.shift c y)) := by
  intro i k' y' hk hP hy
  by_cases hji : j = i
  · subst hji
    rw [List.getElem?_set] at hy ⊢
    simp only [if_true] at hy ⊢
    split at hy
    · rw [if_pos (by omega)]
      rw [← Option.some_inj.mp hy]
    · exact absurd hy (by simp)
  · rw [List.getElem?_set_ne hji] at hk hy ⊢
    exact h i k' y' hk hP hy

theorem ShiftedWhere.of_forall_not (hk : ∀ k ∈ keys, ¬P k) (ys₁ ys₂ : List Int) :
    ShiftedWhere P c keys ys₁ ys₂ :=
  fun _ k _ hki hP _ => absurd hP (hk k (List.mem_of_getElem? hki))

end ShiftedWhere

namespace Ootx.Decoder

theorem finish_fst (d : Decoder) (t t' : Int) : (d.finish t).1 = (d.finish t').1 := by
  unfold finish Calibration.ofPayload
  dsimp only
  split_ifs <;> rfl

theorem onChecksum_fst (d : Decoder) (b : Bool) (t t' : Int) :
    (d.onChecksum b t).1 = (d.onChecksum b t').1 := by
  unfold onChecksum
  dsimp only
  generalize (if d.syn = 8 ∨ d.syn = wordLength then { d with pos := d.pos + 1 } else d) = d'
  split
  · rw [finish_fst _ t t']
  · rfl

theorem feed_fst (d : Decoder) (b : Bool) (t t' : Int) : (d.feed b t).1 = (d.feed b t').1 := by
  unfold feed
  split
  · rfl
  · dsimp only
    split
    · rfl
    · rfl
    · rfl
    · exact onChecksum_fst _ b t t'

end Ootx.Decoder

theorem Channel.feed_timecode (ch : Channel) (b : Bool) (t t' : Int) :
    ch.feed b t = ch.feed b t' := by
  unfold Channel.feed
  rw [Ootx.Decoder.feed_fst _ b t t']

/-- The tracker read on a clock `c` ticks ahead. -/
def Tracker.shift (c : Int) (k : Tracker) : Tracker := ⟨Ticks.shift c k.recent, k.current⟩

theorem Tracker.place_shift (c : Int) (k : Tracker) (t : Int) :
    (k.shift c).place (Ticks.shift c t) = (k.place t).shift c := by
  unfold Tracker.place Tracker.shift
  simp only [Ticks.timecodeDelta_shift]
  split_ifs <;> rfl

theorem Tracker.place_of_reset {k : Tracker} {t : Int}
    (h : resetGap < Ticks.timecodeDelta t k.recent) : k.place t = ⟨t, 0⟩ := by
  unfold Tracker.place
  have h1 : ¬Ticks.timecodeDelta t k.recent < sameCycleGap := by
    unfold sameCycleGap; unfold resetGap at h; omega
  have h2 : ¬Ticks.timecodeDelta t k.recent < secondLighthouseGap := by
    unfold secondLighthouseGap; unfold resetGap at h; omega
  simp only [if_neg h1, if_neg h2, if_pos h]

theorem fedBits_shift (c numSensors : Int) (k : Nat) (tr : Tracker) (ps : List (Int × Int × Int)) :
    fedBits numSensors k (tr.shift c) (ps.map (shiftPulse c)) =
      (fedBits numSensors k tr ps).map fun b => (b.1, Ticks.shift c b.2) := by
  induction ps generalizing tr with
  | nil => rfl
  | cons p ps ih =>
    obtain ⟨t, s, l⟩ := p
    simp only [List.map_cons, shiftPulse, fedBits, Tracker.place_shift, ih]
    split_ifs <;> simp_all [Tracker.shift]

namespace SyncTable

/-- Two flash tables that agree but for their times, the second's read on a clock `c` ticks
ahead: the time of the last sync pulse, the start time of every slot whose acode is set, and
the sweeping slot's start time once a slot sweeps. -/
structure Shifted (c : Int) (s₁ s₂ : SyncTable) : Prop where
  recent : s₂.recent = Ticks.shift c s₁.recent
  current : s₂.current = s₁.current
  active : s₂.active = s₁.active
  activeStart : 0 ≤ s₁.active → s₂.activeStart = Ticks.shift c s₁.activeStart
  activeAcode : s₂.activeAcode = s₁.activeAcode
  maxLength : s₂.maxLength = s₁.maxLength
  acode : s₂.acode = s₁.acode
  start_length : s₂.start.length = s₁.start.length
  start : ShiftedWhere (0 ≤ ·) c s₁.acode s₁.start s₂.start

theorem Shifted.tracker {c : Int} {s₁ s₂ : SyncTable} (h : s₁.Shifted c s₂) :
    s₂.tracker = s₁.tracker.shift c := by
  unfold SyncTable.tracker Tracker.shift
  rw [h.recent, h.current]

end SyncTable

/-- Two windows with the same lengths whose kept times are the first's read on a clock `c`
ticks ahead; the time of a sensor with no kept pulse is free. -/
structure SweepWindow.Shifted (c : Int) (w₁ w₂ : SweepWindow) : Prop where
  lengths : w₂.lengths = w₁.lengths
  times_length : w₂.times.length = w₁.times.length
  times : ShiftedWhere (· ≠ 0) c w₁.lengths w₁.times w₂.times

namespace Receiver

variable {c : Int}

theorem classify_shifted {s₁ s₂ : SyncTable} (h : s₁.Shifted c s₂) (hs : s₁.Wf) (t l a : Int) :
    ∃ s₁' s₂', classify s₁ t l a = .ok s₁' ∧ classify s₂ (Ticks.shift c t) l a = .ok s₂' ∧
      s₁'.Shifted c s₂' := by
  obtain ⟨hrec, hcur, hact, hast, haa, hmax, hac, hsl, hst⟩ := h
  have ⟨hle, h2s, h2m, h2a⟩ := hs
  have hgap : Ticks.timecodeDelta (Ticks.shift c t) s₂.recent =
      Ticks.timecodeDelta t s₁.recent := by
    rw [hrec, Ticks.timecodeDelta_shift]
  unfold classify
  simp only [hgap, hcur, hmax, hac]
  split_ifs with h1 h2 h3
  · -- the current flash: its slot is rewritten only by a longer pulse
    have hm : s₁.current < s₁.maxLength.length := by omega
    have hs₁ : s₁.current < s₁.start.length := by omega
    have hs₂ : s₁.current < s₂.start.length := by omega
    have ha : s₁.current < s₁.acode.length := by omega
    simp only [getAt_of_lt hm, pure_bind]
    split
    · simp only [setAt_of_lt hm, setAt_of_lt hs₁, setAt_of_lt hs₂, setAt_of_lt ha, pure_bind]
      refine ⟨_, _, rfl, rfl, ⟨rfl, rfl, hact, hast, haa, rfl, rfl, by simpa using hsl, ?_⟩⟩
      rw [Ticks.wrap_shift_add]
      exact hst.set hsl _ _ _
    · exact ⟨_, _, rfl, rfl, ⟨rfl, rfl, hact, hast, haa, rfl, rfl, hsl, hst⟩⟩
  · -- the second lighthouse's flash
    have hm : 1 < s₁.maxLength.length := by omega
    have hs₁ : 1 < s₁.start.length := by omega
    have hs₂ : 1 < s₂.start.length := by omega
    have ha : 1 < s₁.acode.length := by omega
    simp only [setAt_of_lt hm, setAt_of_lt hs₁, setAt_of_lt hs₂, setAt_of_lt ha, pure_bind]
    exact ⟨_, _, rfl, rfl, ⟨rfl, rfl, rfl, fun h => by simp at h, haa, rfl, rfl,
      by simpa using hsl, hst.set hsl _ _ _⟩⟩
  · -- a new cycle: both tables start afresh, as wide as before
    have hz : 0 < (List.replicate s₁.acode.length (0 : Int)).length := by simp; omega
    have hu : 0 < (List.replicate s₁.acode.length (-1 : Int)).length := by simp; omega
    simp only [SyncTable.fresh, setAt_of_lt hz, setAt_of_lt hu, pure_bind]
    refine ⟨_, _, rfl, rfl, ⟨rfl, rfl, rfl, fun h => by simp at h, rfl, rfl, rfl,
      by simp, ?_⟩⟩
    rw [Ticks.wrap_shift_add]
    exact (ShiftedWhere.of_forall_not (by simp) _ _).set rfl _ _ _
  · exact ⟨_, _, rfl, rfl, ⟨hrec, hcur, hact, hast, haa, hmax, hac, hsl, hst⟩⟩

theorem sweepingSlot_some {acode : List Int} {i : Nat} (h : sweepingSlot acode = some i) :
    ∃ a, acode[i]? = some a ∧ 0 ≤ a := by
  unfold sweepingSlot at h
  obtain ⟨p, hp, rfl⟩ := Option.map_eq_some_iff.mp h
  obtain ⟨hz, hcond⟩ := List.mem_filter.mp (List.mem_of_getLast? hp)
  exact ⟨p.1, List.mem_zipIdx_iff_getElem?.mp hz, by simp at hcond; exact hcond.1⟩

theorem selectActive_shifted {s₁ s₂ : SyncTable} (h : s₁.Shifted c s₂)
    (hlen : s₁.acode.length ≤ s₁.start.length) :
    (selectActive s₁).Shifted c (selectActive s₂) := by
  rw [selectActive_eq_sweepingSlot, selectActive_eq_sweepingSlot, h.acode]
  cases hs : sweepingSlot s₁.acode with
  | none =>
    exact ⟨h.recent, h.current, rfl, fun h => by simp at h, rfl, h.maxLength, rfl, h.start_length,
      h.start⟩
  | some i =>
    obtain ⟨a, ha, ha0⟩ := sweepingSlot_some hs
    have hi : i < s₁.start.length := by
      have := (List.getElem?_eq_some_iff.mp ha).1
      omega
    have hst := h.start i a s₁.start[i] ha ha0 (List.getElem?_eq_getElem hi)
    refine ⟨h.recent, h.current, rfl, fun _ => ?_, rfl, h.maxLength, rfl, h.start_length, h.start⟩
    simp [List.getD_eq_getElem?_getD, hst, List.getElem?_eq_getElem hi]

end Receiver

namespace SweepWindow

variable {c : Int} {w₁ w₂ : SweepWindow}

/-- The entries a sweep report lists: each sensor with a kept pulse, with its length and time. -/
def kept (w : SweepWindow) : List ((Int × Int) × Nat) :=
  ((w.lengths.zip w.times).zipIdx).filter fun p => p.1.1 ≠ 0

/-- A kept entry read on a clock `c` ticks ahead. -/
def shiftEntry (c : Int) (p : (Int × Int) × Nat) : (Int × Int) × Nat :=
  ((p.1.1, Ticks.shift c p.1.2), p.2)

theorem record_hits (w : SweepWindow) (sensor : Nat) (t l : Int) :
    (w.record sensor t l).hits = w.hits := by
  unfold SweepWindow.record
  split <;> rfl

theorem Shifted.record (h : w₁.Shifted c w₂) (sensor : Nat) (t len : Int) :
    (w₁.record sensor t len).Shifted c (w₂.record sensor (Ticks.shift c t) len) := by
  unfold SweepWindow.record
  rw [h.lengths]
  split
  · exact ⟨rfl, by simpa using h.times_length, h.times.set h.times_length _ _ _⟩
  · exact h

theorem kept_zipIdx_shifted {c : Int} :
    ∀ (ls ts₁ ts₂ : List Int) (k : Nat), ts₂.length = ts₁.length →
      ShiftedWhere (· ≠ 0) c ls ts₁ ts₂ →
      ((ls.zip ts₂).zipIdx k).filter (fun p => p.1.1 ≠ 0) =
        (((ls.zip ts₁).zipIdx k).filter fun p => p.1.1 ≠ 0).map (shiftEntry c)
  | [], _, _, _, _, _ => rfl
  | _ :: _, [], ts₂, _, hlen, _ => by
    rw [List.length_eq_zero_iff.mp hlen]
    rfl
  | _ :: _, _ :: _, [], _, hlen, _ => by simp at hlen
  | l :: ls, t₁ :: ts₁, t₂ :: ts₂, k, hlen, h => by
    have hrest : ShiftedWhere (· ≠ 0) c ls ts₁ ts₂ :=
      fun i k y hk hP hy => h (i + 1) k y hk hP hy
    have ih := kept_zipIdx_shifted ls ts₁ ts₂ (k + 1) (by simpa using hlen) hrest
    simp only [List.zip_cons_cons, List.zipIdx_cons, List.filter_cons, ih]
    by_cases hl : l = 0
    · simp [hl]
    · have ht : t₂ = Ticks.shift c t₁ := by simpa using h 0 l t₁ rfl hl rfl
      simp [hl, ht, shiftEntry]

theorem Shifted.kept (h : w₁.Shifted c w₂) : w₂.kept = w₁.kept.map (shiftEntry c) := by
  unfold SweepWindow.kept
  rw [h.lengths]
  exact kept_zipIdx_shifted _ _ _ 0 h.times_length h.times

end SweepWindow

namespace Receiver

variable {c : Int} {r r₁ r₂ : Receiver}

/-! ### What ending a sweep reads and writes -/

theorem reportSweep_snd (r : Receiver) : r.reportSweep.2 =
    if r.window.kept.isEmpty ∨ r.sync.active < 0 then none
    else ((r.channels[r.sync.active.toNat]?).bind Channel.lighthouse).map fun cal =>
      { lighthouse := cal, slot := r.sync.active.toNat, axis := Acode.axis r.sync.activeAcode,
        syncTime := r.sync.activeStart, sensors := r.window.kept.map (·.2)
        sweepTimes := r.window.kept.map (·.1.2)
        angles := r.window.kept.map fun p =>
          Ticks.timecodeDelta p.1.2 r.sync.activeStart + p.1.1 / 2
        lengths := r.window.kept.map (·.1.1) } := by
  by_cases hc : r.window.kept.isEmpty ∨ r.sync.active < 0
  · rw [if_pos hc]
    unfold SweepWindow.kept at hc
    unfold reportSweep
    simp only [if_pos hc]
  · rw [if_neg hc]
    unfold SweepWindow.kept at hc ⊢
    unfold reportSweep
    simp only [if_neg hc]
    cases (r.channels[r.sync.active.toNat]?.bind Channel.lighthouse) <;> rfl

theorem reportSweep_hits (r : Receiver) : r.reportSweep.1.window.hits =
    if r.sync.active > -1 ∧ r.window.lengths.any (· ≠ 0) then
      (r.window.hits.zip r.window.lengths).map fun (h, len) =>
        bumpHits h (Acode.axis r.sync.activeAcode) (len ≠ 0)
    else r.window.hits := by
  unfold reportSweep
  dsimp only
  split <;> rfl

theorem reportSweep_emitted (r : Receiver) :
    r.reportSweep.1.emitted = if r.reportSweep.2.isSome then r.emitted + 1 else r.emitted := by
  by_cases hc : r.window.kept.isEmpty ∨ r.sync.active < 0
  · unfold SweepWindow.kept at hc
    unfold reportSweep
    simp only [if_pos hc]
    rfl
  · unfold SweepWindow.kept at hc
    unfold reportSweep
    simp only [if_neg hc]
    cases (r.channels[r.sync.active.toNat]?.bind Channel.lighthouse) <;> rfl

theorem reportSweep_acodeOffset (r : Receiver) (a : Float) :
    ({ r with acodeOffset := a }).reportSweep =
      ({ r.reportSweep.1 with acodeOffset := a }, r.reportSweep.2) := by
  by_cases hc : r.window.kept.isEmpty ∨ r.sync.active < 0
  · unfold SweepWindow.kept at hc
    unfold reportSweep
    simp only [if_pos hc]
  · unfold SweepWindow.kept at hc
    unfold reportSweep
    simp only [if_neg hc]
    cases (r.channels[r.sync.active.toNat]?.bind Channel.lighthouse) <;> rfl

theorem reportSweep_sync (r : Receiver) : r.reportSweep.1.sync = r.sync := by
  obtain ⟨hits, e, h⟩ := reportSweep_eq r
  rw [h]

theorem reportSweep_channels (r : Receiver) : r.reportSweep.1.channels = r.channels := by
  obtain ⟨hits, e, h⟩ := reportSweep_eq r
  rw [h]

theorem onSync_of_classify {t l : Int} {s' : SyncTable}
    (h : classify r.sync t l (decodeAcode l) = .ok s') :
    (r.onSync t l).failure = none ∧
      (r.onSync t l).final = { r.reportSweep.1.clearWindow with
        sync := s', acodeOffset := smoothOffset r.acodeOffset l,
        channels := r.channels.modify s'.current (·.feed (Acode.dataBit (decodeAcode l)) t) } := by
  unfold onSync
  dsimp only
  rw [reportSweep_acodeOffset]
  dsimp only
  rw [clearWindow_sync]
  dsimp only
  rw [reportSweep_sync, h]
  dsimp only
  rw [clearWindow_channels]
  dsimp only
  rw [reportSweep_channels]
  rcases hch : r.channels[s'.current]? with _ | ch
  · rw [List.modify_eq_self (List.getElem?_eq_none_iff.mp hch)]
    exact ⟨rfl, rfl⟩
  · rw [List.modify_eq_set, hch]
    exact ⟨rfl, rfl⟩

/-! ### The shape every pulse keeps -/

/-- The shape of a receiver that `create` built over at least two channels, which every pulse
keeps: one flash-table entry per channel, the current flash on one of the first two slots, and
one window entry per sensor. -/
structure Shaped (r : Receiver) : Prop where
  two_le : 2 ≤ r.channels.length
  current_le : r.sync.current ≤ 1
  start : r.sync.start.length = r.channels.length
  maxLength : r.sync.maxLength.length = r.channels.length
  acode : r.sync.acode.length = r.channels.length
  lengths : r.window.lengths.length = r.numSensors.toNat
  times : r.window.times.length = r.numSensors.toNat

theorem Shaped.wf (h : r.Shaped) : r.Wf := by
  have := h.two_le
  have := h.start
  have := h.maxLength
  have := h.acode
  exact ⟨⟨h.current_le, by omega, by omega, by omega⟩, h.lengths, h.times⟩

theorem create_shaped {channels : List Channel} (h : 2 ≤ channels.length) (numSensors : Int) :
    (create channels numSensors).Shaped :=
  ⟨h, Nat.zero_le 1, by simp [create, SyncTable.fresh], by simp [create, SyncTable.fresh],
    by simp [create, SyncTable.fresh], by simp [create], by simp [create]⟩

theorem classify_sized {s : SyncTable} {n : Nat} (hs : s.Wf) (h₁ : s.start.length = n)
    (h₂ : s.maxLength.length = n) (h₃ : s.acode.length = n) (t l a : Int) :
    ∃ s', classify s t l a = .ok s' ∧ s'.Wf ∧
      s'.start.length = n ∧ s'.maxLength.length = n ∧ s'.acode.length = n := by
  obtain ⟨s', hcl, hwf, -⟩ := classify_ok hs t l a
  refine ⟨s', hcl, hwf, ?_⟩
  have ⟨hle, h2s, h2m, h2a⟩ := hs
  unfold classify at hcl
  dsimp only at hcl
  split_ifs at hcl
  · have hm : s.current < s.maxLength.length := by omega
    simp only [getAt_of_lt hm, pure_bind] at hcl
    split at hcl
    · have hs₁ : s.current < s.start.length := by omega
      have ha : s.current < s.acode.length := by omega
      simp only [setAt_of_lt hm, setAt_of_lt hs₁, setAt_of_lt ha, pure_bind] at hcl
      cases hcl
      simp [h₁, h₂, h₃]
    · cases hcl
      exact ⟨h₁, h₂, h₃⟩
  · have hm : 1 < s.maxLength.length := by omega
    have hs₁ : 1 < s.start.length := by omega
    have ha : 1 < s.acode.length := by omega
    simp only [setAt_of_lt hm, setAt_of_lt hs₁, setAt_of_lt ha, pure_bind] at hcl
    cases hcl
    simp [h₁, h₂, h₃]
  · have hz : 0 < (List.replicate s.acode.length (0 : Int)).length := by simp; omega
    have hu : 0 < (List.replicate s.acode.length (-1 : Int)).length := by simp; omega
    simp only [SyncTable.fresh, setAt_of_lt hz, setAt_of_lt hu, pure_bind] at hcl
    cases hcl
    simp [h₃]
  · cases hcl
    exact ⟨h₁, h₂, h₃⟩

theorem map_lighthouse_modify_feed (l : List Channel) (i : Nat) (b : Bool) (t : Int) :
    (l.modify i (·.feed b t)).map (·.lighthouse) = l.map (·.lighthouse) := by
  apply List.ext_getElem?
  intro j
  by_cases hij : i = j
  · subst hij
    simp only [List.getElem?_map, List.getElem?_modify_eq]
    cases l[i]? <;> rfl
  · simp [List.getElem?_map, List.getElem?_modify_ne _ _ hij]

theorem Shaped.step (h : r.Shaped) (t sensor l : Int) : (r.step t sensor l).final.Shaped := by
  by_cases hd : sensor < 0 ∨ sensor ≥ r.numSensors ∨ l > maxPulse
  · rw [step_of_dropped hd]
    exact ⟨h.two_le, h.current_le, h.start, h.maxLength, h.acode, h.lengths, h.times⟩
  by_cases hk : keptSync r.numSensors sensor l
  · obtain ⟨s', hcl, hwf, hs, hm, ha⟩ :=
      classify_sized h.wf.sync h.start h.maxLength h.acode t l (decodeAcode l)
    rw [step_of_keptSync hk, (onSync_of_classify hcl).2]
    obtain ⟨hits, e, hrep⟩ := reportSweep_eq r
    refine ⟨by simpa using h.two_le, hwf.current_le, by simpa using hs, by simpa using hm,
      by simpa using ha, ?_, ?_⟩ <;> simp [clearWindow, hrep, h.lengths]
  · obtain ⟨h0, hn, hl⟩ := sweep_of_not_keptSync hd hk
    rw [step_of_sweep h0 hn hl, onSweep_eq]
    have hw := SweepWindow.record_lengths r.window sensor.toNat t l
    obtain ⟨a, st, ac, hsel⟩ := selectActive_eq r.sync
    refine ⟨h.two_le, ?_, ?_, ?_, ?_, ?_, ?_⟩ <;> simp only [hsel]
    · exact h.current_le
    · exact h.start
    · exact h.maxLength
    · exact h.acode
    · split
      · exact h.lengths
      · exact hw.1.trans h.lengths
    · split
      · exact h.times
      · exact hw.2.trans h.times

/-! ### Two receivers on clocks `c` ticks apart -/

/-- Two receivers that agree in all that placing pulses and reporting sweeps reads, the second's
times read on a clock `c` ticks ahead; decoder states, hit counts and counters are free. -/
structure Agree (c : Int) (r₁ r₂ : Receiver) : Prop where
  sync : r₁.sync.Shifted c r₂.sync
  window : r₁.window.Shifted c r₂.window
  numSensors : r₂.numSensors = r₁.numSensors
  lighthouses : r₂.channels.map (·.lighthouse) = r₁.channels.map (·.lighthouse)

theorem lighthouse_at {l₁ l₂ : List Channel} (h : l₂.map (·.lighthouse) = l₁.map (·.lighthouse))
    (i : Nat) : (l₂[i]?).bind Channel.lighthouse = (l₁[i]?).bind Channel.lighthouse := by
  have := congrArg (·[i]?) h
  simp only [List.getElem?_map] at this
  cases h₁ : l₁[i]? <;> cases h₂ : l₂[i]? <;> simp_all

theorem Agree.shaped (h : Agree c r₁ r₂) (hr : r₁.Shaped) : r₂.Shaped := by
  have hch : r₂.channels.length = r₁.channels.length := by
    simpa using congrArg List.length h.lighthouses
  exact ⟨by have := hr.two_le; omega, by rw [h.sync.current]; exact hr.current_le,
    by rw [h.sync.start_length, hch]; exact hr.start,
    by rw [h.sync.maxLength, hch]; exact hr.maxLength, by rw [h.sync.acode, hch]; exact hr.acode,
    by rw [h.window.lengths, h.numSensors]; exact hr.lengths,
    by rw [h.window.times_length, h.numSensors]; exact hr.times⟩

theorem Agree.reportSweep_fst (h : Agree c r₁ r₂) :
    Agree c r₁.reportSweep.1 r₂.reportSweep.1 := by
  obtain ⟨hits₁, e₁, h₁⟩ := reportSweep_eq r₁
  obtain ⟨hits₂, e₂, h₂⟩ := reportSweep_eq r₂
  rw [h₁, h₂]
  exact ⟨h.sync, ⟨h.window.lengths, h.window.times_length, h.window.times⟩, h.numSensors,
    h.lighthouses⟩

theorem Agree.reportSweep_snd (h : Agree c r₁ r₂) :
    r₂.reportSweep.2 = r₁.reportSweep.2.map (SweepTicks.shift c) := by
  rw [Receiver.reportSweep_snd, Receiver.reportSweep_snd, h.window.kept, h.sync.active,
    lighthouse_at h.lighthouses, h.sync.activeAcode]
  by_cases hc : r₁.window.kept.isEmpty ∨ r₁.sync.active < 0
  · have hc₂ : (r₁.window.kept.map (SweepWindow.shiftEntry c)).isEmpty ∨ r₁.sync.active < 0 := by
      simpa using hc
    rw [if_pos hc, if_pos hc₂]
    rfl
  · have hc₂ : ¬((r₁.window.kept.map (SweepWindow.shiftEntry c)).isEmpty ∨ r₁.sync.active < 0) := by
      simpa using hc
    rw [if_neg hc, if_neg hc₂, h.sync.activeStart (by omega), Option.map_map]
    congr 1
    funext cal
    simp [SweepTicks.shift, SweepWindow.shiftEntry, Function.comp_def, Ticks.timecodeDelta_shift]

theorem Agree.clearWindow (h : Agree c r₁ r₂) : Agree c r₁.clearWindow r₂.clearWindow :=
  ⟨h.sync, ⟨by simp [Receiver.clearWindow, h.window.lengths],
    by simp [Receiver.clearWindow, h.window.lengths],
    ShiftedWhere.of_forall_not (by simp [Receiver.clearWindow]) _ _⟩, h.numSensors, h.lighthouses⟩

theorem Agree.onSync (h : Agree c r₁ r₂) (hr : r₁.Shaped) (t l : Int) :
    (r₁.onSync t l).failure = none ∧ (r₂.onSync (Ticks.shift c t) l).failure = none ∧
      Agree c (r₁.onSync t l).final (r₂.onSync (Ticks.shift c t) l).final ∧
      (r₂.onSync (Ticks.shift c t) l).report.map Prod.snd =
        ((r₁.onSync t l).report.map Prod.snd).map (SweepTicks.shift c) := by
  obtain ⟨s₁', s₂', hc₁, hc₂, hs'⟩ := classify_shifted h.sync hr.wf.sync t l (decodeAcode l)
  obtain ⟨hf₁, hfin₁⟩ := onSync_of_classify hc₁
  obtain ⟨hf₂, hfin₂⟩ := onSync_of_classify hc₂
  refine ⟨hf₁, hf₂, ?_, by rw [onSync_report, onSync_report]; exact h.reportSweep_snd⟩
  have hw := h.reportSweep_fst.clearWindow
  rw [hfin₁, hfin₂]
  refine ⟨hs', hw.window, hw.numSensors, ?_⟩
  simp only [map_lighthouse_modify_feed]
  exact h.lighthouses

theorem Agree.onSweep (h : Agree c r₁ r₂) (hr : r₁.Shaped) (t : Int) (sensor : Nat) (l : Int) :
    Agree c (r₁.onSweep t sensor l) (r₂.onSweep (Ticks.shift c t) sensor l) := by
  have hsel := selectActive_shifted h.sync (Nat.le_of_eq (hr.acode.trans hr.start.symm))
  rw [onSweep_eq, onSweep_eq, hsel.active]
  refine ⟨hsel, ?_, h.numSensors, h.lighthouses⟩
  split_ifs
  · exact h.window
  · exact h.window.record sensor t l

theorem Agree.step (h : Agree c r₁ r₂) (hr : r₁.Shaped) (t sensor l : Int) :
    (r₁.step t sensor l).failure = none ∧ (r₂.step (Ticks.shift c t) sensor l).failure = none ∧
      Agree c (r₁.step t sensor l).final (r₂.step (Ticks.shift c t) sensor l).final ∧
      (r₂.step (Ticks.shift c t) sensor l).report.map Prod.snd =
        ((r₁.step t sensor l).report.map Prod.snd).map (SweepTicks.shift c) := by
  by_cases hd : sensor < 0 ∨ sensor ≥ r₁.numSensors ∨ l > maxPulse
  · rw [step_of_dropped hd, step_of_dropped (by rw [h.numSensors]; exact hd)]
    exact ⟨rfl, rfl, ⟨h.sync, h.window, h.numSensors, h.lighthouses⟩, rfl⟩
  by_cases hk : keptSync r₁.numSensors sensor l
  · rw [step_of_keptSync hk, step_of_keptSync (by rw [h.numSensors]; exact hk)]
    exact h.onSync hr t l
  · obtain ⟨h0, hn, hl⟩ := sweep_of_not_keptSync hd hk
    rw [step_of_sweep h0 hn hl, step_of_sweep h0 (by rw [h.numSensors]; exact hn) hl]
    exact ⟨rfl, rfl, h.onSweep hr t sensor.toNat l, rfl⟩

/-- Two receivers equal but for their times, the second's read on a clock `c` ticks ahead. -/
structure Shifted (c : Int) (r₁ r₂ : Receiver) : Prop where
  agree : Agree c r₁ r₂
  channels : r₂.channels = r₁.channels
  hits : r₂.window.hits = r₁.window.hits
  acodeOffset : r₂.acodeOffset = r₁.acodeOffset
  dropped : r₂.dropped = r₁.dropped
  emitted : r₂.emitted = r₁.emitted

theorem Shifted.step (h : Shifted c r₁ r₂) (hr : r₁.Shaped) (t sensor l : Int) :
    Shifted c (r₁.step t sensor l).final (r₂.step (Ticks.shift c t) sensor l).final := by
  obtain ⟨-, -, hag, -⟩ := h.agree.step hr t sensor l
  have hn := h.agree.numSensors
  by_cases hd : sensor < 0 ∨ sensor ≥ r₁.numSensors ∨ l > maxPulse
  · rw [step_of_dropped hd, step_of_dropped (by rw [hn]; exact hd)] at hag ⊢
    exact ⟨hag, h.channels, h.hits, h.acodeOffset, by simp [h.dropped], h.emitted⟩
  by_cases hk : keptSync r₁.numSensors sensor l
  · -- a sync pulse: the same bit goes to the same slot, and the report's presence agrees
    obtain ⟨s₁', s₂', hc₁, hc₂, hs'⟩ :=
      classify_shifted h.agree.sync hr.wf.sync t l (decodeAcode l)
    rw [step_of_keptSync hk, step_of_keptSync (by rw [hn]; exact hk),
      (onSync_of_classify hc₁).2, (onSync_of_classify hc₂).2] at hag ⊢
    obtain ⟨hits₁, e₁, h₁⟩ := reportSweep_eq r₁
    obtain ⟨hits₂, e₂, h₂⟩ := reportSweep_eq r₂
    have hhits : r₂.reportSweep.1.window.hits = r₁.reportSweep.1.window.hits := by
      rw [reportSweep_hits, reportSweep_hits, h.agree.sync.active, h.agree.sync.activeAcode,
        h.agree.window.lengths, h.hits]
    have hemit : r₂.reportSweep.1.emitted = r₁.reportSweep.1.emitted := by
      rw [reportSweep_emitted, reportSweep_emitted, h.agree.reportSweep_snd, Option.isSome_map,
        h.emitted]
    refine ⟨hag, ?_, hhits, by rw [h.acodeOffset], by simp [clearWindow, h₁, h₂, h.dropped], hemit⟩
    simp only [h.channels, hs'.current]
    congr 1
    funext ch
    exact Channel.feed_timecode ch _ _ _
  · obtain ⟨h0, hn', hl⟩ := sweep_of_not_keptSync hd hk
    rw [step_of_sweep h0 hn' hl, step_of_sweep h0 (by rw [hn]; exact hn') hl] at hag ⊢
    rw [onSweep_eq, onSweep_eq] at hag ⊢
    refine ⟨hag, h.channels, ?_, h.acodeOffset, h.dropped, h.emitted⟩
    split_ifs <;> simp [SweepWindow.record_hits, h.hits]

/-- A pulse taken by two receivers equal but for their times, at timecodes `c` ticks apart:
neither fails, they stay equal but for their times, the pulse feeds the same bit to the same
slot's decoder, and it gives the same report with its sync time and sweep times moved. -/
theorem step_shifted (hr : r₁.Shaped) (h : Shifted c r₁ r₂) (t sensor l : Int) :
    (r₁.step t sensor l).failure = none ∧ (r₂.step (Ticks.shift c t) sensor l).failure = none ∧
      Shifted c (r₁.step t sensor l).final (r₂.step (Ticks.shift c t) sensor l).final ∧
      (∀ k, fedBits r₂.numSensors k r₂.sync.tracker [(Ticks.shift c t, sensor, l)] =
        (fedBits r₁.numSensors k r₁.sync.tracker [(t, sensor, l)]).map
          fun b => (b.1, Ticks.shift c b.2)) ∧
      (r₂.step (Ticks.shift c t) sensor l).report.map Prod.snd =
        ((r₁.step t sensor l).report.map Prod.snd).map (SweepTicks.shift c) := by
  obtain ⟨hf₁, hf₂, -, hrep⟩ := h.agree.step hr t sensor l
  refine ⟨hf₁, hf₂, h.step hr t sensor l, fun k => ?_, hrep⟩
  rw [h.agree.sync.tracker, h.agree.numSensors]
  exact fedBits_shift c r₁.numSensors k r₁.sync.tracker [(t, sensor, l)]

/-! ### Two streams from the first common new cycle on -/

/-- Whether a pulse makes a receiver start a new cycle: a kept sync pulse more than a cycle's
gap after the last sync pulse. -/
def startsCycle (r : Receiver) (p : Int × Int × Int) : Prop :=
  keptSync r.numSensors p.2.1 p.2.2 ∧ resetGap < Ticks.timecodeDelta p.1 r.sync.recent

/-- The report each pulse of a stream gives, in order. -/
def reports (r : Receiver) : List (Int × Int × Int) → List (Option SweepTicks)
  | [] => []
  | (t, s, l) :: ps => (r.step t s l).report.map Prod.snd :: reports (r.step t s l).final ps

theorem classify_of_reset {s : SyncTable} (hs : s.Wf) {t l a : Int}
    (hg : resetGap < Ticks.timecodeDelta t s.recent) :
    classify s t l a = .ok { SyncTable.fresh s.acode.length with
      recent := t, start := (List.replicate s.acode.length 0).set 0 (Ticks.wrap (t + l)),
      maxLength := (List.replicate s.acode.length 0).set 0 l,
      acode := (List.replicate s.acode.length (-1)).set 0 a } := by
  have h1 : ¬Ticks.timecodeDelta t s.recent < sameCycleGap := by
    unfold sameCycleGap; unfold resetGap at hg; omega
  have h2 : ¬Ticks.timecodeDelta t s.recent < secondLighthouseGap := by
    unfold secondLighthouseGap; unfold resetGap at hg; omega
  have hz : 0 < (List.replicate s.acode.length (0 : Int)).length := by
    have := hs.acode_len; simp; omega
  have hu : 0 < (List.replicate s.acode.length (-1 : Int)).length := by
    have := hs.acode_len; simp; omega
  unfold classify
  simp only [if_neg h1, if_neg h2, if_pos hg, SyncTable.fresh, setAt_of_lt hz, setAt_of_lt hu,
    pure_bind]
  rfl

theorem agree_of_startsCycle (hr₁ : r₁.Shaped) (hr₂ : r₂.Shaped)
    (hn : r₂.numSensors = r₁.numSensors)
    (hl : r₂.channels.map (·.lighthouse) = r₁.channels.map (·.lighthouse)) {t s l : Int}
    (h₁ : r₁.startsCycle (t, s, l)) (h₂ : r₂.startsCycle (Ticks.shift c t, s, l)) :
    Agree c (r₁.step t s l).final (r₂.step (Ticks.shift c t) s l).final := by
  have hch : r₂.channels.length = r₁.channels.length := by
    simpa using congrArg List.length hl
  have hac : r₂.sync.acode.length = r₁.sync.acode.length := by
    rw [hr₂.acode, hr₁.acode, hch]
  rw [step_of_keptSync h₁.1, step_of_keptSync h₂.1,
    (onSync_of_classify (classify_of_reset hr₁.wf.sync h₁.2)).2,
    (onSync_of_classify (classify_of_reset hr₂.wf.sync h₂.2)).2]
  obtain ⟨hits₁, e₁, hrep₁⟩ := reportSweep_eq r₁
  obtain ⟨hits₂, e₂, hrep₂⟩ := reportSweep_eq r₂
  have hsync : SyncTable.Shifted c
      { SyncTable.fresh r₁.sync.acode.length with
        recent := t, start := (List.replicate r₁.sync.acode.length 0).set 0 (Ticks.wrap (t + l)),
        maxLength := (List.replicate r₁.sync.acode.length 0).set 0 l,
        acode := (List.replicate r₁.sync.acode.length (-1)).set 0 (decodeAcode l) }
      { SyncTable.fresh r₂.sync.acode.length with
        recent := Ticks.shift c t,
        start := (List.replicate r₂.sync.acode.length 0).set 0 (Ticks.wrap (Ticks.shift c t + l)),
        maxLength := (List.replicate r₂.sync.acode.length 0).set 0 l,
        acode := (List.replicate r₂.sync.acode.length (-1)).set 0 (decodeAcode l) } := by
    rw [hac, Ticks.wrap_shift_add]
    exact ⟨rfl, rfl, rfl, fun h => by simp [SyncTable.fresh] at h, rfl, rfl, rfl, by simp,
      (ShiftedWhere.of_forall_not (by simp) _ _).set rfl _ _ _⟩
  refine ⟨hsync, ⟨?_, ?_, ShiftedWhere.of_forall_not (by simp [clearWindow]) _ _⟩, ?_, ?_⟩
  · simp [clearWindow, hrep₁, hrep₂, hr₁.lengths, hr₂.lengths, hn]
  · simp [clearWindow, hrep₁, hrep₂, hr₁.lengths, hr₂.lengths, hn]
  · simp [clearWindow, hrep₁, hrep₂, hn]
  · simp only [map_lighthouse_modify_feed]
    exact hl

theorem Agree.reports (h : Agree c r₁ r₂) (hr : r₁.Shaped) (ps : List (Int × Int × Int)) :
    reports r₂ (ps.map (shiftPulse c)) = (reports r₁ ps).map (Option.map (SweepTicks.shift c)) := by
  induction ps generalizing r₁ r₂ with
  | nil => rfl
  | cons p ps ih =>
    obtain ⟨t, s, l⟩ := p
    obtain ⟨-, -, hag, hrep⟩ := h.step hr t s l
    simp only [List.map_cons, shiftPulse, reports]
    rw [hrep, ih hag (hr.step t s l)]

/-- Two streams whose timecodes differ by `c` modulo `2^32`, taken from any two receivers with
the same sensors and lighthouses: from a pulse on which both start a new cycle on, the same bits
reach the same decoders, with their timecodes moved, and every later pulse gives the same report
with its times moved. -/
theorem reports_after_common_reset (hr₁ : r₁.Shaped) (hr₂ : r₂.Shaped)
    (hn : r₂.numSensors = r₁.numSensors)
    (hl : r₂.channels.map (·.lighthouse) = r₁.channels.map (·.lighthouse))
    {p : Int × Int × Int} (h₁ : r₁.startsCycle p) (h₂ : r₂.startsCycle (shiftPulse c p))
    (post : List (Int × Int × Int)) :
    (∀ k, fedBits r₂.numSensors k r₂.sync.tracker ((p :: post).map (shiftPulse c)) =
      (fedBits r₁.numSensors k r₁.sync.tracker (p :: post)).map
        fun b => (b.1, Ticks.shift c b.2)) ∧
    (reports r₂ ((p :: post).map (shiftPulse c))).tail =
      (reports r₁ (p :: post)).tail.map (Option.map (SweepTicks.shift c)) := by
  obtain ⟨t, s, l⟩ := p
  constructor
  · -- both trackers restart on the first slot, then move in step
    intro k
    have hp₁ : r₁.sync.tracker.place t = ⟨t, 0⟩ := Tracker.place_of_reset h₁.2
    have hp₂ : r₂.sync.tracker.place (Ticks.shift c t) = ⟨Ticks.shift c t, 0⟩ :=
      Tracker.place_of_reset h₂.2
    have hrest := fedBits_shift c r₁.numSensors k ⟨t, 0⟩ post
    simp only [Tracker.shift] at hrest
    simp only [List.map_cons, shiftPulse, fedBits, if_pos h₁.1, hn, hp₁, hp₂, hrest]
    split_ifs <;> simp
  · exact (agree_of_startsCycle hr₁ hr₂ hn hl h₁ h₂).reports (hr₁.step t s l) post

/-- Reading the receiver's clock `c` ticks ahead, modulo `2^32`, changes nothing but the times:
a pulse keeps two receivers equal but for their times, feeds the same bit to the same decoder and
gives the same report with its times moved; and two streams `c` ticks apart, from any two states
with the same sensors and lighthouses, agree in the same way from the first pulse on which both
start a new cycle. -/
theorem timecode_shift_invariance (c : Int) :
    (∀ r₁ r₂ : Receiver, r₁.Shaped → Shifted c r₁ r₂ → ∀ t sensor l : Int,
      (r₁.step t sensor l).failure = none ∧ (r₂.step (Ticks.shift c t) sensor l).failure = none ∧
      Shifted c (r₁.step t sensor l).final (r₂.step (Ticks.shift c t) sensor l).final ∧
      (∀ k, fedBits r₂.numSensors k r₂.sync.tracker [(Ticks.shift c t, sensor, l)] =
        (fedBits r₁.numSensors k r₁.sync.tracker [(t, sensor, l)]).map
          fun b => (b.1, Ticks.shift c b.2)) ∧
      (r₂.step (Ticks.shift c t) sensor l).report.map Prod.snd =
        ((r₁.step t sensor l).report.map Prod.snd).map (SweepTicks.shift c)) ∧
    (∀ r₁ r₂ : Receiver, r₁.Shaped → r₂.Shaped → r₂.numSensors = r₁.numSensors →
      r₂.channels.map (·.lighthouse) = r₁.channels.map (·.lighthouse) →
      ∀ p, r₁.startsCycle p → r₂.startsCycle (shiftPulse c p) → ∀ post,
      (∀ k, fedBits r₂.numSensors k r₂.sync.tracker ((p :: post).map (shiftPulse c)) =
        (fedBits r₁.numSensors k r₁.sync.tracker (p :: post)).map
          fun b => (b.1, Ticks.shift c b.2)) ∧
      (reports r₂ ((p :: post).map (shiftPulse c))).tail =
        (reports r₁ (p :: post)).tail.map (Option.map (SweepTicks.shift c))) :=
  ⟨fun _ _ hr h => step_shifted hr h,
    fun _ _ hr₁ hr₂ hn hl _ h₁ h₂ => reports_after_common_reset hr₁ hr₂ hn hl h₁ h₂⟩

/-- Two fresh receivers, the second's last sync time read five ticks ahead, agree on a sync pulse
at `1000000` and at `1000005`; and two fresh receivers fed a stream and the stream five ticks
later agree from its first pulse on. -/
theorem fresh_receivers_five_ticks_apart :
    (create [{}, {}] 8).Shaped ∧
      Shifted 5 (create [{}, {}] 8)
        { create [{}, {}] 8 with sync := { SyncTable.fresh 2 with recent := 5 } } ∧
      ({ create [{}, {}] 8 with sync := { SyncTable.fresh 2 with recent := 5 } }.step
          (Ticks.shift 5 1000000) 0 3000).report.map Prod.snd =
        (((create [{}, {}] 8).step 1000000 0 3000).report.map Prod.snd).map (SweepTicks.shift 5) ∧
      (create [{}, {}] 8).startsCycle (1000000, 0, 3000) ∧
      (create [{}, {}] 8).startsCycle (shiftPulse 5 (1000000, 0, 3000)) ∧
      (reports (create [{}, {}] 8)
          ([(1000000, 0, 3000), (1100000, 3, 100), (1400000, 0, 3000)].map (shiftPulse 5))).tail =
        (reports (create [{}, {}] 8)
          [(1000000, 0, 3000), (1100000, 3, 100), (1400000, 0, 3000)]).tail.map
          (Option.map (SweepTicks.shift 5)) := by
  have hr : (create [{}, {}] 8).Shaped := create_shaped (by decide) 8
  have hsync : (create [{}, {}] 8).sync.Shifted 5 { SyncTable.fresh 2 with recent := 5 } :=
    ⟨by decide, rfl, rfl, fun h => absurd h (by decide), rfl, rfl, rfl, rfl,
      ShiftedWhere.of_forall_not (by decide) _ _⟩
  have hwin : (create [{}, {}] 8).window.Shifted 5 (create [{}, {}] 8).window :=
    ⟨rfl, rfl, ShiftedWhere.of_forall_not (by decide) _ _⟩
  have hsh : Shifted 5 (create [{}, {}] 8)
      { create [{}, {}] 8 with sync := { SyncTable.fresh 2 with recent := 5 } } :=
    ⟨⟨hsync, hwin, rfl, rfl⟩, rfl, rfl, rfl, rfl, rfl⟩
  have h₁ : (create [{}, {}] 8).startsCycle (1000000, 0, 3000) := by
    unfold startsCycle; decide
  have h₂ : (create [{}, {}] 8).startsCycle (shiftPulse 5 (1000000, 0, 3000)) := by
    unfold startsCycle; decide
  exact ⟨hr, hsh, ((timecode_shift_invariance 5).1 _ _ hr hsh 1000000 0 3000).2.2.2.2, h₁, h₂,
    ((timecode_shift_invariance 5).2 _ _ hr hr rfl rfl _ h₁ h₂ _).2⟩

end Receiver

end Lighthouse
