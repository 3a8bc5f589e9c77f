import Lighthouse.Proofs.Receiver.Shift
/-!
# A receiver never fails

A receiver over `n` slots keeps its flash table in shape (`SyncTable.Sound`): on the first or
second slot, every per-slot list `n` long, the sweeping slot `-1` or one of the `n` slots, and
every acode unset or one a sync pulse can carry. Its window keeps lengths a sweep pulse can
have, and while it holds any, the sweeping slot is the one the acodes name (`Receiver.Sound`).

The only pulse that can fail is a sync pulse that opens the second lighthouse's flash, and only
when there is no second slot. So a receiver over two slots or more takes every stream
(`run_sound`), and one over a single slot takes a stream up to its first such pulse, which fails
with an index fault (`single_slot_run`, `step_second_single`).
-/
namespace Lighthouse

/-- Whether a sync pulse at `timecode` opens the second lighthouse's flash: its gap from the
last placed sync pulse is at least `sameCycleGap` and below `secondLighthouseGap`. -/
def Tracker.OpensSecond (k : Tracker) (timecode : Int) : Prop :=
  sameCycleGap ≤ Ticks.timecodeDelta timecode k.recent ∧
    Ticks.timecodeDelta timecode k.recent < secondLighthouseGap

instance (k : Tracker) (timecode : Int) : Decidable (k.OpensSecond timecode) :=
  inferInstanceAs (Decidable (_ ∧ _))

/-- The tracker once the kept sync pulses of `ps` are placed. -/
def Tracker.follow (numSensors : Int) (k : Tracker) : List (Int × Int × Int) → Tracker
  | [] => k
  | (t, s, l) :: ps => follow numSensors (if keptSync numSensors s l then k.place t else k) ps

/-- The fault of writing the second slot of a table that has one. -/
def secondSlotFault : Fault := Fault.index "list assignment index out of range"

theorem decodeAcode_mem {length : Int} (h : syncThreshold < length) (h' : length ≤ maxPulse) :
    0 ≤ decodeAcode length ∧ decodeAcode length ≤ 8 := by
  unfold decodeAcode acodeStep
  unfold syncThreshold maxPulse at *
  omega

namespace SyncTable

/-- A flash table over `n` slots as every pulse leaves it. -/
structure Sound (n : Nat) (s : SyncTable) : Prop where
  current_le : s.current ≤ 1
  current_lt : s.current < n
  start_len : s.start.length = n
  maxLength_len : s.maxLength.length = n
  acode_len : s.acode.length = n
  active_ge : -1 ≤ s.active
  active_lt : s.active < n
  acode_mem : ∀ a ∈ s.acode, a = -1 ∨ 0 ≤ a ∧ a ≤ 8

theorem fresh_sound {n : Nat} (hn : 0 < n) : (fresh n).Sound n where
  current_le := Nat.zero_le 1
  current_lt := hn
  start_len := List.length_replicate
  maxLength_len := List.length_replicate
  acode_len := List.length_replicate
  active_ge := Int.le_refl _
  active_lt := by show (-1 : Int) < n; omega
  acode_mem a ha := .inl (List.eq_of_mem_replicate ha)

end SyncTable

theorem mem_set_acode {acode : List Int} (h : ∀ a ∈ acode, a = -1 ∨ 0 ≤ a ∧ a ≤ 8)
    {a : Int} (ha : 0 ≤ a ∧ a ≤ 8) (i : Nat) : ∀ b ∈ acode.set i a, b = -1 ∨ 0 ≤ b ∧ b ≤ 8 := by
  intro b hb
  rcases List.mem_or_eq_of_mem_set hb with hb | rfl
  · exact h b hb
  · exact .inr ha

namespace Receiver

section Classify

variable {n : Nat} {s : SyncTable} {t l a : Int}

theorem classify_sound (hs : s.Sound n) (ha : 0 ≤ a ∧ a ≤ 8)
    (hn : 2 ≤ n ∨ ¬s.tracker.OpensSecond t) :
    ∃ s', classify s t l a = .ok s' ∧ s'.Sound n ∧ s'.tracker = s.tracker.place t := by
  obtain ⟨hle, hlt, hstart, hmax, hacode, hge, hact, hmem⟩ := hs
  simp only [SyncTable.tracker, Tracker.OpensSecond] at hn
  unfold classify
  simp only [Tracker.place, SyncTable.tracker]
  split
  · -- the current flash
    rw [getAt_of_lt (by omega), pure_bind]
    split
    · rw [setAt_of_lt (by omega), pure_bind, setAt_of_lt (by omega), pure_bind,
        setAt_of_lt (by omega), pure_bind]
      exact ⟨_, rfl, ⟨hle, hlt, by simpa, by simpa, by simpa, hge, hact, mem_set_acode hmem ha _⟩,
        by simp [*]⟩
    · exact ⟨_, rfl, ⟨hle, hlt, hstart, hmax, hacode, hge, hact, hmem⟩, by simp [*]⟩
  · split
    · -- the second flash needs a second slot
      have h2 : 2 ≤ n := hn.resolve_right (fun h => h ⟨by omega, ‹_›⟩)
      rw [setAt_of_lt (by omega), pure_bind, setAt_of_lt (by omega), pure_bind,
        setAt_of_lt (by omega), pure_bind]
      exact ⟨_, rfl, ⟨Nat.le_refl 1, by dsimp only; omega, by simpa, by simpa, by simpa,
        Int.le_refl _, by dsimp only; omega, mem_set_acode hmem ha _⟩, by simp [*]⟩
    · split
      · -- a new cycle starts from a fresh table as wide as the old one
        have hf := SyncTable.fresh_sound (n := s.acode.length) (by omega)
        rw [setAt_of_lt (by rw [hf.start_len]; omega), pure_bind,
          setAt_of_lt (by rw [hf.maxLength_len]; omega), pure_bind,
          setAt_of_lt (by rw [hf.acode_len]; omega), pure_bind]
        have hfc : (SyncTable.fresh s.acode.length).current = 0 := rfl
        refine ⟨_, rfl, ⟨Nat.zero_le 1, by dsimp only; omega, by simp [SyncTable.fresh, hacode],
          by simp [SyncTable.fresh, hacode], by simp [SyncTable.fresh, hacode], hf.active_ge,
          by dsimp only; rw [← hacode]; exact hf.active_lt, mem_set_acode hf.acode_mem ha _⟩, ?_⟩
        simp [*, SyncTable.fresh]
      · exact ⟨_, rfl, ⟨hle, hlt, hstart, hmax, hacode, hge, hact, hmem⟩, by simp [*]⟩

theorem classify_second (hs : s.Sound 1) (h : s.tracker.OpensSecond t) :
    classify s t l a = .error secondSlotFault := by
  obtain ⟨-, -, hstart, -, -, -, -, -⟩ := hs
  obtain ⟨h₁, h₂⟩ := h
  unfold classify
  simp only [SyncTable.tracker] at h₁ h₂
  rw [if_neg (by omega), if_pos h₂]
  dsimp only
  rw [setAt, if_neg (by simp [hstart])]
  rfl

end Classify

/-- What every pulse keeps of a receiver over `n` slots: the flash table in shape, every kept
sweep length one a sweep pulse can have, and while the window holds a pulse, the sweeping slot
is the slot the acodes name, with that slot's start time. -/
structure Sound (n : Nat) (r : Receiver) : Prop where
  sync : r.sync.Sound n
  lengths_mem : ∀ len ∈ r.window.lengths, 0 ≤ len ∧ len ≤ syncThreshold
  sweeping : (∃ len ∈ r.window.lengths, len ≠ 0) →
    0 ≤ r.sync.active ∧ sweepingSlot r.sync.acode = some r.sync.active.toNat ∧
      r.sync.start[r.sync.active.toNat]? = some r.sync.activeStart

theorem create_sound (channels : List Channel) (numSensors : Int) (hn : 0 < channels.length) :
    (create channels numSensors).Sound channels.length where
  sync := SyncTable.fresh_sound hn
  lengths_mem len h := by
    simp only [create, List.mem_replicate] at h
    rw [h.2]
    decide
  sweeping := by
    rintro ⟨len, h, hne⟩
    simp only [create, List.mem_replicate] at h
    exact absurd h.2 hne

theorem sweepingSlot_lt {acode : List Int} {i : Nat} (h : sweepingSlot acode = some i) :
    i < acode.length := by
  unfold sweepingSlot at h
  obtain ⟨p, hp, rfl⟩ := Option.map_eq_some_iff.mp h
  have hmem := (List.mem_filter.mp (List.mem_of_getLast? hp)).1
  exact (List.mem_zipIdx_iff_getElem?.mp hmem |> List.getElem?_eq_some_iff.mp).1

theorem selectActive_sound {n : Nat} {s : SyncTable} (hs : s.Sound n) :
    (selectActive s).Sound n ∧ (selectActive s).acode = s.acode ∧
      ((selectActive s).active = -1 ∧ sweepingSlot s.acode = none ∨
        0 ≤ (selectActive s).active ∧
          sweepingSlot s.acode = some (selectActive s).active.toNat ∧
          (selectActive s).start[(selectActive s).active.toNat]? =
            some (selectActive s).activeStart) := by
  obtain ⟨hle, hlt, hstart, hmax, hacode, hge, hact, hmem⟩ := hs
  rw [selectActive_eq_sweepingSlot]
  split
  · next i h =>
    have hi := sweepingSlot_lt h
    have hs : s.start[i]? = some (s.start.getD i 0) := by
      rw [List.getD_eq_getElem?_getD, List.getElem?_eq_getElem (by omega)]
      rfl
    exact ⟨⟨hle, hlt, hstart, hmax, hacode, by dsimp only; omega, by dsimp only; omega, hmem⟩,
      rfl, .inr ⟨by dsimp only; omega, by simpa using h, by simpa using hs⟩⟩
  · next h =>
    exact ⟨⟨hle, hlt, hstart, hmax, hacode, Int.le_refl _, by dsimp only; omega, hmem⟩, rfl,
      .inl ⟨rfl, h⟩⟩

theorem record_lengths_mem {w : SweepWindow} (hw : ∀ len ∈ w.lengths, 0 ≤ len ∧ len ≤ syncThreshold)
    {length : Int} (hl : length ≤ syncThreshold) (sensor : Nat) (timecode : Int) :
    ∀ len ∈ (w.record sensor timecode length).lengths, 0 ≤ len ∧ len ≤ syncThreshold := by
  unfold SweepWindow.record
  split
  · -- only a pulse longer than the kept one, which is at least zero, is written
    intro len hlen
    rcases List.mem_or_eq_of_mem_set hlen with hlen | rfl
    · exact hw len hlen
    · have h0 : 0 ≤ w.lengths.getD sensor 0 := by
        rw [List.getD_eq_getElem?_getD]
        rcases hget : w.lengths[sensor]? with _ | v
        · exact Int.le_refl 0
        · exact (hw v (List.mem_of_getElem? hget)).1
      exact ⟨by omega, hl⟩
  · exact hw

variable {n : Nat} {r : Receiver} {timecode sensor length : Int}

theorem onSync_sound (hr : r.Sound n) (hl : syncThreshold < length) (hl' : length ≤ maxPulse)
    (hn : 2 ≤ n ∨ ¬r.sync.tracker.OpensSecond timecode) :
    (r.onSync timecode length).failure = none ∧ (r.onSync timecode length).final.Sound n ∧
      (r.onSync timecode length).final.sync.tracker = r.sync.tracker.place timecode ∧
      (r.onSync timecode length).final.numSensors = r.numSensors := by
  obtain ⟨s', hcl, hs', htr⟩ := classify_sound hr.sync (decodeAcode_mem hl hl') hn (l := length)
  obtain ⟨hfail, hfin⟩ := onSync_of_classify hcl
  obtain ⟨hits, e, hrep⟩ := reportSweep_eq r
  rw [hfin]
  have hzero : ∀ len ∈ ({ r.reportSweep.1.clearWindow with sync := s' } : Receiver).window.lengths,
      len = 0 := by
    intro len hlen
    simp only [clearWindow, List.mem_replicate] at hlen
    exact hlen.2
  refine ⟨hfail, ⟨hs', fun len hlen => ?_, fun hany => ?_⟩, htr, ?_⟩
  · rw [hzero len hlen]
    decide
  · obtain ⟨len, hlen, hne⟩ := hany
    exact absurd (hzero len hlen) hne
  · simp [clearWindow, hrep]

theorem onSweep_sound (hr : r.Sound n) (hl : length ≤ syncThreshold) (sensor : Nat) :
    (r.onSweep timecode sensor length).Sound n ∧
      (r.onSweep timecode sensor length).sync.tracker = r.sync.tracker := by
  obtain ⟨hsel, hacode, hnamed⟩ := selectActive_sound hr.sync
  obtain ⟨a, st, ac, hsel_eq⟩ := selectActive_eq r.sync
  rw [onSweep_eq]
  refine ⟨⟨hsel, ?_, ?_⟩, by rw [hsel_eq]; rfl⟩
  · split
    · exact hr.lengths_mem
    · exact record_lengths_mem hr.lengths_mem hl sensor timecode
  · intro hany
    dsimp only
    rw [hacode]
    rcases hnamed with ⟨hneg, hnone⟩ | hnamed
    · -- no slot sweeps now, so none swept when the window was filled: it is still empty
      rw [if_pos (by omega)] at hany
      rw [(hr.sweeping hany).2.1] at hnone
      cases hnone
    · exact hnamed

theorem step_sound (hr : r.Sound n)
    (hn : 2 ≤ n ∨ ¬(keptSync r.numSensors sensor length ∧ r.sync.tracker.OpensSecond timecode)) :
    (r.step timecode sensor length).failure = none ∧ (r.step timecode sensor length).final.Sound n ∧
      (r.step timecode sensor length).final.sync.tracker =
        (if keptSync r.numSensors sensor length then r.sync.tracker.place timecode
          else r.sync.tracker) ∧
      (r.step timecode sensor length).final.numSensors = r.numSensors := by
  by_cases hd : sensor < 0 ∨ sensor ≥ r.numSensors ∨ length > maxPulse
  · have hk : ¬keptSync r.numSensors sensor length := by
      unfold keptSync
      omega
    rw [step_of_dropped hd, if_neg hk]
    exact ⟨rfl, ⟨hr.sync, hr.lengths_mem, hr.sweeping⟩, rfl, rfl⟩
  by_cases hk : keptSync r.numSensors sensor length
  · rw [step_of_keptSync hk, if_pos hk]
    exact onSync_sound hr hk.2.2.1 hk.2.2.2 (hn.imp_right fun h h' => h ⟨hk, h'⟩)
  · obtain ⟨h0, hs, hl⟩ := sweep_of_not_keptSync hd hk
    rw [step_of_sweep h0 hs hl, if_neg hk]
    obtain ⟨hsound, htr⟩ := @onSweep_sound n r timecode length hr hl sensor.toNat
    exact ⟨rfl, hsound, htr, by rw [onSweep_eq]⟩

/-- On a one-slot receiver, a kept sync pulse that opens the second flash fails with the index
fault of writing the second slot, after the flash table has taken the pulse's time, the second
slot as current and no sweeping slot. -/
theorem step_second_single (hr : r.Sound 1) (hk : keptSync r.numSensors sensor length)
    (ho : r.sync.tracker.OpensSecond timecode) :
    (r.step timecode sensor length).failure = some secondSlotFault ∧
      (r.step timecode sensor length).final.sync =
        { r.sync with active := -1, recent := timecode, current := 1 } := by
  rw [step_of_keptSync hk]
  unfold onSync
  dsimp only
  rw [reportSweep_acodeOffset]
  dsimp only
  rw [clearWindow_sync, reportSweep_sync, classify_second hr.sync ho]
  refine ⟨rfl, ?_⟩
  obtain ⟨h₁, h₂⟩ := ho
  simp only [SyncTable.tracker] at h₁ h₂
  dsimp only
  unfold classifyPrefix
  rw [if_neg (by omega), if_pos h₂]

/-- A receiver over two slots or more takes every stream of pulses without failing and stays in
shape. -/
theorem run_sound (hr : r.Sound n) (h2 : 2 ≤ n) (ps : List (Int × Int × Int)) :
    ∃ r', r.run ps = .ok r' ∧ r'.Sound n := by
  induction ps generalizing r with
  | nil => exact ⟨r, rfl, hr⟩
  | cons p ps ih =>
    obtain ⟨timecode, sensor, length⟩ := p
    obtain ⟨hfail, hsound, -⟩ := @step_sound n r timecode sensor length hr (.inl h2)
    obtain ⟨r', hrun, hr'⟩ := ih hsound
    exact ⟨r', by rw [run_cons_of_failure_eq_none hfail, hrun], hr'⟩

/-- A one-slot receiver takes a stream in which no kept sync pulse opens the second flash, stays
in shape, and ends with its tracker where the kept sync pulses place it. -/
theorem single_slot_run (hr : r.Sound 1) (ps : List (Int × Int × Int))
    (hps : ∀ pre q post, ps = pre ++ q :: post → ¬(keptSync r.numSensors q.2.1 q.2.2 ∧
      (Tracker.follow r.numSensors r.sync.tracker pre).OpensSecond q.1)) :
    ∃ r', r.run ps = .ok r' ∧ r'.Sound 1 ∧ r'.numSensors = r.numSensors ∧
      r'.sync.tracker = Tracker.follow r.numSensors r.sync.tracker ps := by
  induction ps generalizing r with
  | nil => exact ⟨r, rfl, hr, rfl, rfl⟩
  | cons p ps ih =>
    obtain ⟨timecode, sensor, length⟩ := p
    obtain ⟨hfail, hsound, htr, hns⟩ := step_sound hr (.inr (hps [] _ ps rfl))
    -- the rest of the stream starts from the tracker the first pulse leaves
    obtain ⟨r', hrun, hr', hns', htr'⟩ := ih hsound (fun pre q post h => by
      rw [hns, htr]
      exact hps ((timecode, sensor, length) :: pre) q post (by rw [h]; rfl))
    refine ⟨r', by rw [run_cons_of_failure_eq_none hfail, hrun], hr', hns'.trans hns, ?_⟩
    rw [htr', hns, htr, Tracker.follow]

end Receiver

/-- A receiver never fails. Over two channels or more, it takes every stream of pulses, and
after every pulse its flash table is on the first or second slot, its sweeping slot is `-1` or
one of the slots, every acode is unset or in `[0, 8]`, every per-slot list keeps one entry per
channel, every kept sweep length is in `[0, syncThreshold]`, and while some kept length is not
zero the sweeping slot is the last slot whose acode is set and does not skip, with that slot's
start time. Over one channel, it takes a stream up to its first kept sync pulse that opens the
second lighthouse's flash, and that pulse fails with an index fault. -/
theorem receiver_never_fails (numSensors : Int) :
    (∀ (channels : List Channel) (ps : List (Int × Int × Int)), 2 ≤ channels.length →
      ∃ r, (Receiver.create channels numSensors).run ps = .ok r ∧
        r.Sound channels.length) ∧
    ∀ (ch : Channel) (ps : List (Int × Int × Int)) (p : Int × Int × Int),
      (∀ pre q post, ps = pre ++ q :: post → ¬(keptSync numSensors q.2.1 q.2.2 ∧
        (Tracker.follow numSensors {} pre).OpensSecond q.1)) →
      ∃ r, (Receiver.create [ch] numSensors).run ps = .ok r ∧ r.Sound 1 ∧
        (keptSync numSensors p.2.1 p.2.2 → (Tracker.follow numSensors {} ps).OpensSecond p.1 →
          (r.step p.1 p.2.1 p.2.2).failure = some secondSlotFault) := by
  refine ⟨fun channels ps h2 =>
    Receiver.run_sound (Receiver.create_sound channels numSensors (by omega)) h2 ps,
    fun ch ps p hps => ?_⟩
  obtain ⟨r, hrun, hr, hns, htr⟩ :=
    Receiver.single_slot_run (Receiver.create_sound [ch] numSensors (by simp)) ps hps
  refine ⟨r, hrun, hr, fun hk ho => ?_⟩
  have hns' : r.numSensors = numSensors := hns
  have htr' : r.sync.tracker = Tracker.follow numSensors {} ps := htr
  rw [← hns'] at hk
  rw [← htr'] at ho
  exact (Receiver.step_second_single hr hk ho).1

end Lighthouse
