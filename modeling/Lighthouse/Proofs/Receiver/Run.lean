import Lighthouse.Receiver
/-!
# A receiver taking a stream of pulses

`Receiver.run` takes pulses one after another and stops at the first failure. The only pulses
that can fail are sync pulses, when the flash table has fewer than two slots; `SyncTable.Wf`
says it has two, and every step keeps it. The sync tracker's view of the table, the time of the
last placed sync pulse and the current slot, moves by `Tracker.place` on every kept sync pulse
and on nothing else.
-/
namespace Lighthouse

/-- The part of the flash table that places sync pulses: the time of the last placed sync pulse
and the slot of the current flash. -/
structure Tracker where
  recent : Int := 0
  current : Nat := 0
  deriving DecidableEq, Repr

/-- Where a sync pulse at `timecode` leaves the tracker: a short gap joins the current flash, a
longer one opens the second lighthouse's flash, a gap over a cycle opens the first lighthouse's
flash, and a gap in between leaves the tracker as it was. -/
def Tracker.place (k : Tracker) (timecode : Int) : Tracker :=
  let gap := Ticks.timecodeDelta timecode k.recent
  if gap < sameCycleGap then { k with recent := timecode }
  else if gap < secondLighthouseGap then ⟨timecode, 1⟩
  else if gap > resetGap then ⟨timecode, 0⟩
  else k

/-- A sync pulse that the receiver keeps: a known sensor, a length in the sync window. -/
def keptSync (numSensors sensor length : Int) : Prop :=
  0 ≤ sensor ∧ sensor < numSensors ∧ syncThreshold < length ∧ length ≤ maxPulse

instance (numSensors sensor length : Int) : Decidable (keptSync numSensors sensor length) :=
  inferInstanceAs (Decidable (0 ≤ _ ∧ _ < _ ∧ _ < _ ∧ _ ≤ _))

namespace SyncTable

def tracker (s : SyncTable) : Tracker := ⟨s.recent, s.current⟩

/-- A flash table with room for both lighthouses' flashes, on one of them. -/
structure Wf (s : SyncTable) : Prop where
  current_le : s.current ≤ 1
  start_len : 2 ≤ s.start.length
  maxLength_len : 2 ≤ s.maxLength.length
  acode_len : 2 ≤ s.acode.length

end SyncTable

theorem setAt_of_lt {xs : List Int} {i : Nat} (h : i < xs.length) (v : Int) :
    setAt xs i v = pure (xs.set i v) := by
  rw [setAt, if_pos h]
  rfl

theorem getAt_of_lt {xs : List Int} {i : Nat} (h : i < xs.length) :
    getAt xs i = pure xs[i] := by
  rw [getAt, List.getElem?_eq_getElem h]
  rfl

def Channel.feed (ch : Channel) (bit : Bool) (timecode : Int) : Channel :=
  { ch with decoder := (ch.decoder.feed bit timecode).1 }

namespace Receiver

variable {r : Receiver} {timecode sensor length : Int}

/-- The receiver after taking `pulses` in order, or the first failure. -/
def run (r : Receiver) : List (Int × Int × Int) → Outcome Receiver
  | [] => .ok r
  | (timecode, sensor, length) :: ps =>
    let p := r.step timecode sensor length
    match p.failure with
    | some f => .error f
    | none => p.final.run ps

theorem run_cons_of_failure_eq_none (h : (r.step timecode sensor length).failure = none)
    (ps : List (Int × Int × Int)) :
    r.run ((timecode, sensor, length) :: ps) = (r.step timecode sensor length).final.run ps := by
  rw [run, h]

theorem run_append (r : Receiver) (xs ys : List (Int × Int × Int)) :
    r.run (xs ++ ys) = (r.run xs).bind (·.run ys) := by
  induction xs generalizing r with
  | nil => rfl
  | cons p xs ih =>
    obtain ⟨timecode, sensor, length⟩ := p
    simp only [List.cons_append, run]
    split
    · rfl
    · exact ih _

/-- A receiver whose flash table has room for both flashes and whose window keeps one entry per
sensor. -/
structure Wf (r : Receiver) : Prop where
  sync : r.sync.Wf
  lengths : r.window.lengths.length = r.numSensors.toNat
  times : r.window.times.length = r.numSensors.toNat

theorem create_wf {channels : List Channel} (h : 2 ≤ channels.length) (numSensors : Int) :
    (create channels numSensors).Wf :=
  ⟨⟨Nat.zero_le 1, by simpa [create, SyncTable.fresh], by simpa [create, SyncTable.fresh],
    by simpa [create, SyncTable.fresh]⟩, by simp [create], by simp [create]⟩

theorem classify_ok {s : SyncTable} (hs : s.Wf) (timecode length acode : Int) :
    ∃ s', classify s timecode length acode = .ok s' ∧ s'.Wf ∧
      s'.tracker = s.tracker.place timecode := by
  have hcur := hs.current_le
  have hstart := hs.start_len
  have hmax := hs.maxLength_len
  have hacode := hs.acode_len
  unfold classify
  simp only [Tracker.place, SyncTable.tracker]
  split
  · -- the current flash: its slot's entries are rewritten only by a longer pulse
    rw [getAt_of_lt (by omega), pure_bind]
    split
    · rw [setAt_of_lt (by omega), pure_bind, setAt_of_lt (by omega), pure_bind,
        setAt_of_lt (by omega), pure_bind]
      exact ⟨_, rfl, ⟨hcur, by simpa, by simpa, by simpa⟩, by simp [*]⟩
    · exact ⟨_, rfl, ⟨hcur, hstart, hmax, hacode⟩, by simp [*]⟩
  · split
    · rw [setAt_of_lt (by omega), pure_bind, setAt_of_lt (by omega), pure_bind,
        setAt_of_lt (by omega), pure_bind]
      exact ⟨_, rfl, ⟨Nat.le_refl 1, by simpa, by simpa, by simpa⟩, by simp [*]⟩
    · split
      · -- a new cycle starts from a fresh table as wide as the old one
        have hfresh : 0 < (SyncTable.fresh s.acode.length).start.length ∧
            0 < (SyncTable.fresh s.acode.length).maxLength.length ∧
            0 < (SyncTable.fresh s.acode.length).acode.length := by
          simp only [SyncTable.fresh, List.length_replicate]
          omega
        rw [setAt_of_lt hfresh.1, pure_bind, setAt_of_lt hfresh.2.1, pure_bind,
          setAt_of_lt hfresh.2.2, pure_bind]
        exact ⟨_, rfl, ⟨Nat.zero_le _, by simpa [SyncTable.fresh], by simpa [SyncTable.fresh], by simpa [SyncTable.fresh]⟩,
          by simp [*, SyncTable.fresh]⟩
      · exact ⟨_, rfl, hs, by simp [*]⟩

theorem selectActive_eq (s : SyncTable) :
    ∃ a st ac, selectActive s = { s with active := a, activeStart := st, activeAcode := ac } := by
  unfold selectActive
  dsimp only
  split <;> exact ⟨_, _, _, rfl⟩

theorem reportSweep_eq (r : Receiver) :
    ∃ hits e, r.reportSweep.1 = { r with window := { r.window with hits }, emitted := e } := by
  unfold reportSweep
  dsimp only
  split <;> exact ⟨_, _, rfl⟩

@[simp] theorem clearWindow_sync (r : Receiver) : r.clearWindow.sync = r.sync := rfl

@[simp] theorem clearWindow_channels (r : Receiver) : r.clearWindow.channels = r.channels := rfl

theorem onSync_eq (hr : r.sync.Wf) (timecode length : Int) :
    (r.onSync timecode length).failure = none ∧
      ∃ s' hits e a, s'.Wf ∧ s'.tracker = r.sync.tracker.place timecode ∧
        (r.onSync timecode length).final = { r with
          sync := s', emitted := e, acodeOffset := a,
          window := ⟨List.replicate r.window.lengths.length 0,
            List.replicate r.window.lengths.length 0, hits⟩,
          channels := r.channels.modify s'.current
            (·.feed (Acode.dataBit (decodeAcode length)) timecode) } := by
  obtain ⟨s', hcl, hwf, htr⟩ := classify_ok hr timecode length (decodeAcode length)
  unfold onSync
  dsimp only
  obtain ⟨hits, e, hrep⟩ :=
    reportSweep_eq { r with acodeOffset := smoothOffset r.acodeOffset length }
  generalize ({ r with acodeOffset := smoothOffset r.acodeOffset length } : Receiver).reportSweep
    = x at hrep
  obtain ⟨r2, rep⟩ := x
  dsimp only at hrep ⊢
  subst hrep
  rw [clearWindow_sync, hcl]
  dsimp only
  rw [clearWindow_channels]
  -- a slot past the channels takes no bit, which is what `modify` does there too
  rcases hch : r.channels[s'.current]? with _ | ch
  · refine ⟨rfl, s', ?_⟩
    rw [List.modify_eq_self (List.getElem?_eq_none_iff.mp hch)]
    exact ⟨hits, e, _, hwf, htr, rfl⟩
  · refine ⟨rfl, s', ?_⟩
    rw [List.modify_eq_set, hch]
    exact ⟨hits, e, _, hwf, htr, rfl⟩

theorem onSync_report (r : Receiver) (timecode length : Int) :
    (r.onSync timecode length).report.map Prod.snd = r.reportSweep.2 := by
  unfold onSync
  dsimp only
  have hrep : ({ r with acodeOffset := smoothOffset r.acodeOffset length }).reportSweep.2 =
      r.reportSweep.2 := by
    unfold reportSweep
    dsimp only
    split <;> simp_all
  split
  · simpa [Option.map_map, Function.comp_def] using hrep
  · split <;> simpa [Option.map_map, Function.comp_def] using hrep

theorem onSweep_eq (r : Receiver) (timecode : Int) (sensor : Nat) (length : Int) :
    r.onSweep timecode sensor length = { r with
      sync := selectActive r.sync,
      window := if (selectActive r.sync).active < 0 then r.window
        else r.window.record sensor timecode length } := by
  unfold onSweep
  dsimp only
  split <;> rfl

theorem syncThreshold_lt_maxPulse : syncThreshold < maxPulse := by decide

theorem step_of_dropped (h : sensor < 0 ∨ sensor ≥ r.numSensors ∨ length > maxPulse) :
    r.step timecode sensor length = { final := { r with dropped := r.dropped + 1 } } := by
  rw [step, if_pos h]

theorem step_of_sweep (h0 : 0 ≤ sensor) (hn : sensor < r.numSensors)
    (hl : length ≤ syncThreshold) :
    r.step timecode sensor length = { final := r.onSweep timecode sensor.toNat length } := by
  have := syncThreshold_lt_maxPulse
  rw [step, if_neg (by omega), if_neg (by omega)]

theorem step_of_keptSync (h : keptSync r.numSensors sensor length) :
    r.step timecode sensor length = r.onSync timecode length := by
  obtain ⟨h0, hn, hs, hm⟩ := h
  rw [step, if_neg (by omega), if_pos hs]

theorem sweep_of_not_keptSync {numSensors : Int}
    (hd : ¬(sensor < 0 ∨ sensor ≥ numSensors ∨ length > maxPulse))
    (hk : ¬keptSync numSensors sensor length) :
    0 ≤ sensor ∧ sensor < numSensors ∧ length ≤ syncThreshold :=
  ⟨by omega, by omega, Int.not_lt.mp fun hl => hk ⟨by omega, by omega, hl, by omega⟩⟩

theorem step_of_not_keptSync (timecode : Int) (h : ¬keptSync r.numSensors sensor length) :
    (r.step timecode sensor length).failure = none ∧
      ∃ a st ac w d, (r.step timecode sensor length).final = { r with
        sync := { r.sync with active := a, activeStart := st, activeAcode := ac },
        window := w, dropped := d } := by
  by_cases hd : sensor < 0 ∨ sensor ≥ r.numSensors ∨ length > maxPulse
  · rw [step_of_dropped hd]
    exact ⟨rfl, _, _, _, _, _, rfl⟩
  · obtain ⟨h0, hn, hl⟩ := sweep_of_not_keptSync hd h
    obtain ⟨a, st, ac, hsel⟩ := selectActive_eq r.sync
    rw [step_of_sweep h0 hn hl, onSweep_eq, hsel]
    exact ⟨rfl, _, _, _, _, _, rfl⟩

theorem step_report_of_not_keptSync (h : ¬keptSync r.numSensors sensor length) :
    (r.step timecode sensor length).report = none := by
  by_cases hd : sensor < 0 ∨ sensor ≥ r.numSensors ∨ length > maxPulse
  · rw [step_of_dropped hd]
  · obtain ⟨h0, hn, hl⟩ := sweep_of_not_keptSync hd h
    rw [step_of_sweep h0 hn hl]

theorem SweepWindow.record_lengths (w : SweepWindow) (sensor : Nat) (timecode length : Int) :
    (w.record sensor timecode length).lengths.length = w.lengths.length ∧
      (w.record sensor timecode length).times.length = w.times.length := by
  unfold SweepWindow.record
  split <;> simp

theorem step_wf (hr : r.Wf) (timecode sensor length : Int) :
    (r.step timecode sensor length).failure = none ∧ (r.step timecode sensor length).final.Wf ∧
      (r.step timecode sensor length).final.numSensors = r.numSensors := by
  by_cases hd : sensor < 0 ∨ sensor ≥ r.numSensors ∨ length > maxPulse
  · rw [step_of_dropped hd]
    exact ⟨rfl, ⟨hr.sync, hr.lengths, hr.times⟩, rfl⟩
  by_cases hk : keptSync r.numSensors sensor length
  · obtain ⟨hfail, s', hits, e, a, hwf, -, hfin⟩ := onSync_eq hr.sync timecode length
    rw [step_of_keptSync hk, hfin]
    exact ⟨hfail, ⟨hwf, by simpa using hr.lengths, by simpa using hr.lengths⟩, rfl⟩
  · obtain ⟨h0, hn, hl⟩ := sweep_of_not_keptSync hd hk
    rw [step_of_sweep h0 hn hl, onSweep_eq]
    obtain ⟨a, st, ac, hsel⟩ := selectActive_eq r.sync
    have hw := SweepWindow.record_lengths r.window sensor.toNat timecode length
    refine ⟨rfl, ⟨by rw [hsel]; exact ⟨hr.sync.1, hr.sync.2, hr.sync.3, hr.sync.4⟩, ?_, ?_⟩, rfl⟩
    · split
      · exact hr.lengths
      · exact hw.1.trans hr.lengths
    · split
      · exact hr.times
      · exact hw.2.trans hr.times

theorem run_wf (hr : r.Wf) (ps : List (Int × Int × Int)) :
    ∃ r', r.run ps = .ok r' ∧ r'.Wf ∧ r'.numSensors = r.numSensors := by
  induction ps generalizing r with
  | nil => exact ⟨r, rfl, hr, rfl⟩
  | cons p ps ih =>
    obtain ⟨timecode, sensor, length⟩ := p
    obtain ⟨hfail, hwf, hn⟩ := step_wf hr timecode sensor length
    obtain ⟨r', hrun, hwf', hn'⟩ := ih hwf
    exact ⟨r', by rw [run_cons_of_failure_eq_none hfail, hrun], hwf', hn'.trans hn⟩

end Receiver

end Lighthouse
