import Lighthouse.Proofs.Sim.Schedule
import Lighthouse.Proofs.Receiver.Shift
import Mathlib
/-!
# A receiver reading a simulated tracker

The simulator and the receiver encode the same schedule twice: the simulator places flashes
`19200` ticks apart in a cycle of `400000`, starts the first slot's sweep at the end of its
flash and the second's at its flash, and lengthens each flash by its sync code; the receiver
groups sync pulses by their gaps (`2400`, `24000`, `370000`), reads the code back from the
longest pulse and measures each hit from the sweeping slot's start.

Fed the pulses of a run, a receiver over two channels takes each lighthouse's data bit of every
cycle on that lighthouse's channel and no other bit, and reports at the first flash of each
cycle the sweep of the cycle before, exactly as the simulator placed it (`expectedSweep`), and
nothing at any other pulse (`receiver_reads_simulated_schedule`).
-/
namespace Lighthouse

namespace SyncTable

/-- The table the first flash of a cycle leaves, at `t` and of length `l` with acode `a`: that
flash in the first slot, the second slot unset. -/
def opened (t l a : Int) : SyncTable :=
  { SyncTable.fresh 2 with
    recent := t, start := [Ticks.wrap (t + l), 0], maxLength := [l, 0], acode := [a, -1] }

/-- The table once the second lighthouse's flash, at `t` and of length `l` with acode `a`, has
joined `s`. -/
def withSecond (s : SyncTable) (t l a : Int) : SyncTable :=
  { s with
    active := -1, recent := t, current := 1, start := s.start.set 1 t,
    maxLength := s.maxLength.set 1 (l + l), acode := s.acode.set 1 a }

/-- A table that takes a sync pulse at `t` as the first flash of a new cycle: more than a
cycle's gap after its last sync pulse, or still new with `t` too close to its zero to tell. -/
def Opens (s : SyncTable) (t : Int) : Prop :=
  resetGap < Ticks.timecodeDelta t s.recent ∨
    s = SyncTable.fresh 2 ∧ Ticks.timecodeDelta t s.recent < sameCycleGap

end SyncTable

namespace Ticks

theorem wrap_wrap_add (a d : Int) : wrap (wrap a + d) = wrap (a + d) :=
  Int.emod_add_emod a _ d

theorem timecodeDelta_wrap_of_lt {x y : Int} (h₀ : 0 ≤ x - y) (h₁ : x - y < modulus) :
    timecodeDelta (wrap x) (wrap y) = x - y := by
  unfold timecodeDelta wrap
  rw [← Int.sub_emod, Int.emod_eq_of_lt h₀ h₁]

theorem timecodeDelta_wrap_add_sub {a b t d : Int} (h₀ : d ≤ t) (h₁ : t - d < modulus) :
    timecodeDelta (wrap (a + (b + t - d))) (wrap (a + b)) + d = t := by
  rw [timecodeDelta_wrap_of_lt] <;> omega

end Ticks

namespace SimTracker

variable (st : SimTracker) (view : View)

/-- The timecode of slot `slot`'s flash in cycle `c`. -/
def flashTime (c slot : Nat) : Int :=
  Ticks.wrap (st.startTimecode + (c * cycleTicks + slot * slotSpacing))

/-- The flash table a receiver holds once it has taken the flashes of cycle `c`: the first
slot's flash opens it and the second slot's, when there is one, joins it. -/
def flashTable (c : Nat) : SyncTable :=
  let first := SyncTable.opened (st.flashTime c 0) (syncLength (st.codeAt c 0)) (st.codeAt c 0)
  if st.lighthouses.length = 2 then
    first.withSecond (st.flashTime c 1) (syncLength (st.codeAt c 1)) (st.codeAt c 1)
  else first

/-- The sweep a receiver over `channels` reading `n` sensors should report for cycle `c`: the
sweeping slot, named by the lighthouse its channel has identified, the cycle's axis, and each
sensor below `n` that the sweep reaches, in increasing order, with the time of its hit and the
tick, after the start of the sweep, at which the simulator placed the hit's centre. -/
def expectedSweep (channels : List Channel) (n c : Nat) : Option SweepTicks :=
  let slot := st.sweeperAt c
  let sensors := (List.range n).filter fun k =>
    (st.sensors[k]?).any fun s => reaches (st.angleAt view c s)
  let tick := fun k => ((st.sensors[k]?).map (st.tickAt view c)).getD 0
  if sensors = [] then none
  else ((channels[slot]?).bind Channel.lighthouse).map fun cal =>
    { lighthouse := cal, slot, axis := ((c % 2 : Nat) : Int)
      syncTime := Ticks.wrap (st.startTimecode + st.sweepStartAt c), sensors
      sweepTimes := sensors.map fun k =>
        Ticks.wrap (st.startTimecode + (st.sweepStartAt c + tick k - st.sweepLength / 2))
      angles := sensors.map tick
      lengths := sensors.map fun _ => st.sweepLength }

/-- What a receiver over `channels` reading `n` sensors should report at each pulse of
`blocks`, the readings of cycles `c`, `c + 1`, … one block each: `first` at the first pulse,
at the first flash of each later cycle the sweep of the cycle before, nothing elsewhere. -/
def expectedReports (channels : List Channel) (n : Nat) :
    Option SweepTicks → Nat → List (List (Int × Int × Int)) → List (Option SweepTicks)
  | _, _, [] => []
  | first, c, b :: bs => (first :: b.tail.map fun _ => none) ++
      expectedReports channels n (st.expectedSweep view channels n c) (c + 1) bs

/-- The readings `b` of cycle `c`: its flashes in slot order, then its hits in some order, each
sensor the sweep reaches hit between `66666` and `333334` ticks into the sweep. -/
structure CycleReadings (c : Nat) (b : List (Int × Int × Int)) : Prop where
  ticks : ∀ p ∈ st.sensors.zipIdx, reaches (st.angleAt view c p.1) →
    66666 ≤ st.tickAt view c p.1 ∧ st.tickAt view c p.1 ≤ 333334
  hits : ∃ H, H.Perm (st.hitReadings view c) ∧ b = st.flashReadings c ++ H

variable {st}

theorem cycleReadings_cons {view : View} {c : Nat} {b : List (Int × Int × Int)}
    {bs : List (List (Int × Int × Int))}
    (h : ∀ i (hi : i < (b :: bs).length), st.CycleReadings view (c + i) (b :: bs)[i]) :
    st.CycleReadings view c b ∧
      ∀ i (hi : i < bs.length), st.CycleReadings view (c + 1 + i) bs[i] := by
  refine ⟨h 0 (by simp), fun i hi => ?_⟩
  have := h (i + 1) (by simp; omega)
  rwa [show c + (i + 1) = c + 1 + i by omega] at this

theorem filterMap_expectedReports {view : View} (channels : List Channel) (n : Nat)
    (first : Option SweepTicks) (c : Nat) (b : List (Int × Int × Int))
    (bs : List (List (Int × Int × Int))) :
    (st.expectedReports view channels n first c (b :: bs)).filterMap id =
      first.toList ++
        (List.range bs.length).filterMap fun i => st.expectedSweep view channels n (c + i) := by
  -- a cycle's block reports `first` at its first pulse and nothing after
  have head : ∀ (first : Option SweepTicks) (b : List (Int × Int × Int)),
      (first :: b.tail.map fun _ => none).filterMap id = first.toList := by
    intro first b
    cases first <;> simp
  induction bs generalizing first c b with
  | nil =>
    rw [expectedReports, expectedReports, List.append_nil, head, List.length_nil, List.range_zero,
      List.filterMap_nil, List.append_nil]
  | cons b' bs ih =>
    rw [expectedReports, List.filterMap_append, head, ih, List.length_cons,
      List.range_succ_eq_map]
    simp only [List.filterMap_cons, List.filterMap_map, Function.comp_def, Nat.add_zero,
      Nat.succ_eq_add_one, ← Nat.add_assoc, Nat.add_right_comm c _ 1]
    cases st.expectedSweep view channels n c <;> rfl

theorem flashReadings_eq_flashTime (c : Nat) :
    st.flashReadings c = (List.range st.lighthouses.length).map fun slot =>
      (st.flashTime c slot, 0, syncLength (st.codeAt c slot)) := rfl

theorem keptSync_flash {ns : Int} (hns : 0 < ns) (c slot : Nat) :
    keptSync ns 0 (syncLength (st.codeAt c slot)) := by
  have := st.syncLength_codeAt c slot
  exact ⟨le_refl 0, hns, this.1, this.2.1⟩

/-! ### The gaps between flashes -/

theorem timecodeDelta_second_flash (c : Nat) :
    Ticks.timecodeDelta (st.flashTime c 1) (st.flashTime c 0) = slotSpacing := by
  have h : st.startTimecode + (c * cycleTicks + ((1 : Nat) : Int) * slotSpacing) -
      (st.startTimecode + (c * cycleTicks + ((0 : Nat) : Int) * slotSpacing)) = slotSpacing := by
    push_cast
    ring
  unfold flashTime
  rw [Ticks.timecodeDelta_wrap_of_lt] <;> rw [h] <;> decide

theorem timecodeDelta_first_flash (c : Nat) :
    Ticks.timecodeDelta (st.flashTime c 0) 0 = Ticks.wrap (st.startTimecode + c * cycleTicks) := by
  unfold flashTime Ticks.timecodeDelta Ticks.wrap
  simp

theorem place_second_flash (c : Nat) :
    (⟨st.flashTime c 0, 0⟩ : Tracker).place (st.flashTime c 1) = ⟨st.flashTime c 1, 1⟩ := by
  unfold Tracker.place
  simp only [timecodeDelta_second_flash]
  rw [if_neg (by decide), if_pos (by decide)]

section Flashes

variable (hn : 0 < st.lighthouses.length ∧ st.lighthouses.length ≤ 2)
include hn

theorem resetGap_lt_next_flash (c : Nat) :
    resetGap < Ticks.timecodeDelta (st.flashTime (c + 1) 0)
      (st.flashTime c (st.lighthouses.length - 1)) := by
  -- the gap is a cycle less the slots before the last: 400000 or 380800 ticks
  have h : ∀ m : Nat, st.startTimecode + (((c + 1 : Nat) : Int) * cycleTicks +
      ((0 : Nat) : Int) * slotSpacing) - (st.startTimecode + (c * cycleTicks + m * slotSpacing)) =
        cycleTicks - m * slotSpacing := by
    intro m
    push_cast
    ring
  have hg : 0 ≤ cycleTicks - ((st.lighthouses.length - 1 : Nat) : Int) * slotSpacing ∧
      cycleTicks - ((st.lighthouses.length - 1 : Nat) : Int) * slotSpacing < 4294967296 ∧
      resetGap < cycleTicks - ((st.lighthouses.length - 1 : Nat) : Int) * slotSpacing := by
    unfold cycleTicks slotSpacing resetGap
    omega
  unfold flashTime
  rw [Ticks.timecodeDelta_wrap_of_lt] <;> rw [h]
  · exact hg.2.2
  · exact hg.1
  · exact hg.2.1

/-! ### The table after a cycle's flashes -/

theorem sweeperAt_cases (c : Nat) :
    st.sweeperAt c = 0 ∨ st.lighthouses.length = 2 ∧ st.sweeperAt c = 1 := by
  have := Nat.mod_lt (c / 2) hn.1
  unfold sweeperAt at this ⊢
  omega

theorem sweepingSlot_flashTable (c : Nat) :
    sweepingSlot (st.flashTable c).acode = some (st.sweeperAt c) := by
  have h₀ := (st.codeAt_bounds c 0).1
  have h₁ := (st.codeAt_bounds c 1).1
  unfold flashTable
  rcases sweeperAt_cases hn c with hs | ⟨h2, hs⟩
  · split <;>
      simp [SyncTable.opened, SyncTable.withSecond, sweepingSlot, skips_codeAt, hs, h₀, h₁]
  · simp [h2, SyncTable.opened, SyncTable.withSecond, sweepingSlot, skips_codeAt, hs, h₀, h₁]

theorem acode_flashTable (c : Nat) :
    (st.flashTable c).acode.getD (st.sweeperAt c) 0 = st.codeAt c (st.sweeperAt c) := by
  unfold flashTable
  rcases sweeperAt_cases hn c with hs | ⟨h2, hs⟩
  · split <;> simp [SyncTable.opened, SyncTable.withSecond, hs]
  · simp [h2, SyncTable.opened, SyncTable.withSecond, hs]

theorem start_flashTable (c : Nat) :
    (st.flashTable c).start.getD (st.sweeperAt c) 0 =
      Ticks.wrap (st.startTimecode + st.sweepStartAt c) := by
  unfold flashTable sweepStartAt
  rcases sweeperAt_cases hn c with hs | ⟨h2, hs⟩
  · have h : st.flashTime c 0 = Ticks.wrap (st.startTimecode + c * cycleTicks) := by
      simp [flashTime]
    split <;>
      simp [SyncTable.opened, SyncTable.withSecond, hs, h, Ticks.wrap_wrap_add, add_assoc]
  · simp [h2, SyncTable.opened, SyncTable.withSecond, hs, flashTime]

theorem recent_flashTable (c : Nat) :
    (st.flashTable c).recent = st.flashTime c (st.lighthouses.length - 1) := by
  unfold flashTable
  split
  · simp [SyncTable.withSecond, *]
  · have h1 : st.lighthouses.length - 1 = 0 := by omega
    simp [SyncTable.opened, h1]

end Flashes

/-! ### The sweep of a cycle, read back -/

section Sweep

variable {view : View} {c k : Nat} {s : Vec3} {ns : Int} {H : List (Int × Int × Int)}

theorem eq_of_mem_hitReadings {q : Int × Int × Int} (hq : q ∈ st.hitReadings view c)
    (hk : q.2.1 = k) (hs : st.sensors[k]? = some s) :
    q = (Ticks.wrap (st.startTimecode +
        (st.sweepStartAt c + st.tickAt view c s - st.sweepLength / 2)), (k : Int),
      st.sweepLength) := by
  obtain ⟨k', s', hs', -, rfl⟩ := mem_hitReadings.mp hq
  obtain rfl : k' = k := by simpa using hk
  rw [hs] at hs'
  cases hs'
  rfl

theorem not_keptSync_of_mem_hitReadings (hL : st.sweepLength ≤ 2750) {q : Int × Int × Int}
    (hq : q ∈ st.hitReadings view c) : ¬keptSync ns q.2.1 q.2.2 := by
  intro hk
  obtain ⟨k, s, -, -, rfl⟩ := mem_hitReadings.mp hq
  have : syncThreshold < st.sweepLength := hk.2.2.1
  unfold syncThreshold at this
  omega

theorem mem_counted_hits (hL : 0 < st.sweepLength ∧ st.sweepLength ≤ 2750)
    (hH : H.Perm (st.hitReadings view c)) {q : Int × Int × Int} :
    q ∈ H.filter (fun p => countedSweep ns p) ↔ q ∈ st.hitReadings view c ∧ q.2.1 < ns := by
  rw [List.mem_filter, hH.mem_iff, decide_eq_true_iff]
  constructor
  · rintro ⟨hq, h⟩
    exact ⟨hq, h.2.1⟩
  · rintro ⟨hq, h⟩
    obtain ⟨k, s, -, -, rfl⟩ := mem_hitReadings.mp hq
    exact ⟨hq, by simp, h, hL.1, by simpa [syncThreshold] using hL.2⟩

theorem hitSensors_counted (hL : 0 < st.sweepLength ∧ st.sweepLength ≤ 2750)
    (hH : H.Perm (st.hitReadings view c)) :
    hitSensors ns.toNat (H.filter fun p => countedSweep ns p) =
      (List.range ns.toNat).filter fun k =>
        (st.sensors[k]?).any fun s => reaches (st.angleAt view c s) := by
  unfold hitSensors
  apply List.filter_congr
  intro k hk
  rw [Bool.eq_iff_iff, List.any_eq_true, Option.any_eq_true]
  constructor
  · rintro ⟨q, hq, hqk⟩
    obtain ⟨k', s, hs, hr, rfl⟩ := mem_hitReadings.mp ((mem_counted_hits hL hH).mp hq).1
    obtain rfl : k' = k := by simpa using hqk
    exact ⟨s, hs, hr⟩
  · rintro ⟨s, hs, hr⟩
    have hk' : (k : Int) < ns := by
      have := List.mem_range.mp hk
      omega
    exact ⟨_, (mem_counted_hits hL hH).mpr ⟨mem_hitReadings.mpr ⟨k, s, hs, hr, rfl⟩, hk'⟩,
      by simp⟩

section Sensor

variable (hL : 0 < st.sweepLength ∧ st.sweepLength ≤ 2750) (hH : H.Perm (st.hitReadings view c))
  (hs : st.sensors[k]? = some s) (hr : reaches (st.angleAt view c s) = true) (hk : (k : Int) < ns)
include hL hH hs hr hk

theorem hit_mem_counted :
    (Ticks.wrap (st.startTimecode +
        (st.sweepStartAt c + st.tickAt view c s - st.sweepLength / 2)), (k : Int),
      st.sweepLength) ∈ H.filter fun p => countedSweep ns p :=
  (mem_counted_hits hL hH).mpr ⟨mem_hitReadings.mpr ⟨k, s, hs, hr, rfl⟩, hk⟩

theorem longest_counted :
    longest (H.filter fun p => countedSweep ns p) k = st.sweepLength := by
  have hle := le_longest (hit_mem_counted hL hH hs hr hk) rfl
  obtain ⟨q, hq, -, hlen⟩ := exists_longest (lt_of_lt_of_le hL.1 hle)
  obtain ⟨k', s', -, -, rfl⟩ := mem_hitReadings.mp ((mem_counted_hits hL hH).mp hq).1
  exact hlen.symm

theorem earliestLongest_counted :
    earliestLongest (H.filter fun p => countedSweep ns p) k =
      Ticks.wrap (st.startTimecode +
        (st.sweepStartAt c + st.tickAt view c s - st.sweepLength / 2)) := by
  have hq := hit_mem_counted hL hH hs hr hk
  unfold earliestLongest
  rw [longest_counted hL hH hs hr hk]
  -- the sensor's own hit is found, and it is the only one of that sensor
  have hfind : ((H.filter fun p => countedSweep ns p).find? fun p =>
      decide (p.2.1 = (k : Int) ∧ p.2.2 = st.sweepLength)).isSome :=
    List.find?_isSome.mpr ⟨_, hq, by simp⟩
  obtain ⟨a, ha⟩ := Option.isSome_iff_exists.mp hfind
  have hp := List.find?_some ha
  rw [decide_eq_true_eq] at hp
  rw [ha, eq_of_mem_hitReadings ((mem_counted_hits hL hH).mp (List.mem_of_find?_eq_some ha)).1
    hp.1 hs]
  rfl

end Sensor

theorem sweepReport_flashTable (hn : 0 < st.lighthouses.length ∧ st.lighthouses.length ≤ 2)
    (hL : 0 < st.sweepLength ∧ st.sweepLength ≤ 2750)
    (hticks : ∀ p ∈ st.sensors.zipIdx, reaches (st.angleAt view c p.1) →
      66666 ≤ st.tickAt view c p.1 ∧ st.tickAt view c p.1 ≤ 333334)
    (hH : H.Perm (st.hitReadings view c)) {channels chs : List Channel}
    (hch : chs.map (·.lighthouse) = channels.map (·.lighthouse)) :
    sweepReport ns.toNat (st.flashTable c).acode (st.flashTable c).start chs
        (H.filter fun p => countedSweep ns p) = st.expectedSweep view channels ns.toNat c := by
  unfold sweepReport expectedSweep
  rw [sweepingSlot_flashTable hn, hitSensors_counted hL hH]
  dsimp only
  split_ifs with hnil
  · rfl
  rw [Receiver.lighthouse_at hch, acode_flashTable hn, axis_codeAt, start_flashTable hn]
  -- each sensor reported is one the sweep reaches, below the count, with its tick in range
  have hsensor : ∀ k ∈ (List.range ns.toNat).filter (fun k =>
      (st.sensors[k]?).any fun s => reaches (st.angleAt view c s)), ∃ s,
        st.sensors[k]? = some s ∧ reaches (st.angleAt view c s) = true ∧ (k : Int) < ns := by
    intro k hk
    obtain ⟨hk, hany⟩ := List.mem_filter.mp hk
    rw [Option.any_eq_true] at hany
    obtain ⟨s, hs, hr⟩ := hany
    exact ⟨s, hs, hr, by have := List.mem_range.mp hk; omega⟩
  congr 1
  funext cal
  congr 1
  · refine List.map_congr_left fun k hk => ?_
    obtain ⟨s, hs, hr, hk'⟩ := hsensor k hk
    rw [earliestLongest_counted hL hH hs hr hk', hs]
    rfl
  · refine List.map_congr_left fun k hk => ?_
    obtain ⟨s, hs, hr, hk'⟩ := hsensor k hk
    have hb : 66666 ≤ st.tickAt view c s ∧ st.tickAt view c s ≤ 333334 :=
      hticks (s, k) (List.mem_zipIdx_iff_getElem?.mpr hs) hr
    rw [earliestLongest_counted hL hH hs hr hk', longest_counted hL hH hs hr hk', hs]
    have hd : 0 ≤ st.sweepLength / 2 ∧ st.sweepLength / 2 ≤ 1375 := by omega
    exact Ticks.timecodeDelta_wrap_add_sub (by omega) (by unfold Ticks.modulus; simp; omega)
  · refine List.map_congr_left fun k hk => ?_
    obtain ⟨s, hs, hr, hk'⟩ := hsensor k hk
    exact longest_counted hL hH hs hr hk'

end Sweep

end SimTracker

namespace Receiver

variable {r r' r₀ : Receiver}

/-! ### The flashes of one cycle -/

theorem classify_of_opens {s : SyncTable} (hs : s.Wf) (h2 : s.acode.length = 2) {t l a : Int}
    (hl : 0 < l) (ho : s.Opens t) : classify s t l a = .ok (SyncTable.opened t l a) := by
  rcases ho with hg | ⟨rfl, hg⟩
  · rw [classify_of_reset hs hg, h2]
    rfl
  · -- a new table takes the pulse as the longest of its first flash
    have hm : (SyncTable.fresh 2).current < (SyncTable.fresh 2).maxLength.length := by decide
    have hs : (SyncTable.fresh 2).current < (SyncTable.fresh 2).start.length := by decide
    have ha : (SyncTable.fresh 2).current < (SyncTable.fresh 2).acode.length := by decide
    unfold classify
    simp only [if_pos hg, getAt_of_lt hm, setAt_of_lt hm, setAt_of_lt hs, setAt_of_lt ha,
      pure_bind]
    rw [if_pos (by simpa [SyncTable.fresh] using hl)]
    rfl

theorem classify_of_second_gap {s : SyncTable} (hs : s.Wf) {t l a : Int}
    (h₁ : sameCycleGap ≤ Ticks.timecodeDelta t s.recent)
    (h₂ : Ticks.timecodeDelta t s.recent < secondLighthouseGap) :
    classify s t l a = .ok (s.withSecond t l a) := by
  have hm : 1 < s.maxLength.length := by have := hs.maxLength_len; omega
  have hs₁ : 1 < s.start.length := by have := hs.start_len; omega
  have ha : 1 < s.acode.length := by have := hs.acode_len; omega
  unfold classify
  simp only [if_neg (not_lt.mpr h₁), if_pos h₂, setAt_of_lt hm, setAt_of_lt hs₁,
    setAt_of_lt ha, pure_bind]
  rfl

/-! ### Reports along a stream -/

theorem reports_append {xs : List (Int × Int × Int)} (h : r.run xs = .ok r')
    (ys : List (Int × Int × Int)) : reports r (xs ++ ys) = reports r xs ++ reports r' ys := by
  induction xs generalizing r with
  | nil =>
    cases h
    rfl
  | cons p xs ih =>
    obtain ⟨t, s, l⟩ := p
    unfold run at h
    dsimp only at h
    split at h
    · cases h
    · exact congrArg _ (ih h)

theorem Shaped.run (h : r.Shaped) {ps : List (Int × Int × Int)} (hrun : r.run ps = .ok r') :
    r'.Shaped := by
  induction ps generalizing r with
  | nil =>
    cases hrun
    exact h
  | cons p ps ih =>
    obtain ⟨t, s, l⟩ := p
    unfold Receiver.run at hrun
    dsimp only at hrun
    split at hrun
    · cases hrun
    · exact ih (h.step t s l) hrun

theorem Between.reports {ws : List (Int × Int × Int)} (h : Between r₀ r ws)
    (mid : List (Int × Int × Int))
    (hmid : ∀ p ∈ mid, ¬keptSync r₀.numSensors p.2.1 p.2.2) :
    reports r mid = mid.map fun _ => none := by
  induction mid generalizing r ws with
  | nil => rfl
  | cons p mid ih =>
    obtain ⟨t, s, l⟩ := p
    have hk : ¬keptSync r.numSensors s l := by
      rw [h.numSensors]
      exact hmid _ List.mem_cons_self
    obtain ⟨-, h'⟩ := h.step t hk
    simp only [reports, List.map_cons, step_report_of_not_keptSync hk, Option.map_none]
    rw [ih h' fun q hq => hmid q (List.mem_cons_of_mem _ hq)]

theorem reportSweep_of_holds_nil {n : Nat} (hw : r.window.Holds n []) : r.reportSweep.2 = none := by
  have hk : r.window.kept = [] := by
    unfold SweepWindow.kept
    rw [hw.kept (by simp)]
    simp [hitSensors]
  rw [reportSweep_snd, hk]
  simp

theorem Between.recent {ws : List (Int × Int × Int)} (h : Between r₀ r ws) :
    r.sync.recent = r₀.sync.recent := by
  rcases h.sync with hs | ⟨hs, -⟩ <;> rw [hs]
  obtain ⟨a, st, ac, hsel⟩ := selectActive_eq r₀.sync
  rw [hsel]

/-! ### A receiver through the cycles of a run -/

variable {channels : List Channel} {ns : Int} {s' : SyncTable} {t sensor l : Int}

/-- A receiver of the shape `create` builds over two channels, with the lighthouses `channels`
has and reading `ns` sensors: what it keeps through a run. -/
structure Serving (channels : List Channel) (ns : Int) (r : Receiver) : Prop where
  shaped : r.Shaped
  two : r.channels.length = 2
  numSensors : r.numSensors = ns
  lighthouses : r.channels.map (·.lighthouse) = channels.map (·.lighthouse)

/-- A serving receiver about to take the first flash of a cycle at `t`. -/
structure Ready (channels : List Channel) (ns t : Int) (r : Receiver) : Prop
    extends r.Serving channels ns where
  opens : r.sync.Opens t

/-- A serving receiver just past a sync pulse that left its table `s`: its window is empty. -/
structure Synced (channels : List Channel) (ns : Int) (s : SyncTable) (r : Receiver) : Prop
    extends r.Serving channels ns where
  window : r.window.Holds ns.toNat []
  sync : r.sync = s

theorem Serving.step_sync (h : r.Serving channels ns) (hk : keptSync ns sensor l)
    (hcl : classify r.sync t l (decodeAcode l) = .ok s') :
    (r.step t sensor l).failure = none ∧
      (r.step t sensor l).report.map Prod.snd = r.reportSweep.2 ∧
      (r.step t sensor l).final.Synced channels ns s' := by
  have hshaped := h.shaped.step t sensor l
  rw [← h.numSensors] at hk
  rw [step_of_keptSync hk] at hshaped ⊢
  obtain ⟨hfail, hfin⟩ := onSync_of_classify hcl
  obtain ⟨hits, e, hrep⟩ := reportSweep_eq r
  have hw : (r.onSync t l).final.window.Holds ns.toNat [] := by
    rw [hfin, ← h.numSensors]
    simpa [clearWindow, hrep, h.shaped.lengths] using SweepWindow.holds_nil r.numSensors.toNat hits
  refine ⟨hfail, onSync_report r t l, ⟨hshaped, ?_, ?_, ?_⟩, hw, ?_⟩ <;> rw [hfin]
  · simpa using h.two
  · simpa [clearWindow, hrep] using h.numSensors
  · rw [map_lighthouse_modify_feed]
    exact h.lighthouses

theorem Ready.flashes {st : SimTracker} {c : Nat}
    (hn : 0 < st.lighthouses.length ∧ st.lighthouses.length ≤ 2) (hns : 0 < ns)
    (hR : r.Ready channels ns (st.flashTime c 0)) :
    ∃ r', r.run (st.flashReadings c) = .ok r' ∧
      reports r (st.flashReadings c) =
        r.reportSweep.2 :: (st.flashReadings c).tail.map (fun _ => none) ∧
      r'.Synced channels ns (st.flashTable c) := by
  have hk : ∀ slot, keptSync ns 0 (syncLength (st.codeAt c slot)) :=
    SimTracker.keptSync_flash hns c
  have hcl₀ : classify r.sync (st.flashTime c 0) (syncLength (st.codeAt c 0))
      (decodeAcode (syncLength (st.codeAt c 0))) =
        .ok (SyncTable.opened (st.flashTime c 0) (syncLength (st.codeAt c 0)) (st.codeAt c 0)) := by
    rw [SimTracker.decodeAcode_syncLength]
    have := st.syncLength_codeAt c 0
    exact classify_of_opens hR.shaped.wf.sync (hR.shaped.acode.trans hR.two) (by omega) hR.opens
  obtain ⟨hf₀, hrep₀, hS₀⟩ := hR.step_sync (hk 0) hcl₀
  by_cases h2 : st.lighthouses.length = 2
  · -- the second flash joins it one slot spacing later
    have hF : st.flashReadings c = [(st.flashTime c 0, 0, syncLength (st.codeAt c 0)),
        (st.flashTime c 1, 0, syncLength (st.codeAt c 1))] := by
      rw [SimTracker.flashReadings_eq_flashTime, h2]
      rfl
    have hgap := st.timecodeDelta_second_flash c
    have hcl₁ := classify_of_second_gap hS₀.shaped.wf.sync (t := st.flashTime c 1)
      (l := syncLength (st.codeAt c 1)) (a := decodeAcode (syncLength (st.codeAt c 1)))
      (by rw [hS₀.sync]; exact hgap ▸ by decide)
      (by rw [hS₀.sync]; exact hgap ▸ by decide)
    obtain ⟨hf₁, hrep₁, hS₁⟩ := hS₀.step_sync (hk 1) hcl₁
    rw [hS₀.sync, SimTracker.decodeAcode_syncLength] at hS₁
    have hT : st.flashTable c = (SyncTable.opened (st.flashTime c 0) (syncLength (st.codeAt c 0))
        (st.codeAt c 0)).withSecond (st.flashTime c 1) (syncLength (st.codeAt c 1))
          (st.codeAt c 1) := by
      unfold SimTracker.flashTable
      rw [if_pos h2]
    refine ⟨_, ?_, ?_, hT ▸ hS₁⟩
    · rw [hF, run_cons_of_failure_eq_none hf₀, run_cons_of_failure_eq_none hf₁]
      rfl
    · rw [hF]
      simp only [reports, hrep₀, hrep₁, reportSweep_of_holds_nil hS₀.window]
      rfl
  · have hF : st.flashReadings c = [(st.flashTime c 0, 0, syncLength (st.codeAt c 0))] := by
      rw [SimTracker.flashReadings_eq_flashTime, (by omega : st.lighthouses.length = 1)]
      rfl
    have hT : st.flashTable c = SyncTable.opened (st.flashTime c 0) (syncLength (st.codeAt c 0))
        (st.codeAt c 0) := by
      unfold SimTracker.flashTable
      rw [if_neg h2]
    refine ⟨_, ?_, ?_, hT ▸ hS₀⟩
    · rw [hF, run_cons_of_failure_eq_none hf₀]
      rfl
    · rw [hF]
      simp only [reports, hrep₀]
      rfl

theorem Ready.cycle {st : SimTracker} {view : View} {c : Nat} {H : List (Int × Int × Int)}
    (hn : 0 < st.lighthouses.length ∧ st.lighthouses.length ≤ 2)
    (hL : 0 < st.sweepLength ∧ st.sweepLength ≤ 2750) (hns : 0 < ns)
    (hticks : ∀ p ∈ st.sensors.zipIdx, SimTracker.reaches (st.angleAt view c p.1) →
      66666 ≤ st.tickAt view c p.1 ∧ st.tickAt view c p.1 ≤ 333334)
    (hH : H.Perm (st.hitReadings view c)) (hR : r.Ready channels ns (st.flashTime c 0)) :
    ∃ r', r.run (st.flashReadings c ++ H) = .ok r' ∧
      reports r (st.flashReadings c ++ H) =
        r.reportSweep.2 :: (st.flashReadings c ++ H).tail.map (fun _ => none) ∧
      r'.Ready channels ns (st.flashTime (c + 1) 0) ∧
      r'.reportSweep.2 = st.expectedSweep view channels ns.toNat c := by
  obtain ⟨r₂, hrun₂, hrep₂, hS⟩ := hR.flashes hn hns
  have hquiet : ∀ p ∈ H, ¬keptSync r₂.numSensors p.2.1 p.2.2 := fun p hp =>
    SimTracker.not_keptSync_of_mem_hitReadings hL.2 (hH.mem_iff.mp hp)
  have hB := Between.start hS.shaped.wf (by rw [hS.numSensors]; exact hS.window)
  obtain ⟨r₃, hrun₃, hB₃⟩ := hB.run H hquiet
  have hrec : recorded r₂.numSensors r₂.sync H = H.filter fun p => countedSweep ns p := by
    rw [recorded, if_neg (by rw [hS.sync, SimTracker.sweepingSlot_flashTable hn]; simp),
      hS.numSensors]
  have hF : st.flashReadings c ≠ [] := by
    simpa [SimTracker.flashReadings] using hn.1.ne'
  refine ⟨r₃, ?_, ?_, ⟨⟨hS.shaped.run hrun₃, ?_, ?_, ?_⟩, ?_⟩, ?_⟩
  · rw [run_append, hrun₂]
    exact hrun₃
  · rw [reports_append hrun₂, hrep₂, hB.reports H hquiet, List.tail_append_of_ne_nil hF,
      List.map_append, List.cons_append]
  · rw [hB₃.channels]
    exact hS.two
  · rw [hB₃.numSensors]
    exact hS.numSensors
  · rw [hB₃.channels]
    exact hS.lighthouses
  · -- the last flash of this cycle is a cycle's gap before the next one's first
    left
    rw [hB₃.recent, hS.sync, SimTracker.recent_flashTable hn]
    exact SimTracker.resetGap_lt_next_flash hn c
  · rw [hB₃.reportSweep, List.nil_append, hrec, hS.numSensors, hS.sync]
    exact SimTracker.sweepReport_flashTable hn hL hticks hH hS.lighthouses

theorem Ready.cycles {st : SimTracker} {view : View}
    (hn : 0 < st.lighthouses.length ∧ st.lighthouses.length ≤ 2)
    (hL : 0 < st.sweepLength ∧ st.sweepLength ≤ 2750) (hns : 0 < ns)
    {blocks : List (List (Int × Int × Int))} {c : Nat}
    (hb : ∀ i (h : i < blocks.length), st.CycleReadings view (c + i) blocks[i])
    (hR : r.Ready channels ns (st.flashTime c 0)) :
    ∃ r', r.run blocks.flatten = .ok r' ∧
      reports r blocks.flatten =
        st.expectedReports view channels ns.toNat r.reportSweep.2 c blocks := by
  induction blocks generalizing c r with
  | nil => exact ⟨r, rfl, rfl⟩
  | cons b bs ih =>
    obtain ⟨⟨hticks, H, hH, rfl⟩, hbs⟩ := SimTracker.cycleReadings_cons hb
    obtain ⟨r₁, hrun₁, hrep₁, hR₁, hsweep⟩ := hR.cycle hn hL hns hticks hH
    obtain ⟨r', hrun', hrep'⟩ := ih hbs hR₁
    refine ⟨r', ?_, ?_⟩
    · rw [List.flatten_cons, run_append, hrun₁]
      exact hrun'
    · rw [List.flatten_cons, reports_append hrun₁, hrep₁, hrep', hsweep,
        SimTracker.expectedReports]

theorem create_ready (hch : channels.length = 2) (ns : Int) {t : Int}
    (ht : Ticks.timecodeDelta t 0 < sameCycleGap ∨ resetGap < Ticks.timecodeDelta t 0) :
    (create channels ns).Ready channels ns t := by
  refine ⟨⟨create_shaped (by omega) ns, hch, rfl, rfl⟩, ?_⟩
  rcases ht with ht | ht
  · exact .inr ⟨by rw [create, hch], ht⟩
  · exact .inl ht

end Receiver

/-! ### The bits each decoder takes -/

theorem fedBits_append_of_not_keptSync {ns : Int} {k : Nat} {H : List (Int × Int × Int)}
    (hH : ∀ p ∈ H, ¬keptSync ns p.2.1 p.2.2) (tr : Tracker) (rest : List (Int × Int × Int)) :
    fedBits ns k tr (H ++ rest) = fedBits ns k tr rest := by
  induction H with
  | nil => rfl
  | cons p H ih =>
    obtain ⟨t, s, l⟩ := p
    rw [List.cons_append, fedBits, if_neg (hH _ List.mem_cons_self)]
    exact ih fun q hq => hH q (List.mem_cons_of_mem _ hq)

theorem Tracker.place_new {t : Int}
    (ht : Ticks.timecodeDelta t 0 < sameCycleGap ∨ resetGap < Ticks.timecodeDelta t 0) :
    ({} : Tracker).place t = ⟨t, 0⟩ := by
  rcases ht with ht | ht
  · unfold Tracker.place
    rw [if_pos ht]
  · exact Tracker.place_of_reset ht

namespace SimTracker

variable {st : SimTracker} {view : View} {ns : Int} {k : Nat}

theorem fedBits_cycle (hn : 0 < st.lighthouses.length ∧ st.lighthouses.length ≤ 2)
    (hL : st.sweepLength ≤ 2750) (hns : 0 < ns) {c : Nat} {b : List (Int × Int × Int)}
    (hb : st.CycleReadings view c b) {tr : Tracker}
    (htr : tr.place (st.flashTime c 0) = ⟨st.flashTime c 0, 0⟩)
    (rest : List (Int × Int × Int)) :
    fedBits ns k tr (b ++ rest) =
      (if k < st.lighthouses.length then
        [((st.lighthouses.getD k default).bit c, st.flashTime c k)] else []) ++
      fedBits ns k
        ⟨st.flashTime c (st.lighthouses.length - 1), st.lighthouses.length - 1⟩ rest := by
  obtain ⟨-, H, hH, rfl⟩ := hb
  have hk : ∀ slot, keptSync ns 0 (syncLength (st.codeAt c slot)) := keptSync_flash hns c
  have hbit : ∀ slot, Acode.dataBit (decodeAcode (syncLength (st.codeAt c slot))) =
      (st.lighthouses.getD slot default).bit c := fun slot => by
    rw [decodeAcode_syncLength, dataBit_codeAt]
  have hquiet : ∀ p ∈ H, ¬keptSync ns p.2.1 p.2.2 := fun p hp =>
    not_keptSync_of_mem_hitReadings hL (hH.mem_iff.mp hp)
  rw [List.append_assoc, flashReadings_eq_flashTime]
  by_cases h2 : st.lighthouses.length = 2
  · -- the first flash feeds slot 0, the second slot 1
    rw [h2, show List.range 2 = [0, 1] from rfl, List.map_cons, List.map_cons, List.map_nil,
      List.cons_append, fedBits, if_pos (hk 0), htr, List.cons_append, fedBits, if_pos (hk 1),
      place_second_flash, List.nil_append, fedBits_append_of_not_keptSync hquiet, hbit, hbit]
    rcases k with _ | _ | k <;> simp
  · rw [(by omega : st.lighthouses.length = 1), show List.range 1 = [0] from rfl, List.map_cons,
      List.map_nil, List.cons_append, fedBits, if_pos (hk 0), htr, List.nil_append,
      fedBits_append_of_not_keptSync hquiet, hbit]
    rcases k with _ | k <;> simp

theorem fedBits_cycles (hn : 0 < st.lighthouses.length ∧ st.lighthouses.length ≤ 2)
    (hL : st.sweepLength ≤ 2750) (hns : 0 < ns) {blocks : List (List (Int × Int × Int))}
    {c : Nat} (hb : ∀ i (h : i < blocks.length), st.CycleReadings view (c + i) blocks[i])
    {tr : Tracker} (htr : tr.place (st.flashTime c 0) = ⟨st.flashTime c 0, 0⟩) :
    fedBits ns k tr blocks.flatten =
      if k < st.lighthouses.length then (List.range blocks.length).map fun i =>
        ((st.lighthouses.getD k default).bit (c + i), st.flashTime (c + i) k)
      else [] := by
  induction blocks generalizing c tr with
  | nil => split_ifs <;> rfl
  | cons b bs ih =>
    obtain ⟨h₀, hbs⟩ := cycleReadings_cons hb
    -- the next cycle's first flash puts the tracker back on slot 0
    have htr' : (⟨st.flashTime c (st.lighthouses.length - 1), st.lighthouses.length - 1⟩ :
        Tracker).place (st.flashTime (c + 1) 0) = ⟨st.flashTime (c + 1) 0, 0⟩ :=
      Tracker.place_of_reset (resetGap_lt_next_flash hn c)
    rw [List.flatten_cons, fedBits_cycle hn hL hns h₀ htr, ih hbs htr',
      List.length_cons, List.range_succ_eq_map]
    split_ifs
    · simp [Function.comp_def, Nat.add_right_comm c 1, Nat.add_assoc]
    · rfl

theorem run_cycleReadings (hn : st.lighthouses.length ≤ 2) (hL : st.sweepLength ≤ 2750)
    {N : Nat} {st' : SimTracker} {ps : List SimPulse} (h : st.run view N true = .ok (st', ps)) :
    ∃ blocks : List (List (Int × Int × Int)), blocks.length = N ∧
      ps.map SimPulse.reading = blocks.flatten ∧
      ∀ i (hi : i < blocks.length), st.CycleReadings view (st.cycle + i) blocks[i] := by
  obtain ⟨-, blocks, hlen, rfl, hcyc⟩ := run_blocks h
  refine ⟨blocks.map (·.map SimPulse.reading), by simp [hlen], by simp [List.map_flatten],
    fun i hi => ?_⟩
  have hi' : i < blocks.length := by simpa using hi
  -- the cycle's tracker differs from `st` only in its cycle counter, which no reading uses
  obtain ⟨-, -, hticks, hits, hperm, hread⟩ :=
    cyclePulses_readings (by exact hn) (by exact hL) (hcyc i hi')
  refine ⟨hticks, hits, hperm, ?_⟩
  rw [List.getElem_map]
  exact hread

end SimTracker

/-- A receiver over two channels and reading at least one sensor, fed the pulses of `N` cycles
of a simulated tracker over one or two lighthouses, takes every pulse when the tracker's
sweep pulses are no longer than the receiver takes for sweeps and a new receiver places its
first flash as the start of a cycle. Then:
* each slot's decoder takes exactly its lighthouse's data bits of the `N` cycles, in order,
  and a slot with no lighthouse takes none;
* the pulses fall into one block per cycle, the cycle's flashes first, and at each pulse the
  receiver reports what `expectedReports` says: at the first flash of each cycle after the
  first, the sweep of the cycle before as `expectedSweep` gives it, and nothing elsewhere. -/
theorem receiver_reads_simulated_schedule {st st' : SimTracker} {view : View} {N : Nat}
    {ps : List SimPulse} (channels : List Channel) (numSensors : Int)
    (hn : 0 < st.lighthouses.length ∧ st.lighthouses.length ≤ 2)
    (hL : 1 ≤ st.sweepLength ∧ st.sweepLength ≤ 2750)
    (hstart : Ticks.wrap (st.startTimecode + st.cycle * cycleTicks) < sameCycleGap ∨
      resetGap < Ticks.wrap (st.startTimecode + st.cycle * cycleTicks))
    (hch : channels.length = 2) (hs : 1 ≤ numSensors)
    (hrun : st.run view N true = .ok (st', ps)) :
    (∃ r, (Receiver.create channels numSensors).run (ps.map SimPulse.reading) = .ok r ∧
      r.channels = channels.mapIdx fun k ch => { ch with
        decoder := ch.decoder.feedAll (fedBits numSensors k {} (ps.map SimPulse.reading)) }) ∧
    (∀ k, (fedBits numSensors k {} (ps.map SimPulse.reading)).map Prod.fst =
      ((st.lighthouses[k]?).map fun lh => (List.range N).map fun i => lh.bit (st.cycle + i)).getD
        []) ∧
    ∃ blocks : List (List (Int × Int × Int)), blocks.length = N ∧
      ps.map SimPulse.reading = blocks.flatten ∧
      (∀ i (h : i < blocks.length), st.CycleReadings view (st.cycle + i) blocks[i]) ∧
      Receiver.reports (Receiver.create channels numSensors) (ps.map SimPulse.reading) =
        st.expectedReports view channels numSensors.toNat none st.cycle blocks := by
  obtain ⟨blocks, hlen, hflat, hcyc⟩ := SimTracker.run_cycleReadings hn.2 hL.2 hrun
  have hns : 0 < numSensors := by omega
  have ht : Ticks.timecodeDelta (st.flashTime st.cycle 0) 0 < sameCycleGap ∨
      resetGap < Ticks.timecodeDelta (st.flashTime st.cycle 0) 0 := by
    rw [SimTracker.timecodeDelta_first_flash]
    exact hstart
  refine ⟨Receiver.run_channels (Receiver.create_wf (by omega) numSensors).sync _, fun k => ?_,
    blocks, hlen, hflat, hcyc, ?_⟩
  · rw [hflat, SimTracker.fedBits_cycles hn hL.2 hns hcyc (Tracker.place_new ht), hlen]
    split_ifs with hk
    · simp [List.getElem?_eq_getElem hk, List.getD_eq_getElem?_getD]
    · simp [List.getElem?_eq_none (by omega : st.lighthouses.length ≤ k)]
  · -- a new receiver's window is empty, so the first flash reports nothing
    obtain ⟨r', -, hrep⟩ :=
      (Receiver.create_ready hch numSensors ht).cycles hn ⟨by omega, hL.2⟩ hns hcyc
    rw [hflat, hrep, Receiver.reportSweep_of_holds_nil (SweepWindow.holds_nil _ _)]

/-- A lighthouse at the origin, unrotated, seeing a sensor of a tracker at the origin: the sweep
angles of the sensor's own coordinates. -/
def originView : View := fun _ s => (Binary64.arcTangent2 s.x s.z, Binary64.arcTangent2 s.y s.z)

/-- Three sensors ahead of one lighthouse whose frame is two bits long, for three cycles from the
default start, read by a receiver over two channels that reads two sensors and whose first
channel knows its lighthouse. The sweeps of the first two cycles come out as bundles: the third
sensor is out of view in the first and beyond the sensors read in the second. -/
theorem three_sensor_schedule_received :
    let lh : SimLighthouse := ⟨Calibration.ofSerial "", Transform.identity, [true, false]⟩
    let st : SimTracker :=
      ⟨"", [⟨0.5, 0.25, 1.0⟩, ⟨-0.25, 0.5, 1.0⟩, ⟨4.0, 0.25, 1.0⟩], [lh], 1000000, 0.0, 200, 0⟩
    let channels : List Channel := [{ lighthouse := some lh.record }, {}]
    ∃ st' ps, st.run originView 3 true = .ok (st', ps) ∧
      (∃ r, (Receiver.create channels 2).run (ps.map SimPulse.reading) = .ok r ∧
        r.channels = channels.mapIdx fun k ch => { ch with
          decoder := ch.decoder.feedAll (fedBits 2 k {} (ps.map SimPulse.reading)) }) ∧
      (∀ k, (fedBits 2 k {} (ps.map SimPulse.reading)).map Prod.fst =
        ((st.lighthouses[k]?).map fun lh => (List.range 3).map fun i => lh.bit (st.cycle + i)).getD
          []) ∧
      ∃ blocks : List (List (Int × Int × Int)), blocks.length = 3 ∧
        ps.map SimPulse.reading = blocks.flatten ∧
        (∀ i (h : i < blocks.length), st.CycleReadings originView (st.cycle + i) blocks[i]) ∧
        Receiver.reports (Receiver.create channels 2) (ps.map SimPulse.reading) =
          st.expectedReports originView channels (2 : Int).toNat none st.cycle blocks ∧
        ((Receiver.reports (Receiver.create channels 2) (ps.map SimPulse.reading)).filterMap
          id).map (fun s => (s.slot, s.axis, s.sensors, s.angles)) =
            [(0, 0, [0, 1], [259033, 168808]), (0, 1, [0, 1], [231192, 259033])] := by
  intro lh st channels
  -- only whether the run succeeds is evaluated, not the sorted pulses
  have hok : (st.run originView 3 true).isOk = true := by decide +kernel
  obtain ⟨⟨st', ps⟩, hrun⟩ := Outcome.ok_of_isOk hok
  obtain ⟨hch, hbits, blocks, hlen, hflat, hcyc, hrep⟩ :=
    receiver_reads_simulated_schedule channels 2 (by decide) (by decide) (by decide) rfl
      (by decide) hrun
  refine ⟨st', ps, hrun, hch, hbits, blocks, hlen, hflat, hcyc, hrep, ?_⟩
  obtain ⟨b, bs, rfl⟩ := List.exists_cons_of_length_eq_add_one hlen
  have hbs : bs.length = 2 := by simpa using hlen
  rw [hrep, SimTracker.filterMap_expectedReports, hbs]
  decide +kernel

end Lighthouse
