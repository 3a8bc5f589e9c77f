import Lighthouse.Proofs.Binary64.Arithmetic
import Lighthouse.Proofs.Geometry.Undefined
import Lighthouse.Sim.Tracker
import Mathlib
/-!
# The schedule of a simulated tracker

A run of the simulated tracker is its cycles one after another (`run_blocks`). In each cycle
the lighthouses flash in slot order, `19200` ticks apart, and the sweeping lighthouse's sweep
hits every sensor within sixty degrees of its axis. The tick offset of such a sensor lies
between a sixth and five sixths of a sweep (`angleTicks_bounds`), so every hit comes after the
last flash, and sorting the cycle's events by time keeps the flashes first
(`cyclePulses_readings`).

The sync code of a flash carries the cycle's axis, the lighthouse's data bit for the cycle, and
the skip bit on every lighthouse but the sweeping one; the length of the flash encodes it so
that `decodeAcode` reads it back (`decodeAcode_codeLength`).
-/
namespace Lighthouse

/-! ### The tick of a sweep angle -/

namespace Binary64

theorem unpack_third :
    (Ticks.pi / 3.0).toModel.unpack = .finite .positive 4716158501352293 (-52) (by decide) := rfl

theorem rationalOf_400000 : rationalOf (400000.0 : Float).toModel.unpack = some 400000 := by
  rw [show (400000.0 : Float).toModel.unpack = .finite .positive 6871947673600000 (-34)
    (by decide) from rfl]
  norm_num [rationalOf, signed]

theorem rationalOf_200000 : rationalOf (200000.0 : Float).toModel.unpack = some 200000 := by
  rw [show (200000.0 : Float).toModel.unpack = .finite .positive 6871947673600000 (-35)
    (by decide) from rfl]
  norm_num [rationalOf, signed]

theorem rationalOf_pi :
    rationalOf Ticks.pi.toModel.unpack = some (7074237752028440 * 2 ^ (-51 : Int)) := by
  rw [show Ticks.pi.toModel.unpack = .finite .positive 7074237752028440 (-51) (by decide)
    from rfl]
  rfl

theorem ofAngle_value {a : Float} (ha : a.isNaN = false) (hv : ¬(Ticks.pi / 3.0 ≤ a.abs)) :
    ∃ w, rationalOf (Ticks.ofAngle a).toModel.unpack = some w ∧ 66666 ≤ w ∧ w ≤ 333334 := by
  obtain ⟨x, hx, hxlt⟩ := abs_lt_of_not_le unpack_third ha hv
  norm_num at hxlt
  have hx' := abs_le.mp hxlt.le
  obtain ⟨u, hu, hue⟩ := mul_error hx rationalOf_400000 (N := 19) (by norm_num) (by norm_num)
    (by rw [abs_mul]; norm_num; linarith [abs_nonneg x])
  norm_num at hue
  have hu' := abs_le.mp hue
  obtain ⟨v, hv, hve⟩ := div_error hu rationalOf_pi (by norm_num) (N := 18) (by norm_num)
    (by norm_num) (by rw [abs_le]; norm_num; constructor <;> linarith)
  norm_num at hve
  have hv' := abs_le.mp hve
  obtain ⟨w, hw, hwe⟩ := add_error hv rationalOf_200000 (N := 19) (by norm_num) (by norm_num)
    (by rw [abs_le]; norm_num; constructor <;> linarith)
  norm_num at hwe
  have hw' := abs_le.mp hwe
  exact ⟨w, hw, by linarith, by linarith⟩

end Binary64

namespace SimTracker

open Float.Model Binary64

theorem angleTicks_eq_ok {a : Float} {t : Int} (ht : angleTicks a = .ok t) :
    (Ticks.ofAngle a).isNaN = false ∧ t = roundHalfEven (Ticks.ofAngle a) := by
  unfold angleTicks at ht
  dsimp only at ht
  split at ht
  · cases ht
  rename_i hnan
  split at ht
  · cases ht
  cases ht
  exact ⟨Bool.eq_false_iff.mpr hnan, rfl⟩

/-- The tick a sensor within sixty degrees of the axis is placed at lies between a sixth and
five sixths of a sweep. -/
theorem angleTicks_bounds {a : Float} {t : Int} (hv : ¬(Ticks.pi / 3.0 ≤ a.abs))
    (ht : angleTicks a = .ok t) : 66666 ≤ t ∧ t ≤ 333334 := by
  obtain ⟨hnan, rfl⟩ := angleTicks_eq_ok ht
  -- a NaN angle would give a NaN tick offset
  have ha : a.isNaN = false := by
    by_contra h
    have h' := Bool.eq_true_of_not_eq_false h
    have hnan' : (Ticks.ofAngle a).isNaN = true :=
      isNaN_add_left (isNaN_div_left (isNaN_mul_left h' _) _) _
    rw [hnan'] at hnan
    cases hnan
  obtain ⟨w, hw, hlo, hhi⟩ := ofAngle_value ha hv
  -- a value that far above zero is a positive finite float
  rcases rationalOf_eq_some hw with ⟨s, -, rfl⟩ | ⟨s, m, e, hm, hu, rfl⟩
  · norm_num at hlo
  cases s with
  | negative =>
    have : (0 : ℚ) ≤ m * 2 ^ e := by positivity
    simp only [signed] at hlo
    linarith
  | positive =>
    have hb := roundHalfEven_bounds hu
    exact ⟨(hb 66666).1 hlo, (hb 333334).2 hhi⟩

end SimTracker

/-! ### What the schedule says of each cycle -/

/-- What a tracker reads of a pulse: its timecode, sensor and length. -/
def SimPulse.reading (p : SimPulse) : Int × Int × Int := (p.timecode, p.sensor, p.length)

namespace SimTracker

variable (st : SimTracker) (view : View)

/-- The slot that sweeps in cycle `c`. -/
def sweeperAt (c : Nat) : Nat := c / 2 % st.lighthouses.length

/-- The sync code that slot `slot` flashes in cycle `c`. -/
def codeAt (c slot : Nat) : Int :=
  ({ st with cycle := c }).syncCode (st.lighthouses.getD slot default) slot (st.sweeperAt c) true

/-- The tick at which the sweep of cycle `c` starts: the end of the first flash when the first
slot sweeps, the flash of the sweeping slot otherwise. -/
def sweepStartAt (c : Nat) : Int :=
  c * cycleTicks +
    if st.sweeperAt c = 0 then syncLength (st.codeAt c 0) else st.sweeperAt c * slotSpacing

/-- The sweep angle of a sensor at `s` in cycle `c`: about the first axis of the sweeping
lighthouse in even cycles, about its second in odd ones. -/
def angleAt (c : Nat) (s : Vec3) : Float :=
  let a := view (st.lighthouses.getD (st.sweeperAt c) default).transform s
  if c % 2 = 0 then a.1 else a.2

/-- Whether a sweep reaches a sensor at sweep angle `a`: within sixty degrees of the axis. -/
def reaches (a : Float) : Bool := !decide (Ticks.pi / 3.0 ≤ a.abs)

/-- The tick, after the start of the sweep, at which a sensor at `s` is hit in cycle `c`. -/
def tickAt (c : Nat) (s : Vec3) : Int :=
  Binary64.roundHalfEven (Ticks.ofAngle (st.angleAt view c s))

/-- The timecode, sensor and length of each flash of cycle `c`, in slot order. -/
def flashReadings (c : Nat) : List (Int × Int × Int) :=
  (List.range st.lighthouses.length).map fun (slot : Nat) =>
    (Ticks.wrap (st.startTimecode + (c * cycleTicks + slot * slotSpacing)), 0,
      syncLength (st.codeAt c slot))

/-- The timecode, sensor and length of each hit of cycle `c`, in sensor order. -/
def hitReadings (c : Nat) : List (Int × Int × Int) :=
  (st.sensors.zipIdx.filter fun p => reaches (st.angleAt view c p.1)).map fun p =>
    (Ticks.wrap (st.startTimecode +
        (st.sweepStartAt c + st.tickAt view c p.1 - st.sweepLength / 2)), (p.2 : Int),
      st.sweepLength)

/-! ### Sync codes -/

theorem codeAt_eq (c slot : Nat) :
    st.codeAt c slot = ((c % 2 : Nat) : Int) +
      (if (st.lighthouses.getD slot default).bit c then 2 else 0) +
      (if slot = st.sweeperAt c then 0 else 4) := by
  unfold codeAt syncCode
  dsimp only
  cases (st.lighthouses.getD slot default).bit c <;> by_cases hs : slot = st.sweeperAt c <;>
    simp [hs]

theorem codeAt_bounds (c slot : Nat) : 0 ≤ st.codeAt c slot ∧ st.codeAt c slot ≤ 7 := by
  rw [codeAt_eq]
  split_ifs <;> omega

theorem decodeAcode_syncLength (a : Int) : decodeAcode (syncLength a) = a := by
  unfold decodeAcode syncLength syncThreshold acodeStep
  omega

theorem dataBit_codeAt (c slot : Nat) :
    Acode.dataBit (st.codeAt c slot) = (st.lighthouses.getD slot default).bit c := by
  rw [codeAt_eq]
  unfold Acode.dataBit
  by_cases hs : slot = st.sweeperAt c <;> cases (st.lighthouses.getD slot default).bit c <;>
    simp [hs] <;> omega

theorem skips_codeAt (c slot : Nat) :
    Acode.skips (st.codeAt c slot) = !decide (slot = st.sweeperAt c) := by
  rw [codeAt_eq]
  unfold Acode.skips
  by_cases hs : slot = st.sweeperAt c <;> cases (st.lighthouses.getD slot default).bit c <;>
    simp [hs] <;> omega

theorem axis_codeAt (c slot : Nat) : Acode.axis (st.codeAt c slot) = ((c % 2 : Nat) : Int) := by
  rw [codeAt_eq]
  unfold Acode.axis
  split_ifs <;> omega

theorem syncLength_codeAt (c slot : Nat) :
    syncThreshold < syncLength (st.codeAt c slot) ∧ syncLength (st.codeAt c slot) ≤ maxPulse ∧
      3000 ≤ syncLength (st.codeAt c slot) := by
  have := st.codeAt_bounds c slot
  unfold syncLength syncThreshold maxPulse acodeStep
  omega

end SimTracker

/-! ### Building and sorting the events of a cycle -/

section Events

variable {α β γ : Type}

theorem foldlM_snoc_eq_ok (skip : α → Prop) [DecidablePred skip] (g : α → Outcome γ)
    (v : α → γ) (mk : α → γ → β) (hv : ∀ x t, g x = .ok t → t = v x) {l : List α}
    {acc res : List β}
    (h : l.foldlM (fun acc x => if skip x then pure acc else g x >>= fun t => pure (acc ++ [mk x t]))
      acc = .ok res) :
    (∀ x ∈ l, ¬skip x → g x = .ok (v x)) ∧
      res = acc ++ (l.filter fun x => !decide (skip x)).map fun x => mk x (v x) := by
  induction l generalizing acc with
  | nil =>
    cases h
    simp
  | cons x l ih =>
    rw [List.foldlM_cons] at h
    obtain ⟨acc', hx, hl⟩ := Outcome.bind_eq_ok h
    obtain ⟨hg, rfl⟩ := ih hl
    by_cases hs : skip x
    · rw [if_pos hs] at hx
      cases hx
      refine ⟨fun y hy hsy => ?_, by simp [hs]⟩
      rcases List.mem_cons.mp hy with rfl | hy
      · exact absurd hs hsy
      · exact hg y hy hsy
    · rw [if_neg hs] at hx
      obtain ⟨t, ht, hx⟩ := Outcome.bind_eq_ok hx
      cases hx
      obtain rfl := hv x t ht
      refine ⟨fun y hy hsy => ?_, by simp [hs]⟩
      rcases List.mem_cons.mp hy with rfl | hy
      · exact ht
      · exact hg y hy hsy

theorem mergeSort_append_of_le {le : α → α → Bool} (trans : ∀ a b c, le a b → le b c → le a c)
    (total : ∀ a b, le a b || le b a) {F H : List α} (hF : F.Pairwise fun a b => le a b)
    (hFH : ∀ a ∈ F, ∀ b ∈ H, le a b) : (F ++ H).mergeSort le = F ++ H.mergeSort le := by
  induction F with
  | nil => rfl
  | cons a F ih =>
    obtain ⟨l₁, l₂, h₁, h₂, hl₁⟩ := List.mergeSort_cons trans total a (F ++ H)
    -- nothing sorts before `a`, which is at most every later element
    have hnil : l₁ = [] := by
      cases l₁ with
      | nil => rfl
      | cons b l₁ =>
        have hb : b ∈ F ++ H := (List.mergeSort_perm (F ++ H) le).mem_iff.mp
          (h₂ ▸ List.mem_append_left _ List.mem_cons_self)
        have hab : le a b = true := by
          rcases List.mem_append.mp hb with hb | hb
          · exact List.rel_of_pairwise_cons hF hb
          · exact hFH a List.mem_cons_self b hb
        have := hl₁ b List.mem_cons_self
        rw [hab] at this
        cases this
    subst hnil
    rw [List.nil_append] at h₁ h₂
    rw [List.cons_append, h₁, ← h₂, ih hF.of_cons fun x hx => hFH x (List.mem_cons_of_mem _ hx),
      List.cons_append]

end Events

namespace SimTracker

variable {st st' : SimTracker} {view : View} {ps : List SimPulse}

theorem start_getD {i : Nat} (hi : i < st.lighthouses.length) :
    ((st.lighthouses.zipIdx.map fun x => ((st.cycle : Int) * cycleTicks + x.2 * slotSpacing,
        (0 : Int), syncLength (st.syncCode x.1 x.2 i true))).zipIdx.map
      fun x => if x.2 = 0 then x.1.1 + x.1.2.2 else x.1.1).getD i 0 =
      st.cycle * cycleTicks +
        if i = 0 then syncLength (st.syncCode (st.lighthouses.getD 0 default) 0 i true)
        else i * slotSpacing := by
  simp only [List.getD_eq_getElem?_getD, List.getElem?_map, List.getElem?_zipIdx,
    List.getElem?_eq_getElem hi, Option.map_some, Option.getD_some, Nat.zero_add]
  split_ifs with h
  · subst h
    simp [List.getElem?_eq_getElem hi]
  · rfl

theorem flashes_eq :
    (st.lighthouses.zipIdx.map fun x => ((st.cycle : Int) * cycleTicks + x.2 * slotSpacing,
        (0 : Int), syncLength (st.syncCode x.1 x.2 (st.cycle / 2 % st.lighthouses.length) true))) =
      (List.range st.lighthouses.length).map fun (slot : Nat) =>
        ((st.cycle : Int) * cycleTicks + slot * slotSpacing, (0 : Int),
          syncLength (st.codeAt st.cycle slot)) := by
  apply List.ext_getElem (by simp)
  intro i h₁ h₂
  simp only [List.getElem_map, List.getElem_zipIdx, List.getElem_range, Nat.zero_add]
  unfold codeAt sweeperAt
  rw [List.getD_eq_getElem _ _ (by simpa using h₁)]

theorem le_trans_ticks (a b c : Int × Int × Int) :
    decide (a.1 ≤ b.1) = true → decide (b.1 ≤ c.1) = true → decide (a.1 ≤ c.1) = true := by
  simp only [decide_eq_true_eq]
  exact Int.le_trans

theorem le_total_ticks (a b : Int × Int × Int) : (decide (a.1 ≤ b.1) || decide (b.1 ≤ a.1)) = true := by
  simp only [Bool.or_eq_true, decide_eq_true_eq]
  exact Int.le_total _ _

/-- One cycle of the schedule as a tracker reads it: the flashes in slot order, then the hits of
the sensors the sweep reaches, in some order. Each such sensor is hit between a sixth and five
sixths of a sweep after the sweep starts. -/
theorem cyclePulses_readings (hn : st.lighthouses.length ≤ 2) (hL : st.sweepLength ≤ 2750)
    (h : st.cyclePulses view true = .ok (st', ps)) :
    0 < st.lighthouses.length ∧ st' = { st with cycle := st.cycle + 1 } ∧
      (∀ p ∈ st.sensors.zipIdx, reaches (st.angleAt view st.cycle p.1) →
        66666 ≤ st.tickAt view st.cycle p.1 ∧ st.tickAt view st.cycle p.1 ≤ 333334) ∧
      ∃ hits, hits.Perm (st.hitReadings view st.cycle) ∧
        ps.map SimPulse.reading = st.flashReadings st.cycle ++ hits := by
  have hn0 : st.lighthouses.length ≠ 0 := by
    intro hn0
    unfold cyclePulses at h
    simp only [hn0, if_true] at h
    cases h
  unfold cyclePulses at h
  simp only [hn0, if_false, if_true] at h
  obtain ⟨hits, hfold, hret⟩ := Outcome.bind_eq_ok h
  have hi : st.cycle / 2 % st.lighthouses.length < st.lighthouses.length :=
    Nat.mod_lt _ (Nat.pos_of_ne_zero hn0)
  rw [start_getD hi] at hfold
  -- the hits are those of the sensors the sweep reaches, in sensor order
  obtain ⟨hok, rfl⟩ := foldlM_snoc_eq_ok
    (fun p : Vec3 × Nat => Ticks.pi / 3.0 ≤ (st.angleAt view st.cycle p.1).abs)
    (fun p => angleTicks (st.angleAt view st.cycle p.1)) (fun p => st.tickAt view st.cycle p.1)
    (fun p t => (st.sweepStartAt st.cycle + t - st.sweepLength / 2, (p.2 : Int), st.sweepLength))
    (fun p t ht => (angleTicks_eq_ok ht).2) hfold
  clear hfold h
  have hticks : ∀ p ∈ st.sensors.zipIdx, reaches (st.angleAt view st.cycle p.1) →
      66666 ≤ st.tickAt view st.cycle p.1 ∧ st.tickAt view st.cycle p.1 ≤ 333334 := by
    intro p hp hr
    have hv : ¬(Ticks.pi / 3.0 ≤ (st.angleAt view st.cycle p.1).abs) := by
      simpa [reaches] using hr
    exact angleTicks_bounds hv (hok p hp hv)
  rw [flashes_eq] at hret
  cases hret
  refine ⟨Nat.pos_of_ne_zero hn0, rfl, hticks, ?_⟩
  -- every hit comes after the last flash, so sorting keeps the flashes first
  have hsorted := mergeSort_append_of_le le_trans_ticks le_total_ticks
    (F := (List.range st.lighthouses.length).map fun (slot : Nat) =>
      ((st.cycle : Int) * cycleTicks + slot * slotSpacing, (0 : Int),
        syncLength (st.codeAt st.cycle slot)))
    (H := (st.sensors.zipIdx.filter fun p =>
        !decide (Ticks.pi / 3.0 ≤ (st.angleAt view st.cycle p.1).abs)).map fun p =>
      (st.sweepStartAt st.cycle + st.tickAt view st.cycle p.1 - st.sweepLength / 2, (p.2 : Int),
        st.sweepLength))
    ?_ ?_
  · rw [List.nil_append, hsorted, List.map_map, List.map_append]
    refine ⟨_, ?_, congrArg₂ (· ++ ·) ?_ rfl⟩
    · exact ((List.mergeSort_perm _ _).map _).trans (List.Perm.of_eq (by rw [List.map_map]; rfl))
    · rw [flashReadings, List.map_map]
      rfl
  · -- the flashes are `19200` ticks apart in slot order
    rw [List.pairwise_map]
    refine List.pairwise_lt_range.imp fun {a b} hab => ?_
    simp only [slotSpacing, cycleTicks]
    exact decide_eq_true (by omega)
  · -- a hit comes at least a sixth of a sweep, less half a pulse, after the cycle's start
    intro a ha b hb
    obtain ⟨slot, hslot, rfl⟩ := List.mem_map.mp ha
    obtain ⟨p, hp, rfl⟩ := List.mem_map.mp hb
    obtain ⟨hp, hr⟩ := List.mem_filter.mp hp
    have ht := hticks p hp (by simpa [reaches] using hr)
    have hstart : (st.cycle : Int) * cycleTicks ≤ st.sweepStartAt st.cycle := by
      have := (st.syncLength_codeAt st.cycle 0).2.2
      simp only [sweepStartAt, slotSpacing, cycleTicks]
      split_ifs <;> omega
    simp only [List.mem_range] at hslot
    simp only [slotSpacing, cycleTicks] at hstart ⊢
    exact decide_eq_true (by omega)


/-! ### The hits of a cycle -/

theorem mem_hitReadings {c : Nat} {q : Int × Int × Int} :
    q ∈ st.hitReadings view c ↔ ∃ (k : Nat) (s : Vec3), st.sensors[k]? = some s ∧ reaches (st.angleAt view c s) ∧
      q = (Ticks.wrap (st.startTimecode +
          (st.sweepStartAt c + st.tickAt view c s - st.sweepLength / 2)), (k : Int),
        st.sweepLength) := by
  simp only [hitReadings, List.mem_map, List.mem_filter, List.mem_zipIdx_iff_getElem?]
  constructor
  · rintro ⟨⟨s, k⟩, ⟨hk, hr⟩, rfl⟩
    exact ⟨k, s, hk, hr, rfl⟩
  · rintro ⟨k, s, hk, hr, rfl⟩
    exact ⟨(s, k), ⟨hk, hr⟩, rfl⟩

/-! ### A run, cycle by cycle -/

theorem cyclePulses_cycle {sweep : Bool} (h : st.cyclePulses view sweep = .ok (st', ps)) :
    st' = { st with cycle := st.cycle + 1 } := by
  unfold cyclePulses at h
  by_cases hn0 : st.lighthouses.length = 0
  · simp only [hn0, if_true] at h
    cases h
  simp only [hn0, if_false] at h
  split at h <;>
  · obtain ⟨hits, -, h⟩ := Outcome.bind_eq_ok h
    cases h
    rfl

theorem run_succ (st : SimTracker) (view : View) (N : Nat) (sweep : Bool) :
    st.run view (N + 1) sweep = (st.run view N sweep).bind fun acc =>
      (acc.1.cyclePulses view sweep).bind fun r => pure (r.1, acc.2 ++ r.2) := by
  unfold run
  rw [List.range_succ, List.foldlM_append]
  simp only [List.foldlM_cons, List.foldlM_nil, bind_pure]
  rfl

/-- A run is its cycles one after another, each from the tracker the one before left. -/
theorem run_blocks {sweep : Bool} :
    ∀ {N : Nat} {st' : SimTracker} {ps : List SimPulse}, st.run view N sweep = .ok (st', ps) →
      st' = { st with cycle := st.cycle + N } ∧
        ∃ blocks : List (List SimPulse), blocks.length = N ∧ ps = blocks.flatten ∧
          ∀ i (hi : i < blocks.length), ({ st with cycle := st.cycle + i }).cyclePulses view sweep =
            .ok ({ st with cycle := st.cycle + i + 1 }, blocks[i])
  | 0, st', ps, h => by
    cases h
    exact ⟨rfl, [], rfl, rfl, fun i hi => absurd hi (Nat.not_lt_zero i)⟩
  | N + 1, st', ps, h => by
    rw [run_succ] at h
    obtain ⟨⟨st₁, ps₁⟩, h₁, h₂⟩ := Outcome.bind_eq_ok h
    obtain ⟨⟨st₂, qs⟩, h₃, h₄⟩ := Outcome.bind_eq_ok h₂
    cases h₄
    obtain ⟨rfl, blocks, hlen, rfl, hblocks⟩ := run_blocks h₁
    have hst₂ := cyclePulses_cycle h₃
    subst hst₂
    refine ⟨rfl, blocks ++ [qs], by simp [hlen], by simp, fun i hi => ?_⟩
    by_cases hiN : i < N
    · rw [List.getElem_append_left (by omega)]
      exact hblocks i (by omega)
    · obtain rfl : i = N := by simp at hi; omega
      rw [List.getElem_append_right (by omega)]
      simpa [hlen] using h₃

end SimTracker

end Lighthouse
