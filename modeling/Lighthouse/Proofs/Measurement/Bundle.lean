import Lighthouse.Proofs.Binary64.Defined
import Lighthouse.Measurement
/-!
# Bundling measurements by cell

`Bundle.ofMeasurements` files each angle of each measurement in the cell of five keys: tracker,
lighthouse, time bin, sensor and axis, bins matching as numbers (`Cell.at`). Looking up a cell
gives the angles of exactly the pulses of its sensor in the measurements of its tracker,
lighthouse and axis whose time falls in its bin, in measurement order and then pulse order
(`Bundle.binnedAngles`), and every cell of the bundle is the one its own keys find
(`ofMeasurements_cells`).

A time is binned when the time over the resolution is finite (`timeBin_isOk_iff`). A finite time
over a finite resolution can still overflow, and then the whole bundling fails.
-/
namespace Lighthouse

open Binary64

/-! ### Time bins -/

section TimeBin

variable {t res : Float}

theorem float_isFinite_iff (x : Float) :
    x.isFinite = true ↔ x.isNaN = false ∧ x.isInf = false := by
  change x.toModel.unpack.isFinite = true ↔
    x.toModel.unpack.isNaN = false ∧ x.toModel.unpack.isInf = false
  cases x.toModel.unpack <;>
    simp [Float.Model.UnpackedFloat.isFinite, Float.Model.UnpackedFloat.isNaN,
      Float.Model.UnpackedFloat.isInf]

theorem timeBin_eq_ok (hres : 0 < res) (hq : (t / res).isFinite = true) :
    timeBin t res = .ok (roundToEven (t / res) * res) := by
  obtain ⟨hnan, hinf⟩ := (float_isFinite_iff _).mp hq
  simp only [timeBin, beq_zero_of_pos hres, hnan, hinf, Bool.false_eq_true, ↓reduceIte]

/-- A positive resolution bins a time exactly when the time over the resolution is finite. -/
theorem timeBin_isOk_iff (hres : 0 < res) :
    (∃ v, timeBin t res = .ok v) ↔ (t / res).isFinite = true := by
  refine ⟨fun ⟨v, h⟩ => ?_, fun hq => ⟨_, timeBin_eq_ok hres hq⟩⟩
  rw [timeBin, beq_zero_of_pos hres] at h
  simp only [Bool.false_eq_true, ↓reduceIte] at h
  split_ifs at h with hnan hinf
  · exact (float_isFinite_iff _).mpr ⟨Bool.eq_false_iff.mpr hnan, Bool.eq_false_iff.mpr hinf⟩

theorem timeBin_isNaN {v : Float} (hres : 0 < res) (hfin : res.isFinite = true)
    (h : timeBin t res = .ok v) : v.isNaN = false := by
  rw [timeBin_eq_ok hres ((timeBin_isOk_iff hres).mp ⟨v, h⟩)] at h
  cases h
  obtain ⟨m, e, hm, hu⟩ : ∃ m e hm, res.toModel.unpack = .finite .positive m e hm := by
    rcases (float_pos_iff res).mp hres with hu | hu
    · exact hu
    · change res.toModel.unpack.isFinite = true at hfin
      rw [hu] at hfin
      cases hfin
  exact mul_isNaN_of_finite (ofInt_isNaN _) hu

end TimeBin

/-! ### Matching keys -/

namespace Cell

variable {c d : Cell} {tracker lighthouse : String} {bin : Float} {sensor axis : Int}

theorem at_comm (c d : Cell) :
    c.at d.tracker d.lighthouse d.bin d.sensor d.axis =
      d.at c.tracker c.lighthouse c.bin c.sensor c.axis := by
  simp only [Cell.at, float_beq_comm c.bin, BEq.comm (a := c.tracker), BEq.comm (a := c.lighthouse),
    BEq.comm (a := c.sensor), BEq.comm (a := c.axis)]

theorem at_trans (hcd : c.at d.tracker d.lighthouse d.bin d.sensor d.axis = true)
    (hd : d.at tracker lighthouse bin sensor axis = true) :
    c.at tracker lighthouse bin sensor axis = true := by
  simp only [Cell.at, Bool.and_eq_true, beq_iff_eq] at hcd hd ⊢
  obtain ⟨⟨⟨⟨h₁, h₂⟩, h₃⟩, h₄⟩, h₅⟩ := hcd
  obtain ⟨⟨⟨⟨k₁, k₂⟩, k₃⟩, k₄⟩, k₅⟩ := hd
  exact ⟨⟨⟨⟨h₁.trans k₁, h₂.trans k₂⟩, float_beq_trans h₃ k₃⟩, h₄.trans k₄⟩, h₅.trans k₅⟩

theorem at_self (h : c.bin.isNaN = false) :
    c.at c.tracker c.lighthouse c.bin c.sensor c.axis = true := by
  simp [Cell.at, float_beq_self h]

theorem at_of_at (hcd : c.at d.tracker d.lighthouse d.bin d.sensor d.axis = true)
    (hc : c.at tracker lighthouse bin sensor axis = true) :
    d.at tracker lighthouse bin sensor axis = true :=
  at_trans (by rw [at_comm]; exact hcd) hc

end Cell

/-! ### Filing angles -/

namespace Bundle

/-- The angles bundling should file under five keys: those of the pulses of `sensor` in the
measurements of `tracker`, `lighthouse` and `axis` whose time falls in `bin`, in measurement order
and then pulse order. -/
def binnedAngles (ms : List Measurement) (res : Float) (tracker lighthouse : String) (bin : Float)
    (sensor axis : Int) : List Float :=
  ms.flatMap fun m =>
    match timeBin m.timestamp res with
    | .ok t =>
      if m.light.tracker = tracker ∧ m.light.lighthouse = lighthouse ∧ m.light.axis = axis ∧
          (t == bin) = true then
        (m.light.pulses.filter (·.sensor = sensor)).map (·.angle)
      else []
    | .error _ => []

variable (tracker lighthouse : String) (bin : Float) (sensor axis : Int) (angle : Float)
  (tr lh : String) (bin' : Float) (s a : Int)

theorem angles?_add (b : Bundle) :
    ((b.add tracker lighthouse bin sensor axis angle).angles? tr lh bin' s a).getD [] =
      (b.angles? tr lh bin' s a).getD [] ++
        if (⟨tracker, lighthouse, bin, sensor, axis, []⟩ : Cell).at tr lh bin' s a then [angle]
        else [] := by
  unfold add angles?
  split
  · -- a cell of the angle's keys is there, and every such cell takes the angle
    rename_i hany
    obtain ⟨d, hd, hdk⟩ := List.any_eq_true.mp hany
    rw [List.find?_map]
    have hkeys : ((fun c : Cell => c.at tr lh bin' s a) ∘ fun c : Cell =>
        if c.at tracker lighthouse bin sensor axis then { c with angles := c.angles ++ [angle] }
        else c) = fun c => c.at tr lh bin' s a := by
      funext c
      simp only [Function.comp]
      split <;> rfl
    rw [hkeys]
    cases hf : b.find? (fun c => c.at tr lh bin' s a) with
    | none =>
      -- the looked-up keys are not the angle's: the cell of the angle's keys would be found
      have hk : (⟨tracker, lighthouse, bin, sensor, axis, []⟩ : Cell).at tr lh bin' s a = false := by
        rw [Bool.eq_false_iff]
        intro hk
        exact absurd (Cell.at_trans (d := ⟨tracker, lighthouse, bin, sensor, axis, []⟩) hdk hk)
          (by simpa using List.find?_eq_none.mp hf d hd)
      simp [hk]
    | some c =>
      have hc := List.find?_some hf
      by_cases hck : c.at tracker lighthouse bin sensor axis = true
      · have hk := Cell.at_of_at (d := ⟨tracker, lighthouse, bin, sensor, axis, []⟩) hck hc
        simp [hck, hk]
      · have hk : (⟨tracker, lighthouse, bin, sensor, axis, []⟩ : Cell).at tr lh bin' s a = false := by
          rw [Bool.eq_false_iff]
          intro hk
          exact hck (Cell.at_trans (d := ⟨tr, lh, bin', s, a, []⟩) hc
            ((Cell.at_comm ⟨tr, lh, bin', s, a, []⟩ ⟨tracker, lighthouse, bin, sensor, axis, []⟩).trans hk))
        simp [hck, hk]
  · -- no cell of the angle's keys: a new one opens at the end
    rename_i hany
    rw [List.find?_append]
    cases hf : b.find? (fun c => c.at tr lh bin' s a) with
    | some c =>
      have hc := List.find?_some hf
      have hk : (⟨tracker, lighthouse, bin, sensor, axis, []⟩ : Cell).at tr lh bin' s a = false := by
        rw [Bool.eq_false_iff]
        intro hk
        have hck := Cell.at_trans (d := ⟨tr, lh, bin', s, a, []⟩) hc
            ((Cell.at_comm ⟨tr, lh, bin', s, a, []⟩ ⟨tracker, lighthouse, bin, sensor, axis, []⟩).trans hk)
        exact hany (List.any_eq_true.mpr ⟨c, List.mem_of_find?_eq_some hf, hck⟩)
      simp [hk]
    | none =>
      have hnew : (⟨tracker, lighthouse, bin, sensor, axis, [angle]⟩ : Cell).at tr lh bin' s a =
          (⟨tracker, lighthouse, bin, sensor, axis, []⟩ : Cell).at tr lh bin' s a := rfl
      cases hk : (⟨tracker, lighthouse, bin, sensor, axis, []⟩ : Cell).at tr lh bin' s a <;>
        simp [hnew, hk]

theorem angles?_foldl_add (l : Light) (t : Float) :
    ∀ (ps : List Pulse) (b : Bundle),
    ((ps.foldl (fun b p => b.add l.tracker l.lighthouse t p.sensor l.axis p.angle) b).angles?
        tr lh bin' s a).getD [] =
      (b.angles? tr lh bin' s a).getD [] ++
        (ps.filter fun p =>
          (⟨l.tracker, l.lighthouse, t, p.sensor, l.axis, []⟩ : Cell).at tr lh bin' s a).map
            (·.angle)
  | [], b => by simp
  | p :: ps, b => by
    rw [List.foldl_cons, angles?_foldl_add l t ps, angles?_add, List.filter_cons]
    split <;> simp [*]

theorem filter_at_map (l : Light) (t : Float) (ps : List Pulse) :
    (ps.filter fun p =>
        (⟨l.tracker, l.lighthouse, t, p.sensor, l.axis, []⟩ : Cell).at tr lh bin' s a).map
          (·.angle) =
      if l.tracker = tr ∧ l.lighthouse = lh ∧ l.axis = a ∧ (t == bin') = true then
        (ps.filter (·.sensor = s)).map (·.angle)
      else [] := by
  split_ifs with hk
  · obtain ⟨rfl, rfl, rfl, hb⟩ := hk
    congr 1
    apply List.filter_congr
    intro p _
    rw [Bool.eq_iff_iff]
    simp [Cell.at, hb]
  · rw [List.map_eq_nil_iff, List.filter_eq_nil_iff]
    intro p _ hp
    simp only [Cell.at, Bool.and_eq_true, beq_iff_eq] at hp
    exact hk ⟨hp.1.1.1.1, hp.1.1.1.2, hp.2, hp.1.1.2⟩

/-- What filing keeps of a bundle's cells: each holds an angle, each bin is a number, and no two
cells have matching keys. -/
structure Cells (b : Bundle) : Prop where
  nonempty : ∀ c ∈ b, c.angles ≠ []
  binNumber : ∀ c ∈ b, c.bin.isNaN = false
  distinct : b.Pairwise fun c d => d.at c.tracker c.lighthouse c.bin c.sensor c.axis = false

theorem Cells.nil : Cells [] := ⟨by simp, by simp, .nil⟩

theorem Cells.add {b : Bundle} (h : Cells b) (hbin : bin.isNaN = false) :
    Cells (b.add tracker lighthouse bin sensor axis angle) := by
  unfold Bundle.add
  split
  · -- the angle joins cells already there, whose keys stay as they were
    refine ⟨fun c hc => ?_, fun c hc => ?_, ?_⟩
    · obtain ⟨d, hd, rfl⟩ := List.mem_map.mp hc
      split
      · simp
      · exact h.nonempty d hd
    · obtain ⟨d, hd, rfl⟩ := List.mem_map.mp hc
      split <;> exact h.binNumber d hd
    · rw [List.pairwise_map]
      exact h.distinct.imp fun hcd => by split <;> split <;> exact hcd
  · -- a new cell opens at the end, matching no cell before it
    rename_i hany
    refine ⟨fun c hc => ?_, fun c hc => ?_, ?_⟩
    · rcases List.mem_append.mp hc with hc | hc
      · exact h.nonempty c hc
      · rw [List.mem_singleton.mp hc]
        simp
    · rcases List.mem_append.mp hc with hc | hc
      · exact h.binNumber c hc
      · rw [List.mem_singleton.mp hc]
        exact hbin
    · refine List.pairwise_append.mpr ⟨h.distinct, List.pairwise_singleton _ _, fun c hc d hd => ?_⟩
      rw [List.mem_singleton.mp hd, Cell.at_comm]
      exact Bool.eq_false_iff.mpr (List.any_eq_false.mp (Bool.eq_false_iff.mpr hany) c hc)

theorem Cells.foldl_add (l : Light) {t : Float} (ht : t.isNaN = false) :
    ∀ (ps : List Pulse) {b : Bundle}, Cells b →
      Cells (ps.foldl (fun b p => b.add l.tracker l.lighthouse t p.sensor l.axis p.angle) b)
  | [], _, h => h
  | _ :: ps, _, h => Cells.foldl_add l ht ps (h.add _ _ _ _ _ _ ht)

theorem angles?_of_mem {c : Cell} : ∀ {b : Bundle}, (∀ d ∈ b, d.bin.isNaN = false) →
    b.Pairwise (fun c d => d.at c.tracker c.lighthouse c.bin c.sensor c.axis = false) → c ∈ b →
    b.angles? c.tracker c.lighthouse c.bin c.sensor c.axis = some c.angles
  | d :: b, hbin, hd, hc => by
    rw [List.pairwise_cons] at hd
    unfold angles?
    simp only [List.find?_cons]
    rcases List.mem_cons.mp hc with rfl | hc
    · rw [Cell.at_self (hbin _ List.mem_cons_self)]
      rfl
    · rw [Cell.at_comm d c, hd.1 c hc]
      exact angles?_of_mem (fun d hd => hbin d (.tail _ hd)) hd.2 hc

theorem Cells.angles?_self {b : Bundle} (h : Cells b) {c : Cell} (hc : c ∈ b) :
    b.angles? c.tracker c.lighthouse c.bin c.sensor c.axis = some c.angles :=
  angles?_of_mem h.binNumber h.distinct hc

/-- One measurement filed into a bundle, as bundling files it. -/
def fileMeasurement (res : Float) (b : Bundle) (m : Measurement) : Outcome Bundle := do
  let t ← timeBin m.timestamp res
  pure (m.light.pulses.foldl (fun b p =>
    b.add m.light.tracker m.light.lighthouse t p.sensor m.light.axis p.angle) b)

theorem ofMeasurements_of_not_le (ms : List Measurement) {res : Float} (h : ¬res ≤ 0.0) :
    ofMeasurements ms res = ms.foldlM (fileMeasurement res) [] := by
  rw [ofMeasurements, if_neg h]
  rfl

section Filing

variable {res : Float}

theorem foldlM_fileMeasurement (hres : 0 < res) (hfin : res.isFinite = true) :
    ∀ (ms : List Measurement) {b : Bundle}, (∀ m ∈ ms, (m.timestamp / res).isFinite = true) →
      Cells b → ∃ b', ms.foldlM (fileMeasurement res) b = .ok b' ∧ Cells b' ∧
        ∀ tr lh bin' s a, (b'.angles? tr lh bin' s a).getD [] =
          (b.angles? tr lh bin' s a).getD [] ++ binnedAngles ms res tr lh bin' s a
  | [], b, _, h => ⟨b, rfl, h, by simp [binnedAngles]⟩
  | m :: ms, b, hms, h => by
    have ht := timeBin_eq_ok hres (hms m List.mem_cons_self)
    have htn := timeBin_isNaN hres hfin ht
    obtain ⟨b', hb', hc', hang⟩ := foldlM_fileMeasurement hres hfin ms
      (fun m' hm' => hms m' (.tail _ hm')) (h.foldl_add m.light htn m.light.pulses)
    refine ⟨b', ?_, hc', fun tr lh bin' s a => ?_⟩
    · rw [List.foldlM_cons]
      simp only [fileMeasurement, ht]
      exact hb'
    · rw [hang, angles?_foldl_add, filter_at_map, List.append_assoc]
      simp [binnedAngles, ht]

theorem foldlM_fileMeasurement_binned (hres : 0 < res) :
    ∀ (ms : List Measurement) {b b' : Bundle}, ms.foldlM (fileMeasurement res) b = .ok b' →
      ∀ m ∈ ms, (m.timestamp / res).isFinite = true
  | [], _, _, _ => by simp
  | m :: ms, b, b', h => by
    rw [List.foldlM_cons] at h
    cases ht : timeBin m.timestamp res with
    | error f =>
      simp only [fileMeasurement, ht] at h
      cases h
    | ok t =>
      intro m' hm'
      rcases List.mem_cons.mp hm' with rfl | hm'
      · exact (timeBin_isOk_iff hres).mp ⟨t, ht⟩
      · simp only [fileMeasurement, ht] at h
        exact foldlM_fileMeasurement_binned hres ms h m' hm'

end Filing

end Bundle

open Lighthouse.Bundle in
/-- Bundling refuses a resolution at or below zero. At a finite positive one it succeeds exactly
when every time over the resolution is finite, and then the angles under any five keys are those
`binnedAngles` gives, and every cell holds an angle and is the one its own keys find, so no cell
lies outside what `binnedAngles` files. -/
theorem ofMeasurements_cells (ms : List Measurement) (res : Float) :
    (res ≤ 0.0 → ofMeasurements ms res =
      .error (Fault.value s!"resolution must be positive, got {Json.floatShown res}")) ∧
    (0 < res → res.isFinite = true →
      ((∃ b, ofMeasurements ms res = .ok b) ↔ ∀ m ∈ ms, (m.timestamp / res).isFinite = true) ∧
      ∀ b, ofMeasurements ms res = .ok b →
        (∀ tracker lighthouse bin sensor axis,
          (b.angles? tracker lighthouse bin sensor axis).getD [] =
            binnedAngles ms res tracker lighthouse bin sensor axis) ∧
        ∀ c ∈ b, c.angles ≠ [] ∧
          b.angles? c.tracker c.lighthouse c.bin c.sensor c.axis = some c.angles) := by
  refine ⟨fun hle => by rw [ofMeasurements, if_pos hle], fun hres hfin => ?_⟩
  have hfold := ofMeasurements_of_not_le ms (float_not_le_of_lt hres)
  refine ⟨⟨fun ⟨b, hb⟩ => ?_, fun hms => ?_⟩, fun b hb => ?_⟩
  · rw [hfold] at hb
    exact foldlM_fileMeasurement_binned hres ms hb
  · obtain ⟨b, hb, -⟩ := foldlM_fileMeasurement hres hfin ms hms Cells.nil
    exact ⟨b, hfold.trans hb⟩
  · rw [hfold] at hb
    obtain ⟨b', hb', hcells, hang⟩ := foldlM_fileMeasurement hres hfin ms
      (foldlM_fileMeasurement_binned hres ms hb) Cells.nil
    obtain rfl : b = b' := Except.ok.inj (hb.symm.trans hb')
    refine ⟨fun tr lh bin s a => by simpa [angles?] using hang tr lh bin s a, fun c hc => ?_⟩
    exact ⟨hcells.nonempty c hc, hcells.angles?_self hc⟩

/-- One light of two pulses of one sensor at a quarter second, binned by tenths: both angles land
in the bin of a fifth of a second. -/
theorem quarter_second_bundle :
    ∃ b, Bundle.ofMeasurements
        [⟨0.25, ⟨"A", "L1", 0, 0, [⟨0, 0.5, 1e-5, 0⟩, ⟨0, 0.75, 1e-5, 0⟩]⟩⟩] 0.1 = .ok b ∧
      ((b.angles? "A" "L1" 0.2 0 0).getD [] == [0.5, 0.75]) = true := by
  obtain ⟨hok, hcells⟩ := (ofMeasurements_cells
    [⟨0.25, ⟨"A", "L1", 0, 0, [⟨0, 0.5, 1e-5, 0⟩, ⟨0, 0.75, 1e-5, 0⟩]⟩⟩] 0.1).2
    (by decide +kernel) (by decide +kernel)
  obtain ⟨b, hb⟩ := hok.mpr (by simp only [List.mem_singleton, forall_eq]; decide +kernel)
  refine ⟨b, hb, ?_⟩
  rw [(hcells b hb).1]
  decide +kernel

/-- A finite time over a finite positive resolution can still overflow, and then bundling fails
as a whole. -/
theorem tiny_resolution_overflows :
    (1e300 : Float).isFinite = true ∧ 0 < (1e-300 : Float) ∧ (1e-300 : Float).isFinite = true ∧
      Bundle.ofMeasurements
        [⟨1e300, ⟨"A", "L1", 0, 0, [⟨0, 0.5, 1e-5, 0⟩]⟩⟩] 1e-300 =
        .error (Fault.overflow "cannot convert float infinity to integer") := by
  refine ⟨by decide +kernel, by decide +kernel, by decide +kernel, ?_⟩
  have h : (match Bundle.ofMeasurements
      [⟨1e300, ⟨"A", "L1", 0, 0, [⟨0, 0.5, 1e-5, 0⟩]⟩⟩] 1e-300 with
    | .error f => decide (f.kind = .overflow) &&
        f.message == "cannot convert float infinity to integer"
    | .ok _ => false) = true := by decide +kernel
  split at h
  · rename_i f hf
    simp only [Bool.and_eq_true, decide_eq_true_eq, beq_iff_eq] at h
    rw [hf, Fault.overflow, ← h.1, ← h.2]
  · cases h

end Lighthouse
