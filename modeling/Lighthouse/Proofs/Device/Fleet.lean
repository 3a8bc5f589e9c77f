import Lighthouse.Device
import Lighthouse.Proofs.Receiver.Shift
import Lighthouse.Proofs.Calibration.Table
import Lighthouse.Ootx.Frame
/-!
# Trackers sharing one lighthouse table

Every tracker's device stores the records its decoders complete in one table that all trackers
share, and a slot learns its lighthouse only when the table takes the record. A `Fleet` is the
devices with their shared table, taking pulses addressed to one device or another in any
interleaving.

As long as the records offered before and decoded during a run carry no more serials than the
table has slots, the table takes every record (`Holds`: it holds the latest record of every
serial, in the order of first appearance). A device then does with a pulse what it would do with
any other table that takes the record (`Device.step_untabled`), so each device tells exactly
what it tells when it runs alone with a private table (`Alone`), and each slot has identified
the last record it decoded (`Identified`). Main statement: `shared_table_independence`.
-/
namespace Lighthouse

namespace Receiver

theorem step_channels (r : Receiver) (t s l : Int) :
    (r.step t s l).final.channels.map (·.lighthouse) = r.channels.map (·.lighthouse) ∧
      ∀ k rec, (r.step t s l).record = some (k, rec) →
        k < r.channels.length ∧ (r.step t s l).failure = none := by
  unfold step
  split
  · simp
  split
  · unfold onSync
    dsimp only
    split
    · simp [reportSweep_channels]
    · rename_i s' _
      split
      · rename_i ch hch
        simp only [clearWindow_channels, reportSweep_channels] at hch ⊢
        obtain ⟨hk, hget⟩ := List.getElem?_eq_some_iff.mp hch
        refine ⟨?_, fun k rec h => ⟨?_, by simp⟩⟩
        · apply List.ext_getElem?
          intro j
          rw [List.getElem?_map, List.getElem?_map, List.getElem?_set]
          split
          · rename_i hj
            subst hj
            simp [hk, hget]
          · rfl
        · obtain ⟨b, -, hb⟩ := Option.map_eq_some_iff.mp h
          cases hb
          exact hk
      · simp [reportSweep_channels]
  · simp [onSweep_eq]

theorem identify_lighthouse (r : Receiver) (slot k : Nat) (cal : Calibration) :
    ((r.identify slot cal).channels[k]?).bind Channel.lighthouse =
      if slot = k ∧ k < r.channels.length then some cal
      else (r.channels[k]?).bind Channel.lighthouse := by
  unfold identify
  rw [List.getElem?_modify]
  by_cases hs : slot = k
  · subst hs
    by_cases hk : slot < r.channels.length
    · simp [hk]
    · simp [hk]
  · simp [hs]

end Receiver

namespace Device

def lighthouseAt (d : Device) (k : Nat) : Option Calibration :=
  (d.receiver.channels[k]?).bind Channel.lighthouse

/-- What a device does with a pulse, apart from the table: the device it ends as and the events
it raises, each with the device as it stood. -/
def Course.untabled (c : Course) : Device × List (Device × DeviceEvent) :=
  (c.device, c.events.map fun e => (e.1, e.2.2))

def Stores (table : Table) (p : Passage) : Prop :=
  ∀ k rec, p.record = some (k, rec) → (table.update rec).2 = some rec

theorem step_untabled {d : Device} {t₁ t₂ : Table} {timecode sensor length : Int}
    (h₁ : Stores t₁ (d.receiver.step timecode sensor length))
    (h₂ : Stores t₂ (d.receiver.step timecode sensor length)) :
    (d.step t₁ timecode sensor length).untabled = (d.step t₂ timecode sensor length).untabled := by
  unfold step
  dsimp only
  generalize d.receiver.step timecode sensor length = p at h₁ h₂
  obtain ⟨report, final, record, failure⟩ := p
  dsimp only
  rcases failure with _ | f
  · rcases record with _ | ⟨k, rec⟩
    · cases report <;> rfl
    · obtain ⟨u₁, hu₁⟩ : ∃ u, t₁.update rec = (u, some rec) := ⟨_, Prod.ext rfl (h₁ k rec rfl)⟩
      obtain ⟨u₂, hu₂⟩ : ∃ u, t₂.update rec = (u, some rec) := ⟨_, Prod.ext rfl (h₂ k rec rfl)⟩
      dsimp only
      rw [hu₁, hu₂]
      cases report <;> simp [Course.untabled]
  · cases report <;> rfl

theorem step_table {d : Device} {table : Table} {timecode sensor length : Int} :
    (d.step table timecode sensor length).table =
      ((d.receiver.step timecode sensor length).record).elim table
        fun kr => (table.update kr.2).1 := by
  have hrec := (d.receiver.step_channels timecode sensor length).2
  unfold step
  dsimp only
  generalize d.receiver.step timecode sensor length = p at hrec
  obtain ⟨report, final, record, failure⟩ := p
  dsimp only at hrec ⊢
  rcases record with _ | ⟨k, rec⟩
  · rcases failure with _ | f <;> cases report <;> rfl
  · obtain ⟨-, rfl⟩ := hrec k rec rfl
    dsimp only
    show _ = (table.update rec).1
    generalize table.update rec = res
    rcases res with ⟨u, _ | stored⟩ <;> cases report <;> rfl

theorem step_lighthouseAt {d : Device} {table : Table} {timecode sensor length : Int}
    (h : Stores table (d.receiver.step timecode sensor length)) (k : Nat) :
    (d.step table timecode sensor length).device.lighthouseAt k =
      ((((d.receiver.step timecode sensor length).record).filter (·.1 == k)).map (·.2)).or
        (d.lighthouseAt k) := by
  obtain ⟨hlh, hrec⟩ := d.receiver.step_channels timecode sensor length
  have hat := Receiver.lighthouse_at hlh k
  have hlen : (d.receiver.step timecode sensor length).final.channels.length =
      d.receiver.channels.length := by simpa using congrArg List.length hlh
  unfold step lighthouseAt
  dsimp only
  generalize d.receiver.step timecode sensor length = p at h hrec hat hlen
  obtain ⟨report, final, record, failure⟩ := p
  dsimp only at h hrec hat hlen ⊢
  rcases record with _ | ⟨k', rec⟩
  · rcases failure with _ | f <;> cases report <;> simpa using hat
  · obtain ⟨hk', rfl⟩ := hrec k' rec rfl
    obtain ⟨u, hu⟩ : ∃ u, table.update rec = (u, some rec) := ⟨_, Prod.ext rfl (h k' rec rfl)⟩
    dsimp only
    rw [hu]
    by_cases hkk : k' = k
    · subst hkk
      cases report <;> simp [Receiver.identify_lighthouse, hlen, hk', Option.filter]
    · cases report <;> simp [Receiver.identify_lighthouse, hkk, hat, Option.filter]

theorem stores_ofRecords {capacity : Nat} {rs : List Calibration} {p : Passage}
    (h : Table.serialCount (rs ++ (p.record.map (·.2)).toList) ≤ capacity) :
    Stores (Table.ofRecords capacity rs) p := by
  intro k rec hr
  rw [hr] at h
  rw [Table.update_ofRecords (by simpa using h)]

theorem step_table_ofRecords {d : Device} {capacity : Nat} {rs : List Calibration}
    {timecode sensor length : Int}
    (h : Table.serialCount (rs ++ ((d.receiver.step timecode sensor length).record.map
      (·.2)).toList) ≤ capacity) :
    (d.step (Table.ofRecords capacity rs) timecode sensor length).table =
      Table.ofRecords capacity
        (rs ++ ((d.receiver.step timecode sensor length).record.map (·.2)).toList) := by
  rw [step_table]
  cases hr : (d.receiver.step timecode sensor length).record with
  | none => simp
  | some kr =>
    rw [hr] at h
    simp [Table.update_ofRecords (by simpa using h)]

end Device

/-- Trackers sharing one lighthouse table: their devices, the table, what each device has told
(with the device's index), and each record decoded (with the device and the slot it came from),
in the order it happened. -/
structure Fleet where
  devices : List Device
  table : Table
  told : List (Nat × Device × DeviceEvent) := []
  decoded : List (Nat × Nat × Calibration) := []

namespace Fleet

/-- Device `i` takes a pulse with the shared table. -/
def step (f : Fleet) (i : Nat) (timecode sensor length : Int) : Fleet :=
  match f.devices[i]? with
  | some d =>
    let c := d.step f.table timecode sensor length
    { devices := f.devices.set i c.device, table := c.table
      told := f.told ++ c.events.map fun e => (i, e.1, e.2.2)
      decoded := f.decoded ++ ((d.receiver.step timecode sensor length).record.map (i, ·)).toList }
  | none => f

/-- Takes pulses in turn, each addressed to a device by its index. -/
def run (f : Fleet) : List (Nat × Int × Int × Int) → Fleet
  | [] => f
  | (i, timecode, sensor, length) :: ps => (f.step i timecode sensor length).run ps

/-- The pulses addressed to device `i`, addressed to the only device of a fleet of one. -/
def own (i : Nat) (ps : List (Nat × Int × Int × Int)) : List (Nat × Int × Int × Int) :=
  ps.filterMap fun p => if p.1 = i then some (0, p.2) else none

/-- The records decoded, in order. -/
def records (f : Fleet) : List Calibration := f.decoded.map (·.2.2)

/-- What device `i` has told, in order. -/
def toldBy (f : Fleet) (i : Nat) : List (Device × DeviceEvent) :=
  (f.told.filter (·.1 == i)).map (·.2)

/-- The last record device `i` decoded in slot `k`. -/
def lastDecoded (f : Fleet) (i k : Nat) : Option Calibration :=
  ((f.decoded.filter fun e => e.1 == i && e.2.1 == k).getLast?).map (·.2.2)

variable {f : Fleet} {i : Nat} {d : Device} {timecode sensor length : Int}

theorem step_of_some (h : f.devices[i]? = some d) :
    f.step i timecode sensor length =
      { devices := f.devices.set i (d.step f.table timecode sensor length).device
        table := (d.step f.table timecode sensor length).table
        told := f.told ++ (d.step f.table timecode sensor length).events.map
          fun e => (i, e.1, e.2.2)
        decoded := f.decoded ++
          ((d.receiver.step timecode sensor length).record.map (i, ·)).toList } := by
  rw [step, h]

theorem step_of_none (h : f.devices[i]? = none) : f.step i timecode sensor length = f := by
  rw [step, h]

theorem length_devices_step : (f.step i timecode sensor length).devices.length =
    f.devices.length := by
  cases h : f.devices[i]? with
  | none => rw [step_of_none h]
  | some d => simp [step_of_some h]

theorem records_step_of_some (h : f.devices[i]? = some d) :
    (f.step i timecode sensor length).records =
      f.records ++ ((d.receiver.step timecode sensor length).record.map (·.2)).toList := by
  rw [step_of_some h, records]
  cases (d.receiver.step timecode sensor length).record <;> simp [records]

theorem records_prefix_step : f.records <+: (f.step i timecode sensor length).records := by
  cases h : f.devices[i]? with
  | none => rw [step_of_none h]
  | some d =>
    rw [records_step_of_some h]
    exact List.prefix_append _ _

theorem records_prefix_run (f : Fleet) (ps : List (Nat × Int × Int × Int)) :
    f.records <+: (f.run ps).records := by
  induction ps generalizing f with
  | nil => exact List.prefix_refl _
  | cons p ps ih =>
    obtain ⟨i, timecode, sensor, length⟩ := p
    exact records_prefix_step.trans (ih _)

theorem serialCount_append_le {pre l₁ l₂ : List Calibration} (h : l₁ <+: l₂) :
    Table.serialCount (pre ++ l₁) ≤ Table.serialCount (pre ++ l₂) :=
  Table.serialCount_le_of_subset (h.sublist.append_left pre).subset

/-- The shared table holds the latest record of every serial among those offered to it before
the run and those decoded since. -/
def Holds (capacity : Nat) (pre : List Calibration) (f : Fleet) : Prop :=
  f.table = Table.ofRecords capacity (pre ++ f.records)

variable {capacity : Nat} {pre : List Calibration}

theorem Holds.stores (h : Holds capacity pre f) (hd : f.devices[i]? = some d)
    (hc : Table.serialCount (pre ++ (f.step i timecode sensor length).records) ≤ capacity) :
    Device.Stores f.table (d.receiver.step timecode sensor length) := by
  rw [records_step_of_some hd, ← List.append_assoc] at hc
  rw [h]
  exact Device.stores_ofRecords hc

theorem Holds.step (h : Holds capacity pre f)
    (hc : Table.serialCount (pre ++ (f.step i timecode sensor length).records) ≤ capacity) :
    Holds capacity pre (f.step i timecode sensor length) := by
  cases hd : f.devices[i]? with
  | none => rwa [step_of_none hd]
  | some d =>
    rw [records_step_of_some hd, ← List.append_assoc] at hc
    unfold Holds at h ⊢
    rw [records_step_of_some hd, step_of_some hd]
    dsimp only
    rw [h, Device.step_table_ofRecords hc, List.append_assoc]

theorem Holds.run (h : Holds capacity pre f) (ps : List (Nat × Int × Int × Int))
    (hc : Table.serialCount (pre ++ (f.run ps).records) ≤ capacity) :
    Holds capacity pre (f.run ps) := by
  induction ps generalizing f with
  | nil => exact h
  | cons p ps ih =>
    obtain ⟨i, timecode, sensor, length⟩ := p
    exact ih (h.step ((serialCount_append_le (records_prefix_run _ ps)).trans hc)) hc

theorem lastDecoded_step_of_some (hd : f.devices[i]? = some d) (j k : Nat) :
    (f.step i timecode sensor length).lastDecoded j k =
      if i = j then
        ((((d.receiver.step timecode sensor length).record).filter (·.1 == k)).map (·.2)).or
          (f.lastDecoded j k)
      else f.lastDecoded j k := by
  rw [step_of_some hd]
  unfold lastDecoded
  dsimp only
  rw [List.filter_append, List.getLast?_append]
  cases (d.receiver.step timecode sensor length).record with
  | none => split <;> simp
  | some kr =>
    by_cases hij : i = j
    · subst hij
      by_cases hk : kr.1 = k <;> simp [Option.filter, hk]
    · simp [hij]

/-- Every slot of every device has identified the last record the device decoded in it, or, if
it has decoded none there, what it had identified before the run. -/
def Identified (ds : List Device) (f : Fleet) : Prop :=
  ∀ i k, (f.devices[i]?).bind (·.lighthouseAt k) =
    (f.lastDecoded i k).or (ds[i]?.bind (·.lighthouseAt k))

theorem Identified.step {ds : List Device} (h : Identified ds f)
    (hs : ∀ d, f.devices[i]? = some d →
      Device.Stores f.table (d.receiver.step timecode sensor length)) :
    Identified ds (f.step i timecode sensor length) := by
  intro j k
  cases hd : f.devices[i]? with
  | none => rw [step_of_none hd]; exact h j k
  | some d =>
    rw [lastDecoded_step_of_some hd]
    by_cases hij : i = j
    · subst hij
      have hi : i < f.devices.length := (List.getElem?_eq_some_iff.mp hd).1
      have hold := h i k
      rw [hd, Option.bind_some] at hold
      rw [step_of_some hd, if_pos rfl]
      dsimp only
      rw [List.getElem?_set_self hi, Option.bind_some, Device.step_lighthouseAt (hs d hd), hold,
        Option.or_assoc]
    · rw [step_of_some hd, if_neg hij]
      dsimp only
      rw [List.getElem?_set_ne hij]
      exact h j k

/-- The records device `i` has decoded, in order. -/
def recordsBy (f : Fleet) (i : Nat) : List Calibration :=
  (f.decoded.filter (·.1 == i)).map (·.2.2)

theorem recordsBy_subset (f : Fleet) (i : Nat) : f.recordsBy i ⊆ f.records := by
  intro x hx
  obtain ⟨e, he, rfl⟩ := List.mem_map.mp hx
  exact List.mem_map.mpr ⟨e, (List.mem_filter.mp he).1, rfl⟩

theorem recordsBy_step_of_some (hd : f.devices[i]? = some d) (j : Nat) :
    (f.step i timecode sensor length).recordsBy j =
      if i = j then f.recordsBy j ++
        ((d.receiver.step timecode sensor length).record.map (·.2)).toList
      else f.recordsBy j := by
  rw [step_of_some hd]
  unfold recordsBy
  cases (d.receiver.step timecode sensor length).record with
  | none => split <;> simp
  | some kr => by_cases hij : i = j <;> simp [hij]

theorem toldBy_step_of_some (hd : f.devices[i]? = some d) (j : Nat) :
    (f.step i timecode sensor length).toldBy j =
      if i = j then f.toldBy j ++ (d.step f.table timecode sensor length).untabled.2
      else f.toldBy j := by
  rw [step_of_some hd]
  unfold toldBy Device.Course.untabled
  by_cases hij : i = j
  · subst hij
    simp [List.filter_map, Function.comp_def]
  · simp [List.filter_map, Function.comp_def, hij]

/-- A fleet `g` of one device stands for device `i` of the fleet `f` run alone: the same device,
having told the same and decoded the same records, with a private table that holds them. -/
structure Alone (capacity i : Nat) (f g : Fleet) : Prop where
  device : ∃ d, f.devices[i]? = some d ∧ g.devices = [d]
  told : g.toldBy 0 = f.toldBy i
  records : g.recordsBy 0 = f.recordsBy i
  table : g.table = Table.ofRecords capacity (g.recordsBy 0)

theorem Alone.step {g : Fleet} (h : Alone capacity i f g) (hf : Holds capacity pre f) (j : Nat)
    (hc : Table.serialCount (pre ++ (f.step j timecode sensor length).records) ≤ capacity) :
    Alone capacity i (f.step j timecode sensor length)
      (if j = i then g.step 0 timecode sensor length else g) := by
  obtain ⟨d, hd, hg⟩ := h.device
  by_cases hji : j = i
  · subst hji
    have hg0 : g.devices[0]? = some d := by rw [hg]; rfl
    set new := ((d.receiver.step timecode sensor length).record.map (·.2)).toList with hnew
    have hsf := hf.stores hd hc
    have hcg : Table.serialCount (g.recordsBy 0 ++ new) ≤ capacity := by
      refine le_trans (Table.serialCount_le_of_subset ?_) hc
      rw [records_step_of_some hd, h.records]
      intro x hx
      simp only [List.mem_append] at hx ⊢
      rcases hx with hx | hx
      · exact Or.inr (Or.inl (recordsBy_subset f j hx))
      · exact Or.inr (Or.inr hx)
    have hsg : Device.Stores g.table (d.receiver.step timecode sensor length) := by
      rw [h.table]
      exact Device.stores_ofRecords hcg
    have hun := Device.step_untabled hsf hsg
    have hdev : (d.step f.table timecode sensor length).device =
        (d.step g.table timecode sensor length).device := congrArg Prod.fst hun
    have hev : (d.step f.table timecode sensor length).untabled.2 =
        (d.step g.table timecode sensor length).untabled.2 := congrArg Prod.snd hun
    rw [if_pos rfl]
    refine ⟨⟨(d.step f.table timecode sensor length).device, ?_, ?_⟩, ?_, ?_, ?_⟩
    · rw [step_of_some hd]
      exact List.getElem?_set_self (List.getElem?_eq_some_iff.mp hd).1
    · rw [step_of_some hg0, hg, hdev]
      rfl
    · rw [toldBy_step_of_some hd, toldBy_step_of_some hg0, if_pos rfl, if_pos rfl, h.told, hev]
    · rw [recordsBy_step_of_some hd, recordsBy_step_of_some hg0, if_pos rfl, if_pos rfl,
        h.records]
    · rw [recordsBy_step_of_some hg0, if_pos rfl, step_of_some hg0]
      dsimp only
      rw [h.table, Device.step_table_ofRecords hcg]
  · rw [if_neg hji]
    cases hdj : f.devices[j]? with
    | none => rwa [step_of_none hdj]
    | some dj =>
      refine ⟨⟨d, ?_, hg⟩, ?_, ?_, h.table⟩
      · rw [step_of_some hdj]
        rw [List.getElem?_set_ne hji]
        exact hd
      · rw [toldBy_step_of_some hdj, if_neg hji, h.told]
      · rw [recordsBy_step_of_some hdj, if_neg hji, h.records]

theorem own_cons (j : Nat) (p : Int × Int × Int) (ps : List (Nat × Int × Int × Int)) :
    own i ((j, p) :: ps) = if j = i then (0, p) :: own i ps else own i ps := by
  by_cases hji : j = i <;> simp [own, hji]

theorem Alone.run {g : Fleet} (h : Alone capacity i f g) (hf : Holds capacity pre f)
    (ps : List (Nat × Int × Int × Int))
    (hc : Table.serialCount (pre ++ (f.run ps).records) ≤ capacity) :
    Alone capacity i (f.run ps) (g.run (own i ps)) := by
  induction ps generalizing f g with
  | nil => exact h
  | cons p ps ih =>
    obtain ⟨j, timecode, sensor, length⟩ := p
    have hc₁ := (serialCount_append_le (records_prefix_run _ ps)).trans hc
    have hrun := ih (h.step hf j hc₁) (hf.step hc₁) hc
    rw [run, own_cons]
    by_cases hji : j = i
    · rw [if_pos hji] at hrun ⊢
      exact hrun
    · rw [if_neg hji] at hrun ⊢
      exact hrun

theorem Identified.run {ds : List Device} (h : Identified ds f) (hf : Holds capacity pre f)
    (ps : List (Nat × Int × Int × Int))
    (hc : Table.serialCount (pre ++ (f.run ps).records) ≤ capacity) :
    Identified ds (f.run ps) := by
  induction ps generalizing f with
  | nil => exact h
  | cons p ps ih =>
    obtain ⟨j, timecode, sensor, length⟩ := p
    have hc₁ := (serialCount_append_le (records_prefix_run _ ps)).trans hc
    exact ih (h.step fun _ hd => hf.stores hd hc₁) (hf.step hc₁) hc

/-- Devices that have taken no pulse yet, with a table. -/
def start (ds : List Device) (table : Table) : Fleet := { devices := ds, table }

/-- Devices sharing a table of `capacity` slots to which the records `pre` were offered, after
the pulses `ps`. -/
def shared (ds : List Device) (capacity : Nat) (pre : List Calibration)
    (ps : List (Nat × Int × Int × Int)) : Fleet :=
  (start ds ((Table.empty capacity).offerAll pre)).run ps

/-- A device alone with a private table of `capacity` slots, after the pulses `ps`. -/
def alone (d : Device) (capacity : Nat) (ps : List (Nat × Int × Int × Int)) : Fleet :=
  (start [d] (Table.empty capacity)).run ps

theorem holds_start (ds : List Device) (h : Table.serialCount pre ≤ capacity) :
    Holds capacity pre (start ds ((Table.empty capacity).offerAll pre)) := by
  rw [Holds, start, Table.empty_eq_ofRecords, Table.offerAll_ofRecords [] pre (by simpa using h)]
  simp [records]

theorem alone_start (ds : List Device) (table : Table) {i : Nat} (hi : i < ds.length) :
    Alone capacity i (start ds table) (start [ds[i]] (Table.empty capacity)) :=
  ⟨⟨ds[i], List.getElem?_eq_getElem hi, rfl⟩, rfl, rfl, Table.empty_eq_ofRecords capacity⟩

theorem identified_start (ds : List Device) (table : Table) : Identified ds (start ds table) := by
  intro i k
  simp [start, lastDecoded]

/-- Devices share a table of `capacity` slots to which the records `pre` were offered, and take
the pulses of their streams in any interleaving. As long as the records offered and those
decoded carry at most `capacity` serials, each device ends as, and tells exactly what, it does
when it takes its own pulses alone with a private table of `capacity` slots; each of its slots
has identified the last record it decoded there, or else what it had before; and the table gives
every serial its last record, holding the records in the order their serials first came. -/
theorem shared_table_independence (ds : List Device) (capacity : Nat) (pre : List Calibration)
    (ps : List (Nat × Int × Int × Int))
    (hc : Table.serialCount (pre ++ (shared ds capacity pre ps).records) ≤ capacity) :
    (∀ i (hi : i < ds.length),
      (shared ds capacity pre ps).devices[i]? = (alone ds[i] capacity (own i ps)).devices[0]? ∧
        (shared ds capacity pre ps).toldBy i = (alone ds[i] capacity (own i ps)).toldBy 0) ∧
    (∀ i k, ((shared ds capacity pre ps).devices[i]?).bind (·.lighthouseAt k) =
      ((shared ds capacity pre ps).lastDecoded i k).or (ds[i]?.bind (·.lighthouseAt k))) ∧
    (∀ serial, (shared ds capacity pre ps).table.get? serial =
      Table.lastOf (pre ++ (shared ds capacity pre ps).records) serial) ∧
    (shared ds capacity pre ps).table.records.map (·.serial) =
      ((pre ++ (shared ds capacity pre ps).records).map (·.serial)).eraseDups := by
  have hpre : Table.serialCount pre ≤ capacity :=
    (Table.serialCount_le_of_subset (List.subset_append_left _ _)).trans hc
  have h₀ := holds_start ds hpre
  have hf : Holds capacity pre (shared ds capacity pre ps) := h₀.run ps hc
  refine ⟨fun i hi => ?_, (identified_start ds _).run h₀ ps hc, fun serial => ?_, ?_⟩
  · have ha := (alone_start ds _ hi).run h₀ ps hc
    obtain ⟨d, hd, hg⟩ := ha.device
    exact ⟨by rw [shared, alone, hd, hg]; rfl, ha.told.symm⟩
  · rw [hf, Table.get?_ofRecords]
  · rw [hf, Table.records_ofRecords, Table.map_serial_latest]

/-- The bits of the frame that carries a record; none for a record that cannot be sent. -/
def frameOf (cal : Calibration) : List Bool :=
  match cal.toPayload with
  | .ok p => (Ootx.frameBits p).toOption.getD []
  | .error _ => []

/-- The sync flashes of a lighthouse alone sending `bits` from timecode `t`, one a cycle of
`400000` ticks, addressed to device `i`: each flash skips the sweep and carries the cycle's axis
and its bit. -/
def frameFlashes (i : Nat) (t : Int) (bits : List Bool) : List (Nat × Int × Int × Int) :=
  bits.zipIdx.map fun (b, c) =>
    (i, t + c * 400000, 0, syncLength (4 + (if b then 2 else 0) + (c % 2 : Nat)))

/-- Two trackers of two slots share a table of three slots that already holds the record of
`100`, and take their flashes in turn: the first the frame of `200`, the second that of `300` on
its own clock. The table takes both records after `100`, each tracker's slot identifies the
record it decoded, and the second tracker ends as, and tells what, it does alone. -/
theorem two_trackers_share_table :
    let ds := [Device.create "a" 8 2, Device.create "b" 8 2]
    let pre := [Calibration.ofSerial "100"]
    let ps := ((frameFlashes 0 1000000 (frameOf (Calibration.ofSerial "200"))).zip
      (frameFlashes 1 5000000 (frameOf (Calibration.ofSerial "300")))).flatMap fun p => [p.1, p.2]
    (Table.serialCount (pre ++ (shared ds 3 pre ps).records) ≤ 3 ∧
      (shared ds 3 pre ps).table.records.map (·.serial) = ["100", "200", "300"] ∧
      ((shared ds 3 pre ps).lastDecoded 0 0).map (·.serial) = some "200" ∧
      ((shared ds 3 pre ps).lastDecoded 1 0).map (·.serial) = some "300") ∧
    (shared ds 3 pre ps).devices[1]? = (alone (Device.create "b" 8 2) 3 (own 1 ps)).devices[0]? ∧
    (shared ds 3 pre ps).toldBy 1 = (alone (Device.create "b" 8 2) 3 (own 1 ps)).toldBy 0 ∧
    ∀ k, ((shared ds 3 pre ps).devices[0]?).bind (·.lighthouseAt k) =
      ((shared ds 3 pre ps).lastDecoded 0 k).or (ds[0]?.bind (·.lighthouseAt k)) := by
  intro ds pre ps
  have hrun : Table.serialCount (pre ++ (shared ds 3 pre ps).records) ≤ 3 ∧
      (shared ds 3 pre ps).table.records.map (·.serial) = ["100", "200", "300"] ∧
      ((shared ds 3 pre ps).lastDecoded 0 0).map (·.serial) = some "200" ∧
      ((shared ds 3 pre ps).lastDecoded 1 0).map (·.serial) = some "300" := by
    decide +kernel
  have h := shared_table_independence ds 3 pre ps hrun.1
  exact ⟨hrun, (h.1 1 (by decide)).1, (h.1 1 (by decide)).2, h.2.1 0⟩

end Fleet

end Lighthouse
