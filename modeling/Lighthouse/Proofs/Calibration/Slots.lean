import Lighthouse.Proofs.Calibration.Table
/-!
# The slots of the lighthouse table

A table changes only through `update`, so every table a program holds is an empty one that was
offered records in turn. `storedOf` lists the records that `update` stored along the way.

Whatever the records and however many serials they carry, such a table keeps its occupied slots
in front, one serial per slot. It refuses a record exactly when the record's serial is new and
every slot is taken; any other record goes to its serial's slot, or else to the first free
slot, and nothing else changes. It answers `get?` with the last stored record of a serial, holds
as many records as the stored ones have serials, and never moves a serial once it has a slot
(`slot_invariant`).
-/
namespace Lighthouse

namespace Table

theorem offerAll_append (t : Table) (rs more : List Calibration) :
    t.offerAll (rs ++ more) = (t.offerAll rs).offerAll more :=
  List.foldl_append

/-- The records `update` stores, of those offered to `t` in turn. -/
def storedOf (t : Table) : List Calibration → List Calibration
  | [] => []
  | r :: rs => (t.update r).2.toList ++ storedOf (t.update r).1 rs

/-- Whether a table holding the records `held` takes a record: its serial is held already, or
fewer than `capacity` serials are. -/
def Admits (capacity : Nat) (held : List Calibration) (r : Calibration) : Prop :=
  r.serial ∈ held.map (·.serial) ∨ serialCount held < capacity

instance (capacity : Nat) (held : List Calibration) (r : Calibration) :
    Decidable (Admits capacity held r) :=
  inferInstanceAs (Decidable (_ ∨ _))

/-! ### What `update` does to any table -/

section Update

variable {t : Table} {r : Calibration} {i : Nat}

theorem update_of_slotOf? (h : t.slotOf? r.serial = some i) :
    t.update r = (⟨t.slots.set i (some r)⟩, some r) := by
  unfold update
  rw [show t.slots.findIdx? (holds r.serial) = some i from h]

theorem update_of_free (h : t.slotOf? r.serial = none) (hf : t.slots.findIdx? Option.isNone = some i) :
    t.update r = (⟨t.slots.set i (some r)⟩, some r) := by
  unfold update
  rw [show t.slots.findIdx? (holds r.serial) = none from h, hf]

theorem update_of_full (h : t.slotOf? r.serial = none) (hf : t.slots.findIdx? Option.isNone = none) :
    t.update r = (t, none) := by
  unfold update
  rw [show t.slots.findIdx? (holds r.serial) = none from h, hf]

end Update

/-! ### The table of the records held -/

section Held

variable {capacity : Nat} {held : List Calibration} {r : Calibration} {s : String}

theorem findIdx?_latest_eq_none (h : s ∉ held.map (·.serial)) :
    (latest held).findIdx? (·.serial == s) = none := by
  rw [List.findIdx?_eq_none_iff]
  intro x hx
  have : x.serial ≠ s := fun he => h (mem_serial_latest.mp (List.mem_map.mpr ⟨x, hx, he⟩))
  simpa using this

theorem slotOf?_ofRecords (capacity : Nat) (held : List Calibration) (s : String) :
    (ofRecords capacity held).slotOf? s = (latest held).findIdx? (·.serial == s) :=
  findIdx?_holds _ _ s

theorem size_ofRecords (capacity : Nat) (held : List Calibration) :
    (ofRecords capacity held).size = serialCount held := by
  rw [size, records_ofRecords, length_latest]

theorem findIdx?_isNone_ofRecords (hc : serialCount held ≤ capacity) :
    (ofRecords capacity held).slots.findIdx? Option.isNone =
      if serialCount held < capacity then some (serialCount held) else none := by
  have hlen := length_latest held
  split
  · obtain ⟨k, hk⟩ : ∃ k, capacity - (latest held).length = k + 1 :=
      ⟨capacity - (latest held).length - 1, by omega⟩
    rw [ofRecords, hk]
    dsimp only
    rw [findIdx?_isNone, hlen]
  · rw [ofRecords, show capacity - (latest held).length = 0 by omega]
    simp

theorem serialCount_append_single (held : List Calibration) (r : Calibration) :
    serialCount (held ++ [r]) =
      if r.serial ∈ held.map (·.serial) then serialCount held else serialCount held + 1 := by
  rw [← length_latest, ← length_latest]
  split
  · rw [latest_append_of_mem ‹_›, List.length_map]
  · rw [latest_append_of_not_mem ‹_›, List.length_append, List.length_singleton]

theorem serialCount_append_admitted (hc : serialCount held ≤ capacity) (ha : Admits capacity held r) :
    serialCount (held ++ [r]) ≤ capacity := by
  rw [serialCount_append_single]
  split
  · exact hc
  · -- a new serial, so fewer than `capacity` were held
    have := ha.resolve_left ‹_›
    omega

theorem update_ofRecords_eq (hc : serialCount held ≤ capacity) (r : Calibration) :
    (ofRecords capacity held).update r =
      if Admits capacity held r then (ofRecords capacity (held ++ [r]), some r)
      else (ofRecords capacity held, none) := by
  split
  · exact update_ofRecords (serialCount_append_admitted hc ‹_›)
  · -- a new serial and every slot taken
    obtain ⟨hm, hfull⟩ : r.serial ∉ held.map (·.serial) ∧ capacity ≤ serialCount held := by
      simpa only [Admits, not_or, not_lt] using ‹¬Admits capacity held r›
    apply update_of_full
    · rw [slotOf?_ofRecords, findIdx?_latest_eq_none hm]
    · rw [findIdx?_isNone_ofRecords hc, if_neg (by omega)]

/-- A table of held records refuses a record exactly when no slot holds its serial and every slot
is taken. -/
theorem update_ofRecords_refused_iff (hc : serialCount held ≤ capacity) :
    (ofRecords capacity held).update r = (ofRecords capacity held, none) ↔
      (ofRecords capacity held).slotOf? r.serial = none ∧
        (ofRecords capacity held).size = capacity := by
  have hfree := findIdx?_isNone_ofRecords hc
  rw [size_ofRecords]
  constructor
  · intro hu
    rcases hslot : (ofRecords capacity held).slotOf? r.serial with _ | i
    · refine ⟨rfl, ?_⟩
      by_contra hne
      rw [update_of_free hslot (by rw [hfree, if_pos (by omega)])] at hu
      exact absurd (congrArg Prod.snd hu) (by simp)
    · rw [update_of_slotOf? hslot] at hu
      exact absurd (congrArg Prod.snd hu) (by simp)
  · intro hfull
    exact update_of_full hfull.1 (by rw [hfree, if_neg (by omega)])

/-- A record the table does not refuse goes to the slot of its serial, or else to the first free
slot, which comes right after the occupied ones. -/
theorem update_ofRecords_placed (hc : serialCount held ≤ capacity)
    (hr : ¬((ofRecords capacity held).slotOf? r.serial = none ∧
      (ofRecords capacity held).size = capacity)) :
    (ofRecords capacity held).update r =
      (⟨(ofRecords capacity held).slots.set
        (((ofRecords capacity held).slotOf? r.serial).getD (ofRecords capacity held).size)
          (some r)⟩, some r) := by
  rw [size_ofRecords] at hr ⊢
  rcases hslot : (ofRecords capacity held).slotOf? r.serial with _ | i
  · have hlt : serialCount held < capacity := by
      by_contra hge
      exact hr ⟨hslot, by omega⟩
    rw [update_of_free hslot (by rw [findIdx?_isNone_ofRecords hc, if_pos hlt])]
    rfl
  · rw [update_of_slotOf? hslot]
    rfl

theorem offerAll_ofRecords_storedOf (hc : serialCount held ≤ capacity) (rs : List Calibration) :
    (ofRecords capacity held).offerAll rs =
        ofRecords capacity (held ++ (ofRecords capacity held).storedOf rs) ∧
      serialCount (held ++ (ofRecords capacity held).storedOf rs) ≤ capacity := by
  induction rs generalizing held with
  | nil => simpa [offerAll, storedOf] using hc
  | cons r rs ih =>
    rw [offerAll, List.foldl_cons, ← offerAll, storedOf, update_ofRecords_eq hc]
    split
    · -- a stored record joins the held ones
      simpa using ih (serialCount_append_admitted hc ‹_›)
    · simpa using ih hc

theorem slotOf?_ofRecords_append {i : Nat} (h : (ofRecords capacity held).slotOf? s = some i)
    (more : List Calibration) : (ofRecords capacity (held ++ more)).slotOf? s = some i := by
  rw [slotOf?_ofRecords] at h ⊢
  induction more generalizing held with
  | nil => simpa using h
  | cons r more ih =>
    rw [← List.singleton_append, ← List.append_assoc]
    apply ih
    by_cases hm : r.serial ∈ held.map (·.serial)
    · -- the record replaces the one of its serial, and the serials stay in place
      rw [latest_append_of_mem hm, List.findIdx?_map, ← h]
      congr 1
      funext x
      by_cases hx : x.serial = r.serial <;> simp [hx]
    · rw [latest_append_of_not_mem hm, List.findIdx?_append, h]
      rfl

end Held

/-- The lighthouse table. Offer an empty table of `capacity` slots any records `rs` in turn, and
call the result `t`:
* its occupied slots come first and hold records of distinct serials;
* `update r` refuses `r` and leaves `t` alone exactly when no slot holds `r.serial` and every
  slot is taken;
* any other `update r` stores `r` in the slot holding `r.serial`, or else in the first free
  slot (the one after the occupied ones), changes no other slot and returns `r`;
* `get? s` is the last record of serial `s` that `update` stored, `t` holds as many records as
  the stored records have serials, and a serial with a slot keeps it whatever is offered next. -/
theorem slot_invariant (capacity : Nat) (rs : List Calibration) :
    let t := (empty capacity).offerAll rs
    (∃ occupied : List Calibration,
        t.slots = occupied.map some ++ List.replicate (capacity - occupied.length) none ∧
        t.records = occupied ∧ occupied.length ≤ capacity ∧ (occupied.map (·.serial)).Nodup) ∧
      (∀ r, t.update r = (t, none) ↔ t.slotOf? r.serial = none ∧ t.size = capacity) ∧
      (∀ r, ¬(t.slotOf? r.serial = none ∧ t.size = capacity) →
        t.update r = (⟨t.slots.set ((t.slotOf? r.serial).getD t.size) (some r)⟩, some r)) ∧
      (∀ s, t.get? s = lastOf ((empty capacity).storedOf rs) s) ∧
      t.size = serialCount ((empty capacity).storedOf rs) ∧
      (∀ s i more, t.slotOf? s = some i →
        ((empty capacity).offerAll (rs ++ more)).slotOf? s = some i) := by
  intro t
  obtain ⟨ht, hc⟩ := @offerAll_ofRecords_storedOf capacity [] (by simp [serialCount]) rs
  rw [← empty_eq_ofRecords, List.nil_append] at ht hc
  set stored := (empty capacity).storedOf rs
  replace ht : t = ofRecords capacity stored := ht
  have hsize : t.size = serialCount stored := by rw [ht, size_ofRecords]
  refine ⟨⟨latest stored, ?_, ?_, ?_, nodup_latest stored⟩, fun r => ?_, fun r hr => ?_,
    fun s => ?_, hsize, fun s i more hi => ?_⟩
  · rw [ht]
    rfl
  · rw [ht, records_ofRecords]
  · rw [length_latest]
    exact hc
  · rw [ht]
    exact update_ofRecords_refused_iff hc
  · rw [ht] at hr ⊢
    exact update_ofRecords_placed hc hr
  · rw [ht, get?_ofRecords]
  · rw [offerAll_append, show (empty capacity).offerAll rs = t from rfl, ht,
      (offerAll_ofRecords_storedOf hc more).1]
    rw [ht] at hi
    exact slotOf?_ofRecords_append hi _

end Table

end Lighthouse
