import Lighthouse.Calibration.Table
import Mathlib.Data.Finset.Card
/-!
# What the lighthouse table holds

A table that every record is offered to in turn holds, as long as the records carry no more
serials than it has slots, one record per serial: the last one offered, in a slot given to the
serial when its first record came, slots taken from the first on. `Table.latest rs` is that
list of records and `Table.ofRecords capacity rs` that table; `update_ofRecords` is the step.
-/
namespace Lighthouse

section EraseDups

variable {α : Type} [BEq α] [LawfulBEq α]

theorem nodup_eraseDups : ∀ l : List α, l.eraseDups.Nodup
  | [] => by simp [List.eraseDups]
  | a :: l => by
    rw [List.eraseDups_cons, List.nodup_cons, List.mem_eraseDups]
    exact ⟨by simp, nodup_eraseDups _⟩
termination_by l => l.length
decreasing_by exact Nat.lt_succ_of_le (List.length_filter_le _ _)

theorem eraseDups_append_single : ∀ (l : List α) (a : α),
    (l ++ [a]).eraseDups = if a ∈ l then l.eraseDups else l.eraseDups ++ [a]
  | [], a => by
    rw [List.nil_append, List.eraseDups_cons]
    rfl
  | b :: l, a => by
    have ih := eraseDups_append_single (l.filter fun x => !x == b) a
    rw [List.cons_append, List.eraseDups_cons, List.filter_append, List.eraseDups_cons]
    by_cases hab : a = b
    · subst hab
      simp
    · by_cases hm : a ∈ l <;> simp [hab, hm, ih]
termination_by l => l.length
decreasing_by exact Nat.lt_succ_of_le (List.length_filter_le _ _)

end EraseDups

namespace Table

def lastOf (rs : List Calibration) (serial : String) : Option Calibration :=
  rs.reverse.find? (·.serial == serial)

/-- The records a table keeps of those offered to it in turn: for every serial, in the order of
its first record, the last record of that serial. -/
def latest (rs : List Calibration) : List Calibration :=
  (rs.map (·.serial)).eraseDups.filterMap (lastOf rs)

def serialCount (rs : List Calibration) : Nat := (rs.map (·.serial)).toFinset.card

/-- The table of `capacity` slots holding `latest rs` from its first slot on. -/
def ofRecords (capacity : Nat) (rs : List Calibration) : Table :=
  ⟨(latest rs).map some ++ List.replicate (capacity - (latest rs).length) none⟩

theorem lastOf_append_single (rs : List Calibration) (r : Calibration) (serial : String) :
    lastOf (rs ++ [r]) serial = if r.serial = serial then some r else lastOf rs serial := by
  by_cases h : r.serial = serial <;> simp [lastOf, h]

theorem lastOf_eq_some {rs : List Calibration} {serial : String} {x : Calibration}
    (h : lastOf rs serial = some x) : x ∈ rs ∧ x.serial = serial :=
  ⟨List.mem_reverse.mp (List.mem_of_find?_eq_some h), by simpa using List.find?_some h⟩

theorem lastOf_eq_none {rs : List Calibration} {serial : String}
    (h : serial ∉ rs.map (·.serial)) : lastOf rs serial = none := by
  rw [lastOf, List.find?_eq_none]
  intro x hx hs
  exact h (List.mem_map.mpr ⟨x, List.mem_reverse.mp hx, by simpa using hs⟩)

theorem exists_lastOf {rs : List Calibration} {serial : String}
    (h : serial ∈ rs.map (·.serial)) : ∃ x, lastOf rs serial = some x := by
  obtain ⟨y, hy, rfl⟩ := List.mem_map.mp h
  exact Option.isSome_iff_exists.mp (List.find?_isSome.mpr ⟨y, List.mem_reverse.mpr hy, by simp⟩)

theorem map_serial_latest (rs : List Calibration) :
    (latest rs).map (·.serial) = (rs.map (·.serial)).eraseDups := by
  rw [latest, List.map_filterMap]
  conv_rhs => rw [← List.filterMap_some (l := (rs.map (·.serial)).eraseDups)]
  apply List.filterMap_congr
  intro s hs
  obtain ⟨x, hx⟩ := exists_lastOf (List.mem_eraseDups.mp hs)
  rw [hx, Option.map_some, (lastOf_eq_some hx).2]

theorem nodup_latest (rs : List Calibration) : ((latest rs).map (·.serial)).Nodup := by
  rw [map_serial_latest]
  exact nodup_eraseDups _

theorem mem_serial_latest {rs : List Calibration} {serial : String} :
    serial ∈ (latest rs).map (·.serial) ↔ serial ∈ rs.map (·.serial) := by
  rw [map_serial_latest, List.mem_eraseDups]

theorem length_latest (rs : List Calibration) : (latest rs).length = serialCount rs := by
  rw [serialCount, ← List.length_map (f := (·.serial)),
    ← List.toFinset_card_of_nodup (nodup_latest rs)]
  congr 1
  ext s
  simp only [List.mem_toFinset, mem_serial_latest]

theorem latest_append_of_mem {rs : List Calibration} {r : Calibration}
    (h : r.serial ∈ rs.map (·.serial)) :
    latest (rs ++ [r]) = (latest rs).map fun x => if x.serial = r.serial then r else x := by
  rw [latest, latest, List.map_append, List.map_singleton, eraseDups_append_single, if_pos h,
    List.map_filterMap]
  apply List.filterMap_congr
  intro s hs
  obtain ⟨x, hx⟩ := exists_lastOf (List.mem_eraseDups.mp hs)
  rw [lastOf_append_single, hx, Option.map_some, (lastOf_eq_some hx).2]
  by_cases e : r.serial = s
  · simp [e]
  · simp [e, Ne.symm e]

theorem latest_append_of_not_mem {rs : List Calibration} {r : Calibration}
    (h : r.serial ∉ rs.map (·.serial)) : latest (rs ++ [r]) = latest rs ++ [r] := by
  rw [latest, latest, List.map_append, List.map_singleton, eraseDups_append_single, if_neg h,
    List.filterMap_append]
  congr 1
  · apply List.filterMap_congr
    intro s hs
    rw [lastOf_append_single, if_neg]
    rintro rfl
    exact h (List.mem_eraseDups.mp hs)
  · simp [lastOf_append_single]

theorem holds_some (serial : String) : holds serial ∘ some = fun x => x.serial == serial := rfl

theorem empty_eq_ofRecords (capacity : Nat) : empty capacity = ofRecords capacity [] := by
  simp [empty, ofRecords, latest]

theorem set_eq_map_of_nodup {xs : List Calibration} (hnd : (xs.map (·.serial)).Nodup)
    {i : Nat} (hi : i < xs.length) (r : Calibration) :
    xs.set i r = xs.map fun x => if x.serial = xs[i].serial then r else x := by
  apply List.ext_getElem (by simp)
  intro j hj _
  have hj' : j < xs.length := by simpa using hj
  rw [List.getElem_set, List.getElem_map]
  by_cases hij : i = j
  · subst hij
    simp
  · have hj₁ : j < (xs.map (·.serial)).length := by simpa using hj'
    have hi₁ : i < (xs.map (·.serial)).length := by simpa using hi
    have hne : xs[j].serial ≠ xs[i].serial := by
      intro he
      have he' : (xs.map (·.serial))[j] = (xs.map (·.serial))[i] := by simpa using he
      exact hij (hnd.getElem_inj_iff.mp he').symm
    simp [hij, hne]

theorem findIdx?_holds (xs : List Calibration) (k : Nat) (serial : String) :
    ((xs.map some) ++ List.replicate k none).findIdx? (holds serial) =
      xs.findIdx? (·.serial == serial) := by
  rw [List.findIdx?_append, List.findIdx?_map, holds_some, List.findIdx?_replicate,
    if_neg (by simp [holds]), Option.map_none, Option.or_none]

theorem findIdx?_isNone (xs : List Calibration) (k : Nat) :
    ((xs.map some) ++ List.replicate (k + 1) none).findIdx? Option.isNone = some xs.length := by
  rw [List.findIdx?_append, List.findIdx?_map, List.findIdx?_eq_none_iff.mpr (by simp),
    Option.none_or, List.findIdx?_replicate, if_pos (by simp)]
  simp

/-- A record offered to the table of `rs` is stored, in its serial's slot or in the first free
slot, as long as the records then carry no more serials than there are slots. -/
theorem update_ofRecords {capacity : Nat} {rs : List Calibration} {r : Calibration}
    (h : serialCount (rs ++ [r]) ≤ capacity) :
    (ofRecords capacity rs).update r = (ofRecords capacity (rs ++ [r]), some r) := by
  have hnd := nodup_latest rs
  unfold update ofRecords
  dsimp only
  rw [findIdx?_holds]
  by_cases hm : r.serial ∈ rs.map (·.serial)
  · -- the serial's slot is the index of its record in `latest rs`
    obtain ⟨x, hx, hxs⟩ := List.mem_map.mp (mem_serial_latest.mpr hm)
    have hsome : (List.findIdx? (fun x => x.serial == r.serial) (latest rs)).isSome := by
      rw [List.findIdx?_isSome, List.any_eq_true]
      exact ⟨x, hx, by simp [hxs]⟩
    obtain ⟨i, hi⟩ := Option.isSome_iff_exists.mp hsome
    obtain ⟨hil, hir, -⟩ := List.findIdx?_eq_some_iff_getElem.mp hi
    have hxi : (latest rs)[i].serial = r.serial := by simpa using hir
    rw [hi]
    dsimp only
    rw [List.set_append, if_pos (by simpa using hil), ← List.map_set,
      set_eq_map_of_nodup hnd hil, hxi, latest_append_of_mem hm, List.length_map]
  · -- no slot holds the serial, and a free one follows the held slots
    have hlen : (latest rs).length < capacity := by
      have hcard := length_latest (rs ++ [r])
      rw [latest_append_of_not_mem hm, List.length_append, List.length_singleton] at hcard
      omega
    have hnone : List.findIdx? (fun x => x.serial == r.serial) (latest rs) = none := by
      rw [List.findIdx?_eq_none_iff]
      intro x hx
      have : x.serial ≠ r.serial := fun he => hm (mem_serial_latest.mp
        (List.mem_map.mpr ⟨x, hx, he⟩))
      simpa using this
    obtain ⟨k, hk⟩ : ∃ k, capacity - (latest rs).length = k + 1 :=
      ⟨_, (Nat.succ_pred_eq_of_pos (Nat.sub_pos_of_lt hlen)).symm⟩
    rw [hnone, hk, findIdx?_isNone]
    dsimp only
    simp [latest_append_of_not_mem hm, List.replicate_succ]
    omega

theorem serialCount_le_of_subset {rs qs : List Calibration} (h : rs ⊆ qs) :
    serialCount rs ≤ serialCount qs := by
  apply Finset.card_le_card
  intro s hs
  simp only [List.mem_toFinset, List.mem_map] at hs ⊢
  obtain ⟨x, hx, rfl⟩ := hs
  exact ⟨x, h hx, rfl⟩

def offerAll (t : Table) (rs : List Calibration) : Table :=
  rs.foldl (fun t r => (t.update r).1) t

theorem offerAll_ofRecords {capacity : Nat} (rs more : List Calibration)
    (h : serialCount (rs ++ more) ≤ capacity) :
    (ofRecords capacity rs).offerAll more = ofRecords capacity (rs ++ more) := by
  induction more generalizing rs with
  | nil => simp [offerAll]
  | cons r more ih =>
    have hr : serialCount (rs ++ [r]) ≤ capacity :=
      (serialCount_le_of_subset fun x hx => by simp at hx ⊢; tauto).trans h
    rw [offerAll, List.foldl_cons, update_ofRecords hr, ← offerAll, ih _ (by simpa using h)]
    simp

theorem find?_latest (rs : List Calibration) (serial : String) :
    (latest rs).find? (·.serial == serial) = lastOf rs serial := by
  by_cases hm : serial ∈ rs.map (·.serial)
  · obtain ⟨x, hx⟩ := exists_lastOf hm
    have hxs := (lastOf_eq_some hx).2
    have hxl : x ∈ latest rs := List.mem_filterMap.mpr ⟨serial, List.mem_eraseDups.mpr hm, hx⟩
    obtain ⟨y, hy⟩ := Option.isSome_iff_exists.mp
      (List.find?_isSome (p := fun y : Calibration => y.serial == serial) |>.mpr
        ⟨x, hxl, by simp [hxs]⟩)
    have hyx : y = x := List.inj_on_of_nodup_map (nodup_latest rs) (List.mem_of_find?_eq_some hy)
      hxl (by simpa [hxs] using List.find?_some hy)
    rw [hy, hx, hyx]
  · rw [lastOf_eq_none hm, List.find?_eq_none]
    intro x hx hs
    exact hm (mem_serial_latest.mp (List.mem_map.mpr ⟨x, hx, by simpa using hs⟩))

theorem get?_ofRecords (capacity : Nat) (rs : List Calibration) (serial : String) :
    (ofRecords capacity rs).get? serial = lastOf rs serial := by
  unfold get? ofRecords
  dsimp only
  rw [List.find?_append, List.find?_map, holds_some, find?_latest, List.find?_replicate]
  cases lastOf rs serial <;> simp [holds]

theorem records_ofRecords (capacity : Nat) (rs : List Calibration) :
    (ofRecords capacity rs).records = latest rs := by
  simp [records, ofRecords, List.filterMap_append, List.filterMap_map]

end Table

end Lighthouse
