import Lighthouse.Calibration.Record
/-!
# The lighthouse table

All trackers share one table of known lighthouses with a fixed number of slots. A record goes
to the slot that already holds its serial, or else to the first free slot; when every slot
holds another serial it is dropped. A slot, once given to a serial, keeps it.
-/
namespace Lighthouse

/-- A fixed number of slots, each empty or holding a record. -/
structure Table where
  slots : List (Option Calibration)
  deriving Inhabited

namespace Table

/-- An empty table with `capacity` slots (none for a negative capacity). -/
def empty (capacity : Int) : Table := ⟨List.replicate capacity.toNat none⟩

def holds (serial : String) : Option Calibration → Bool
  | some r => r.serial == serial
  | none => false

/-- Stores a record: in the slot holding its serial, else in the first free slot. Gives the
updated table and the stored record, or the table unchanged and none when no slot is left. -/
def update (t : Table) (r : Calibration) : Table × Option Calibration :=
  match t.slots.findIdx? (holds r.serial) with
  | some i => (⟨t.slots.set i (some r)⟩, some r)
  | none =>
    match t.slots.findIdx? Option.isNone with
    | some i => (⟨t.slots.set i (some r)⟩, some r)
    | none => (t, none)

def get? (t : Table) (serial : String) : Option Calibration :=
  (t.slots.find? (holds serial)).join

def slotOf? (t : Table) (serial : String) : Option Nat :=
  t.slots.findIdx? (holds serial)

/-- The stored records in slot order. -/
def records (t : Table) : List Calibration := t.slots.filterMap id

def size (t : Table) : Nat := t.records.length

end Table

end Lighthouse
