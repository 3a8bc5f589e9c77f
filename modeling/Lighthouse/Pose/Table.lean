import Lighthouse.Json.Basic
/-!
# Tables of tracker poses

Pose estimation yields, for each tracker, time bin and lighthouse, the tracker's pose in that
lighthouse's frame as six numbers. A `PoseTable` keeps them nested in that order, each level in
the order its keys first arrived; setting a pose again replaces it in place.
-/
namespace Lighthouse

/-- Poses by tracker, then time bin, then lighthouse, each level in first-arrival order. -/
structure PoseTable where
  trackers : List (String × List (Float × List (String × List Float))) := []
  deriving Inhabited

namespace PoseTable

/-- A value set under a key of an association list, in place if the key is present. -/
def setIn {κ β : Type} [BEq κ] (xs : List (κ × β)) (k : κ) (f : Option β → β) : List (κ × β) :=
  match xs.find? (·.1 == k) with
  | some (_, v) => xs.map fun p => if p.1 == k then (p.1, f (some v)) else p
  | none => xs ++ [(k, f none)]

/-- The table with a pose set for a tracker, bin and lighthouse. -/
def insert (t : PoseTable) (tracker : String) (bin : Float) (lighthouse : String)
    (pose : List Float) : PoseTable :=
  ⟨setIn t.trackers tracker fun bins =>
    setIn (bins.getD []) bin fun lhs => setIn (lhs.getD []) lighthouse fun _ => pose⟩

/-- Every pose with its tracker, bin and lighthouse, in table order. -/
def entries (t : PoseTable) : List (String × Float × String × List Float) :=
  t.trackers.flatMap fun (tr, bins) =>
    bins.flatMap fun (b, lhs) => lhs.map fun (lh, p) => (tr, b, lh, p)

/-- Every pose with its tracker, bin and lighthouse, sorted by tracker, then bin, then
lighthouse. -/
def sortedEntries (t : PoseTable) : List (String × Float × String × List Float) :=
  t.entries.mergeSort fun (a1, b1, c1, _) (a2, b2, c2, _) =>
    if a1 != a2 then a1 < a2 else if !(b1 == b2) then b1 < b2 else c1 ≤ c2

/-- The poses as a document: `[tracker, bin, lighthouse, pose]` for each, sorted. -/
def toJson (t : PoseTable) : Json :=
  .arr (t.sortedEntries.map fun (tr, bin, lh, v) =>
    Json.arr [.str tr, .float bin, .str lh, .arr (v.map .float)])

def size (t : PoseTable) : Nat := t.entries.length

end PoseTable

end Lighthouse
