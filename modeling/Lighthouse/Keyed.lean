/-!
# Keyed lists read as mappings

Lighthouses, trackers and their transforms often arrive as a list of keyed entries that stands
for a mapping from key to value. `Keyed.collapse` gives that mapping as a list: each key keeps
the place of its first entry and takes the value of its last, which is what a mapping filled
entry by entry holds. Every key of the result is distinct, and the order of the first
appearances decides which lighthouse comes first.
-/
namespace Lighthouse.Keyed

variable {κ α : Type} [BEq κ]

/-- Sets the value of a key: in place when present, else at the end. -/
def set (xs : List (κ × α)) (k : κ) (v : α) : List (κ × α) :=
  if xs.any (·.1 == k) then xs.map fun p => if p.1 == k then (k, v) else p
  else xs ++ [(k, v)]

/-- The mapping filled by the entries in order. -/
def collapse (xs : List (κ × α)) : List (κ × α) :=
  xs.foldl (fun acc p => set acc p.1 p.2) []

end Lighthouse.Keyed
