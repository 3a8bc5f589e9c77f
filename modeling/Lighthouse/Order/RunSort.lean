/-!
# Run-then-insertion sort

The stable sort that a list of mapping keys goes through before the keys are listed in order.
Keys of different kinds may not be comparable, and the first comparison that fails is the one
reported, so the order of the comparisons is fixed step by step. The leading run is found first:
a strictly descending run is reversed, a nondescending one kept. Then every later element is
placed by binary search among the elements before it, the search moving right past equal
elements, which keeps the sort stable.

For fewer than sixty-four elements these are all the comparisons the list sort makes. Longer
lists are sorted the same way, which gives the same order whenever the keys are totally ordered.
The comparison runs in any monad, so that a failing comparison can end the sort.
-/
namespace Lighthouse.RunSort

variable {α : Type} {m : Type → Type} [Monad m]

/-- The length of a run continued from `prev`, counted from `n`: a descending run goes on while
each element is below the one before it, any other run while none is. -/
def runFrom (lt : α → α → m Bool) (desc : Bool) (prev : α) : List α → Nat → m Nat
  | [], n => pure n
  | x :: rest, n => do
    if (← lt x prev) == desc then runFrom lt desc x rest (n + 1) else pure n

/-- The length of the run that starts the list, and whether it strictly descends. -/
def leadingRun (lt : α → α → m Bool) (xs : List α) : m (Nat × Bool) :=
  match xs with
  | a :: b :: rest => do
    let desc ← lt b a
    pure (← runFrom lt desc b rest 2, desc)
  | _ => pure (xs.length, false)

/-- Where `pivot` goes among the sorted elements between `l` and `r`: after every element it is
not below. -/
def insertionPoint (lt : α → α → m Bool) (sorted : List α) (pivot : α) (l r : Nat) :
    Nat → m Nat
  | 0 => pure l
  | fuel + 1 =>
    if l < r then do
      let p := l + (r - l) / 2
      if ← lt pivot (sorted.getD p pivot) then insertionPoint lt sorted pivot l p fuel
      else insertionPoint lt sorted pivot (p + 1) r fuel
    else pure l

/-- The list sorted stably by `lt`. -/
def sort (lt : α → α → m Bool) (xs : List α) : m (List α) := do
  let (n, desc) ← leadingRun lt xs
  let run := if desc then (xs.take n).reverse else xs.take n
  (xs.drop n).foldlM (fun acc x => do
    let i ← insertionPoint lt acc x 0 acc.length (acc.length + 1)
    pure (acc.take i ++ x :: acc.drop i)) run

end Lighthouse.RunSort
