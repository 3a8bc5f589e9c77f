/-!
# Introspective sort

The unstable sort that orders the entries of each column of a compressed sparse matrix before
duplicates are summed. Which of two equal keys comes first decides the order of a floating-point
sum, so the algorithm is fixed step by step: quicksort with the median of the second, middle
and last elements moved to the front as pivot and an unguarded partition, recursing on the right
part and looping on the left, down to parts of at most sixteen elements; heapsort for a part
once `2 ⌊log₂ n⌋` levels are spent; and one insertion pass over everything at the end, guarded
over the first sixteen elements and unguarded after them.

Every loop carries fuel computed from the length of the array, larger than the number of steps
the loop can take, so that the functions are total; the fuel never runs out.
-/
namespace Lighthouse.Introsort

variable {α : Type} [Inhabited α]

/-- Parts of at most this many elements are left to the final insertion pass. -/
def threshold : Nat := 16

def at_ (a : Array α) (i : Nat) : α := a.getD i default

/-- The array with the elements at two indices exchanged. -/
def swapAt (a : Array α) (i j : Nat) : Array α := a.swapIfInBounds i j

/-- The median of the elements at `x`, `y` and `z` moved to index `r`. -/
def medianToFirst (lt : α → α → Bool) (a : Array α) (r x y z : Nat) : Array α :=
  let ax := at_ a x
  let ay := at_ a y
  let az := at_ a z
  if lt ax ay then
    if lt ay az then swapAt a r y
    else if lt ax az then swapAt a r z
    else swapAt a r x
  else if lt ax az then swapAt a r x
  else if lt ay az then swapAt a r z
  else swapAt a r y

/-- The first index from `i` up whose element is not below `p`. -/
def skipBelow (lt : α → α → Bool) (a : Array α) (p : α) (i : Nat) : Nat → Nat
  | 0 => i
  | fuel + 1 => if i < a.size ∧ lt (at_ a i) p then skipBelow lt a p (i + 1) fuel else i

/-- The first index from `j` down whose element is not above `p`. -/
def skipAbove (lt : α → α → Bool) (a : Array α) (p : α) (j : Nat) : Nat → Nat
  | 0 => j
  | fuel + 1 => if 0 < j ∧ lt p (at_ a j) then skipAbove lt a p (j - 1) fuel else j

/-- Hoare partition of `[first, last)` around the pivot at index `pivot`, which lies just
before `first`: the result is the first index of the right part. -/
def partition (lt : α → α → Bool) (a : Array α) (first last pivot : Nat) :
    Nat → Array α × Nat
  | 0 => (a, first)
  | fuel + 1 =>
    let p := at_ a pivot
    let first := skipBelow lt a p first a.size
    let last := skipAbove lt a p (last - 1) a.size
    if first < last then partition lt (swapAt a first last) (first + 1) last pivot fuel
    else (a, first)

/-- The hole at `hole` filled from its parent chain upward with `v`, not above `top`. -/
def pushHeap (lt : α → α → Bool) (a : Array α) (base hole top : Nat) (v : α) :
    Nat → Array α
  | 0 => a.setIfInBounds (base + hole) v
  | fuel + 1 =>
    let parent := (hole - 1) / 2
    if hole > top ∧ lt (at_ a (base + parent)) v then
      pushHeap lt (a.setIfInBounds (base + hole) (at_ a (base + parent))) base parent top v fuel
    else a.setIfInBounds (base + hole) v

/-- The hole at `hole` moved down to a leaf along larger children, then `v` pushed up. -/
def adjustHeap (lt : α → α → Bool) (a : Array α) (base hole len : Nat) (v : α) : Array α :=
  let top := hole
  let rec down (a : Array α) (hole child : Nat) : Nat → Array α × Nat × Nat
    | 0 => (a, hole, child)
    | fuel + 1 =>
      if child < (len - 1) / 2 then
        let child := 2 * (child + 1)
        let child := if lt (at_ a (base + child)) (at_ a (base + (child - 1))) then child - 1
          else child
        down (a.setIfInBounds (base + hole) (at_ a (base + child))) child child fuel
      else (a, hole, child)
  let (a, hole, child) := down a hole hole len
  let (a, hole) :=
    if len % 2 = 0 ∧ child = (len - 2) / 2 then
      let child := 2 * (child + 1)
      (a.setIfInBounds (base + hole) (at_ a (base + (child - 1))), child - 1)
    else (a, hole)
  pushHeap lt a base hole top v len

/-- `[base, base + len)` arranged as a max-heap. -/
def makeHeap (lt : α → α → Bool) (a : Array α) (base len : Nat) : Array α :=
  if len < 2 then a
  else
    ((List.range ((len - 2) / 2 + 1)).reverse).foldl
      (fun a parent => adjustHeap lt a base parent len (at_ a (base + parent))) a

/-- A max-heap on `[base, base + len)` sorted by moving the top to the back repeatedly. -/
def sortHeap (lt : α → α → Bool) (a : Array α) (base len : Nat) : Array α :=
  ((List.range len).reverse.filter (· ≥ 1)).foldl
    (fun a last =>
      let v := at_ a (base + last)
      let a := a.setIfInBounds (base + last) (at_ a base)
      adjustHeap lt a base 0 last v) a

/-- Heapsort of `[first, last)`. -/
def heapSort (lt : α → α → Bool) (a : Array α) (first last : Nat) : Array α :=
  sortHeap lt (makeHeap lt a first (last - first)) first (last - first)

/-- Quicksort of `[first, last)` down to parts of at most `threshold` elements. -/
def introLoop (lt : α → α → Bool) (a : Array α) (first last depth : Nat) : Nat → Array α
  | 0 => a
  | fuel + 1 =>
    if last - first ≤ threshold then a
    else if depth = 0 then heapSort lt a first last
    else
      let mid := first + (last - first) / 2
      let a := medianToFirst lt a first (first + 1) mid (last - 1)
      let (a, cut) := partition lt a (first + 1) last first a.size
      let a := introLoop lt a cut last (depth - 1) fuel
      introLoop lt a first cut (depth - 1) fuel

/-- The element at `i` moved left past every larger element, with no lower bound check
beyond the array's start. -/
def linearInsert (lt : α → α → Bool) (a : Array α) (i : Nat) : Array α :=
  let v := at_ a i
  let rec go (a : Array α) (j : Nat) : Nat → Array α
    | 0 => a.setIfInBounds j v
    | fuel + 1 =>
      if 0 < j ∧ lt v (at_ a (j - 1)) then go (a.setIfInBounds j (at_ a (j - 1))) (j - 1) fuel
      else a.setIfInBounds j v
  go a i (i + 1)

/-- Insertion sort of `[first, last)`, an element below the first one moved straight to the
front. -/
def insertionSort (lt : α → α → Bool) (a : Array α) (first last : Nat) : Array α :=
  ((List.range (last - first)).filter (· ≥ 1)).foldl
    (fun a k =>
      let i := first + k
      let v := at_ a i
      if lt v (at_ a first) then
        -- shift `[first, i)` one place right and put `v` in front
        let a := ((List.range k).reverse).foldl
          (fun a d => a.setIfInBounds (first + d + 1) (at_ a (first + d))) a
        a.setIfInBounds first v
      else linearInsert lt a i) a

/-- The array sorted by `lt`. -/
def sort (lt : α → α → Bool) (a : Array α) : Array α :=
  let n := a.size
  if n = 0 then a
  else
    let a := introLoop lt a 0 n (2 * n.log2) (2 * n + 2)
    if n > threshold then
      let a := insertionSort lt a 0 threshold
      ((List.range (n - threshold)).map (· + threshold)).foldl (linearInsert lt) a
    else insertionSort lt a 0 n

end Lighthouse.Introsort
