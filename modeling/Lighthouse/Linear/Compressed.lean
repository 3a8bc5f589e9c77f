import Lighthouse.Order.Introsort
/-!
# Sparse matrices by columns

The normal equations are assembled from triplets `(row, column, value)`, several of which may
name the same entry. `ColumnMatrix.ofTriplets` keeps each column's entries in the order given;
if the rows of any column are out of order, every column is sorted by row with the introspective
sort, and then the runs of equal rows are summed from left to right. Explicit zeros stay.
`addDiagonal` adds a diagonal matrix whose zero entries are absent, and drops every entry of the
sum that is zero.
-/
namespace Lighthouse.Linear

/-- A square matrix held by columns: each column's nonzero entries as `(row, value)`, rows
increasing. -/
structure ColumnMatrix where
  size : Nat
  cols : List (List (Nat × Float))
  deriving Inhabited

namespace ColumnMatrix

def rowsInOrder : List (Nat × Float) → Bool
  | a :: b :: rest => a.1 ≤ b.1 && rowsInOrder (b :: rest)
  | _ => true

/-- Adjacent entries of one row summed left to right, accumulating from the first. -/
def sumRunsLeft (es : List (Nat × Float)) : List (Nat × Float) :=
  (es.foldl (fun (acc : List (Nat × Float)) (e : Nat × Float) =>
    match acc with
    | (r, x) :: more => if r = e.1 then (r, x + e.2) :: more else e :: acc
    | [] => [e]) []).reverse

/-- A matrix of size `n` from triplets `(row, column, value)`, duplicates summed. -/
def ofTriplets (n : Nat) (ts : List (Nat × Nat × Float)) : ColumnMatrix :=
  let cols := (List.range n).map fun c =>
    (ts.filter fun t => t.2.1 = c).map fun t => (t.1, t.2.2)
  let cols := if cols.all rowsInOrder then cols
    else cols.map fun col =>
      (Introsort.sort (fun (a b : Nat × Float) => decide (a.1 < b.1)) col.toArray).toList
  ⟨n, cols.map sumRunsLeft⟩

/-- The entry at a row of a column, zero when absent. -/
def get (m : ColumnMatrix) (r c : Nat) : Float :=
  match ((m.cols.getD c []).find? fun e => e.1 = r) with
  | some e => e.2
  | none => 0.0

def diagonal (m : ColumnMatrix) : List Float := (List.range m.size).map fun i => m.get i i

/-- The entry `a` of a sorted column, followed by `as`, added to a sorted column: entries of the
second column at lower rows come first, and `rest` adds `as` to what is left of the second
column once `a` is placed. -/
def mergeAddFrom (a : Nat × Float) (as : List (Nat × Float))
    (rest : List (Nat × Float) → List (Nat × Float)) :
    List (Nat × Float) → List (Nat × Float)
  | [] => ((a :: as).map fun e => (e.1, e.2 + 0.0)).filter fun e => e.2 != 0.0
  | b :: bs =>
    if a.1 = b.1 then
      let s := a.2 + b.2
      if s != 0.0 then (a.1, s) :: rest bs else rest bs
    else if a.1 < b.1 then
      let s := a.2 + 0.0
      if s != 0.0 then (a.1, s) :: rest (b :: bs) else rest (b :: bs)
    else
      let s := 0.0 + b.2
      if s != 0.0 then (b.1, s) :: mergeAddFrom a as rest bs else mergeAddFrom a as rest bs

/-- Two sorted columns added entry by entry, zero sums dropped. -/
def mergeAdd : List (Nat × Float) → List (Nat × Float) → List (Nat × Float)
  | [], bs => (bs.map fun e => (e.1, 0.0 + e.2)).filter fun e => e.2 != 0.0
  | a :: as, bs => mergeAddFrom a as (mergeAdd as) bs

def addDiagonal (m : ColumnMatrix) (d : List Float) : ColumnMatrix :=
  ⟨m.size, (m.cols.zip (List.range m.size)).map fun (col, c) =>
    let dc := d.getD c 0.0
    mergeAdd col (if dc != 0.0 then [(c, dc)] else [])⟩

def toRows (m : ColumnMatrix) : List (List Float) :=
  (List.range m.size).map fun r => (List.range m.size).map fun c => m.get r c

end ColumnMatrix

end Lighthouse.Linear
