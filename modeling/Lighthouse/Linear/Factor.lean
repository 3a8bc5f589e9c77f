import Lighthouse.Linear.Ordering
import Lighthouse.Linear.Products
/-!
# Solving sparse square systems

`solveSystem A b` solves `A x = b` for the damped normal equations, whose rounding steers every
later step of the solver, so the order of every operation is fixed. The columns of `A` are taken
in the elimination order of `columnOrder` and factored as `P A = L U` by left-looking supernodal
elimination with partial pivoting, `L` unit lower triangular.

The factors are kept by supernodes, runs of consecutive columns that share one row structure
(`Supernode`). Small subtrees of the elimination tree at the leaves are supernodes from the start
(`leafBlocks`); the other columns go in panels, each column searched depth first through the
supernodes its entries reach (`explore`), updated by every segment found (`segmentUpdate`),
pivoted, and joined to the supernode before it when their rows allow. A column whose candidates
are all zero or NaN makes the system singular, and the answer is `none`.
-/
namespace Lighthouse.Linear

open Binary64 (fusedMulAdd)

/-- The most columns of a subtree at the leaves that is factored as one block. -/
def relaxColumns : Nat := 10

/-- The most columns searched together. -/
def panelWidth : Nat := 20

/-- The most columns of a supernode. -/
def supernodeLimit : Nat := 200

/-- The columns of a triangle solved before the rows below it are updated. -/
def triangleBlock : Nat := 64

/-- The positions from `lo` up to but not including `hi`. -/
def span (lo hi : Nat) : List Nat := (List.range (hi - lo)).map (lo + ·)

/-- Products `a j * x j` over `js` fused into a sum from zero, in order. -/
def chainSum (a x : Nat → Float) (js : List Nat) : Float :=
  js.foldl (fun s j => fusedMulAdd (a j) (x j) s) 0.0

/-! ## Leaf blocks -/

/-- The number of descendants of each node of a forest whose children come before their
parents. -/
def descendantCounts (parent : Array (Option Nat)) : Array Nat :=
  (List.range parent.size).foldl (fun d j =>
    match parent.getD j none with
    | some p => d.modify p (· + (d.getD j 0 + 1))
    | none => d) (Array.replicate parent.size 0)

/-- The top of the leaf block that starts at `j`: the block climbs to a parent while the parent
has fewer than `relaxColumns` descendants. -/
def climb (parent : Array (Option Nat)) (desc : Array Nat) (j : Nat) : Nat → Nat
  | 0 => j
  | fuel + 1 =>
    match parent.getD j none with
    | some p => if desc.getD p 0 < relaxColumns then climb parent desc p fuel else j
    | none => j

/-- The first leaf at or after `j`. -/
def nextLeaf (desc : Array Nat) (j : Nat) : Nat → Nat
  | 0 => j
  | fuel + 1 => if j < desc.size ∧ desc.getD j 0 ≠ 0 then nextLeaf desc (j + 1) fuel else j

/-- The leaf blocks from leaf `j` on, recorded at their first columns. -/
def leafBlocksFrom (parent : Array (Option Nat)) (desc : Array Nat) (j : Nat)
    (ends : Array (Option Nat)) : Nat → Array (Option Nat)
  | 0 => ends
  | fuel + 1 =>
    if j < parent.size then
      let top := climb parent desc j parent.size
      leafBlocksFrom parent desc (nextLeaf desc (top + 1) parent.size) (ends.set! j (some top)) fuel
    else ends

/-- For each column that starts a leaf block, the block's last column. -/
def leafBlocks (parent : Array (Option Nat)) : Array (Option Nat) :=
  leafBlocksFrom parent (descendantCounts parent) 0 (Array.replicate parent.size none)
    (parent.size + 1)

/-- The columns of the panel that starts at `jcol`, of `n` columns in all. -/
def panelSize (ends : Array (Option Nat)) (n jcol : Nat) : Nat :=
  let lim := min (jcol + panelWidth) n
  match (span (jcol + 1) lim).find? fun k => (ends.getD k none).isSome with
  | some k => k - jcol
  | none => if lim = n then n - jcol else panelWidth

/-! ## Supernodes and the search -/

/-- A supernode of the factors: the columns `first … last`, sharing the row structure `rows`.
`cols` holds each column's values at the positions of `rows`. A search through the supernode
reads the first `searched` rows of `ends`, the rows of its last column. -/
structure Supernode where
  first : Nat
  last : Nat
  rows : Array Nat
  ends : Array Nat
  searched : Nat
  cols : Array (Array Float) := #[]
  deriving Inhabited

namespace Supernode

/-- The value of column `c` at position `p`. -/
def value (s : Supernode) (p c : Nat) : Float := (s.cols.getD (c - s.first) #[]).getD p 0.0

/-- The row at position `p`. -/
def rowAt (s : Supernode) (p : Nat) : Nat := s.rows.getD p 0

/-- The supernode with the rows at positions `p` and `q` swapped, in the values of every column
and, for a supernode of one column, whose rows are the rows it is searched by, in those too. -/
def swapRows (s : Supernode) (p q : Nat) : Supernode :=
  let rows := s.rows.swapIfInBounds p q
  { s with rows, ends := if s.first = s.last then rows else s.ends
           cols := s.cols.map (·.swapIfInBounds p q) }

end Supernode

/-- A factorization under way: the column of `A` at each position, the column each pivoted row
is the pivot of, the supernode of each factored column, the supernodes, each column's entries of
`U` outside its supernode as pivot positions and values, and the last column whose second search
reached each row. -/
structure Factoring where
  order : Array Nat
  pivotOf : Array (Option Nat)
  nodeOf : Array Nat
  nodes : Array Supernode := #[]
  upper : Array (List (Nat × Float))
  reached : Array (Option Nat)

namespace Factoring

def node (f : Factoring) (c : Nat) : Supernode := f.nodes.getD (f.nodeOf.getD c 0) default

/-- The last column of the supernode of a factored column. -/
def rep (f : Factoring) (c : Nat) : Nat := (f.node c).last

def size (f : Factoring) : Nat := f.pivotOf.size

end Factoring

/-- Which search is under way: the first one of a panel starting at a column, or the second one
of a column. -/
inductive SearchKind where
  | panel (start : Nat)
  | column

/-- The state of a search for column `jj`: the column that last reached each row, the panel
column that listed each segment, the segments completed, each segment's first column reached, the
rows of `L` reached in order, and whether a row of `L` was reached that the column before did not
reach. -/
structure Search where
  mark : Array (Option Nat)
  listed : Array (Option Nat)
  segs : Array Nat := #[]
  fnz : Array (Option Nat)
  lrows : Array Nat := #[]
  split : Bool := false

namespace Search

/-- A row of `L` reached by column `jj`; `prev` is the column that reached it before. -/
def meetLower (s : Search) (kind : SearchKind) (jj r : Nat) (prev : Option Nat) : Search :=
  let before := if jj = 0 then none else some (jj - 1)
  { s with lrows := s.lrows.push r
           split := s.split || (match kind with
             | .column => prev != before
             | .panel _ => false) }

/-- A segment whose search is complete: listed once per panel, or always in a column's second
search. -/
def finish (s : Search) (kind : SearchKind) (jj rep : Nat) : Search :=
  match kind with
  | .panel start =>
    if (s.listed.getD rep none).all (· < start) then
      { s with segs := s.segs.push rep, listed := s.listed.set! rep (some jj) }
    else s
  | .column => { s with segs := s.segs.push rep }

/-- A segment met at column `c`: its first column reached moves down to `c`. -/
def lower (s : Search) (rep c : Nat) : Search :=
  match s.fnz.getD rep none with
  | some z => if z > c then { s with fnz := s.fnz.set! rep (some c) } else s
  | none => s

end Search

/-- The search for column `jj` continued from a stack of supernodes, each with the position
reached in the rows of its last column. -/
def explore (f : Factoring) (kind : SearchKind) (jj : Nat) :
    Nat → Search → List (Nat × Nat) → Search
  | 0, s, _ => s
  | _ + 1, s, [] => s
  | fuel + 1, s, (rep, pos) :: rest =>
    let nd := f.node rep
    if pos < nd.searched then
      let child := nd.ends.getD pos 0
      let stack := (rep, pos + 1) :: rest
      let prev := s.mark.getD child none
      if prev == some jj then explore f kind jj fuel s stack
      else
        let s := { s with mark := s.mark.set! child (some jj) }
        match f.pivotOf.getD child none with
        | none => explore f kind jj fuel (s.meetLower kind jj child prev) stack
        | some cp =>
          let crep := f.rep cp
          if (s.fnz.getD crep none).isSome then explore f kind jj fuel (s.lower crep cp) stack
          else explore f kind jj fuel { s with fnz := s.fnz.set! crep (some cp) } ((crep, 0) :: stack)
    else explore f kind jj fuel (s.finish kind jj rep) rest

/-- Row `r` met by the search for column `jj`. -/
def meet (f : Factoring) (kind : SearchKind) (jj : Nat) (s : Search) (r : Nat) : Search :=
  let prev := s.mark.getD r none
  if prev == some jj then s
  else
    let s := { s with mark := s.mark.set! r (some jj) }
    match f.pivotOf.getD r none with
    | none => s.meetLower kind jj r prev
    | some kp =>
      let krep := f.rep kp
      if (s.fnz.getD krep none).isSome then s.lower krep kp
      else explore f kind jj (f.size * (f.size + 2) + 2) { s with fnz := s.fnz.set! krep (some kp) }
        [(krep, 0)]

/-! ## Numeric steps -/

/-- The products of rows `rowsAt r` with the first `k` entries of `x`, each row's entries `a r`,
added to `y r` times `α`: rows four at a time (`groupedRow`), the rest each in one fused chain. -/
def productRows (α : Float) (a : Nat → Nat → Float) (x : Nat → Float) (k nrow : Nat)
    (y : Nat → Float) : List Float :=
  let grouped := nrow - nrow % 4
  (List.range nrow).map fun r =>
    if r < grouped then groupedRow α (a r) x k (y r)
    else fusedMulAdd α (chainSum (a r) x (List.range k)) (y r)

/-- The first `n` entries of `v` solved against a unit lower triangle `l`, column by column, in
blocks of `triangleBlock` columns whose products with the rows below are subtracted as a whole. -/
def unitLowerSolve (l : Nat → Nat → Float) (n : Nat) (v : Array Float) : Array Float :=
  (List.range ((n + triangleBlock - 1) / triangleBlock)).foldl (fun v b =>
    let start := triangleBlock * b
    let width := min triangleBlock (n - start)
    let v := (span start (start + width)).foldl (fun v i =>
      let vi := v.getD i 0.0
      (span (i + 1) (start + width)).foldl
        (fun v q => v.modify q fun y => fusedMulAdd (-vi) (l q i) y) v) v
    let below := n - start - width
    if below = 0 then v
    else
      let out := productRows (-1.0) (fun r j => l (start + width + r) (start + j))
        (fun j => v.getD (start + j) 0.0) width below (fun r => v.getD (start + width + r) 0.0)
      (out.zip (List.range below)).foldl (fun v (y, r) => v.set! (start + width + r) y) v)
    v

/-- Working values `dense`, by row, updated by the segment of supernode `s` from column `kfnz`
to column `krep`, the supernode's last column at the time. -/
def segmentUpdate (s : Supernode) (krep kfnz : Nat) (dense : Array Float) : Array Float :=
  let pk := krep - s.first
  let below := span (pk + 1) s.rows.size
  let d := fun (v : Array Float) (p : Nat) => v.getD (s.rowAt p) 0.0
  let seg := krep + 1 - kfnz
  if seg = 1 then
    let u := d dense pk
    below.foldl (fun v p => v.modify (s.rowAt p) (· - u * s.value p krep)) dense
  else if seg = 2 then
    let u1 := d dense (pk - 1)
    let u := d dense pk - u1 * s.value pk (krep - 1)
    below.foldl (fun v p => v.modify (s.rowAt p)
      (· - (u * s.value p krep + u1 * s.value p (krep - 1)))) (dense.set! (s.rowAt pk) u)
  else if seg = 3 then
    let u2 := d dense (pk - 2)
    let u1 := d dense (pk - 1) - u2 * s.value (pk - 1) (krep - 2)
    let u := d dense pk - u1 * s.value pk (krep - 1) - u2 * s.value pk (krep - 2)
    let dense := (dense.set! (s.rowAt pk) u).set! (s.rowAt (pk - 1)) u1
    below.foldl (fun v p => v.modify (s.rowAt p)
      (· - (u * s.value p krep + u1 * s.value p (krep - 1) + u2 * s.value p (krep - 2)))) dense
  else
    let p0 := kfnz - s.first
    let t := unitLowerSolve (fun i j => s.value (p0 + i) (kfnz + j)) seg
      ((List.range seg).toArray.map fun i => d dense (p0 + i))
    let prod := productRows 1.0 (fun r j => s.value (pk + 1 + r) (kfnz + j)) (t.getD · 0.0) seg
      below.length (fun _ => 0.0)
    let dense := (List.range seg).foldl (fun v i => v.set! (s.rowAt (p0 + i)) (t.getD i 0.0)) dense
    (prod.zip below).foldl (fun v (y, p) => v.modify (s.rowAt p) (· - y)) dense

/-- Column `jj`'s values `v`, at the positions of its own supernode `s`, updated by the
supernode's columns from `fst` up to `jj`: solved against their unit triangle, and the rows from
the diagonal down less their products with the solved part. -/
def ownUpdate (s : Supernode) (fst jj : Nat) (v : Array Float) : Array Float :=
  if fst < jj then
    let d := fst - s.first
    let k := jj - fst
    let t := unitLowerSolve (fun i j => s.value (d + i) (fst + j)) k
      ((List.range k).toArray.map fun i => v.getD (d + i) 0.0)
    let v := (List.range k).foldl (fun v i => v.set! (d + i) (t.getD i 0.0)) v
    let top := jj - s.first
    let nrow := s.rows.size - top
    let out := productRows (-1.0) (fun r j => s.value (top + r) (fst + j)) (t.getD · 0.0) k nrow
      (fun r => v.getD (top + r) 0.0)
    (out.zip (List.range nrow)).foldl (fun v (y, r) => v.set! (top + r) y) v
  else v

/-- The pivot position of a column among the positions from `c` on: the first of largest
magnitude, or the position of row `own` when its entry is as large and nonzero; none when no
candidate is a nonzero number. -/
def choosePivot (rows : Array Nat) (v : Array Float) (c own : Nat) : Option Nat :=
  let cands := span c rows.size
  let (best, top) := cands.foldl (fun (acc : Nat × Float) p =>
    if (v.getD p 0.0).abs > acc.2 then (p, (v.getD p 0.0).abs) else acc) (c, -1.0)
  if top < 0.0 || top == 0.0 then none
  else
    match cands.find? fun p => rows.getD p 0 == own with
    | some d =>
      let t := (v.getD d 0.0).abs
      some (if t != 0.0 && t ≥ top then d else best)
    | none => some best

namespace Factoring

/-- Column `jj`, with values `v` at the positions of its supernode, pivoted and stored; none when
it has no pivot. Gives the pivot row. -/
def placeColumn (f : Factoring) (jj : Nat) (v : Array Float) : Option (Factoring × Nat) := do
  let k := f.nodeOf.getD jj 0
  let s := f.nodes.getD k default
  let c := jj - s.first
  let p ← choosePivot s.rows v c (f.order.getD jj 0)
  let s := { s with cols := s.cols.push v }
  let s := if p = c then s else s.swapRows p c
  let col := s.cols.getD c #[]
  let t := 1.0 / col.getD c 0.0
  let col := col.mapIdx fun q y => if q > c then y * t else y
  let s := { s with cols := s.cols.set! c col }
  let pivrow := s.rowAt c
  pure ({ f with nodes := f.nodes.set! k s, pivotOf := f.pivotOf.set! pivrow (some jj) }, pivrow)

/-- The leaf block of columns `jcol … kcol` factored. -/
def leafBlock (f : Factoring) (colAt : Nat → List (Nat × Float)) (jcol kcol : Nat) :
    Option Factoring := do
  let rows := (span jcol (kcol + 1)).foldl (fun rows c =>
    (colAt c).foldl (fun rows e => if rows.contains e.1 then rows else rows.push e.1) rows) #[]
  let s : Supernode := { first := jcol, last := kcol, rows, ends := rows, searched := rows.size }
  let f := { f with nodes := f.nodes.push s
                    nodeOf := (span jcol (kcol + 1)).foldl (fun a c => a.set! c f.nodes.size)
                      f.nodeOf }
  (span jcol (kcol + 1)).foldlM (fun f icol => do
    let dense := (colAt icol).foldl (fun d e => d.set! e.1 e.2) (Array.replicate f.size 0.0)
    let s := f.node icol
    let v := ownUpdate s jcol icol (s.rows.map (dense.getD · 0.0))
    pure (← f.placeColumn icol v).1) f

/-- Column `jj` joins the supernode of the column before it, or starts one, given the rows of
`L` it reached and whether one of them was not reached by the column before. -/
def assign (f : Factoring) (jj : Nat) (lrows : Array Nat) (split : Bool) : Factoring :=
  let k := f.nodes.size - 1
  let prev := f.nodes.getD k default
  let joins := jj > 0 && !split && lrows.size + 1 == prev.ends.size &&
    jj - prev.first < supernodeLimit
  if joins then
    { f with nodes := f.nodes.set! k { prev with last := jj, ends := lrows, searched := lrows.size }
             nodeOf := f.nodeOf.set! jj k }
  else
    { f with nodes := f.nodes.push { first := jj, last := jj, rows := lrows, ends := lrows
                                     searched := lrows.size }
             nodeOf := f.nodeOf.set! jj f.nodes.size }

/-- The rows searched from the last column of supernode `k` put with the pivoted rows first, the
search stopping before the rest, if they were not cut yet and hold `pivrow`. A supernode of one
column moves its values with its rows. -/
def prune (f : Factoring) (k pivrow : Nat) : Factoring :=
  let s := f.nodes.getD k default
  if s.searched < s.ends.size || !s.ends.contains pivrow then f
  else
    let pivoted := fun (r : Nat) => (f.pivotOf.getD r none).isSome
    let rec go (s : Supernode) (lo hi : Nat) : Nat → Supernode × Nat
      | 0 => (s, lo)
      | fuel + 1 =>
        if lo < hi then
          if !pivoted (s.ends.getD (hi - 1) 0) then go s lo (hi - 1) fuel
          else if pivoted (s.ends.getD lo 0) then go s (lo + 1) hi fuel
          else
            let s := if s.first = s.last then s.swapRows lo (hi - 1)
              else { s with ends := s.ends.swapIfInBounds lo (hi - 1) }
            go s (lo + 1) (hi - 1) fuel
        else (s, lo)
    let (s, cut) := go s 0 s.ends.size (s.ends.size + 1)
    { f with nodes := f.nodes.set! k { s with searched := cut } }

/-- Column `jj` of the panel starting at `jcol`, after the panel's search and updates: its rows
of `L` from the first search, its segments' first columns, its values by row, and the panel's
segments. -/
def panelColumn (f : Factoring) (jcol jj : Nat) (lrows : Array Nat) (fnz : Array (Option Nat))
    (dense : Array Float) (panelSegs : Array Nat) : Option Factoring := do
  let s0 : Search := { mark := f.reached, listed := #[], fnz }
  let s := lrows.foldl (meet f .column jj) s0
  let f := { f with reached := s.mark }
  let f := f.assign jj s.lrows s.split
  let own := f.nodeOf.getD jj 0
  let dense := s.segs.reverse.foldl (fun dense krep =>
    if f.nodeOf.getD krep 0 == own then dense
    else segmentUpdate (f.node krep) krep (max ((s.fnz.getD krep none).getD krep) jcol) dense) dense
  let nd := f.node jj
  let v := ownUpdate nd (max nd.first jcol) jj (nd.rows.map (dense.getD · 0.0))
  let (f, pivrow) ← f.placeColumn jj v
  let segs := panelSegs ++ s.segs
  let (entries, _) := segs.reverse.foldl (fun (acc : List (Nat × Float) × Array Float) krep =>
    let (es, dense) := acc
    match s.fnz.getD krep none with
    | some kfnz =>
      if f.nodeOf.getD krep 0 == own then acc
      else
        let sn := f.node krep
        (span (kfnz - sn.first) (krep - sn.first + 1)).foldl (fun (acc : List (Nat × Float) × Array Float) p =>
          let r := sn.rowAt p
          (acc.1 ++ [((f.pivotOf.getD r none).getD 0, acc.2.getD r 0.0)], acc.2.set! r 0.0)) (es, dense)
    | none => acc) ([], dense)
  let f := { f with upper := f.upper.set! jj entries }
  pure (segs.foldl (fun f irep =>
    let k := f.nodeOf.getD irep 0
    if (s.fnz.getD irep none).isNone || k == own || f.rep irep != irep then f
    else f.prune k pivrow) f)

/-- The panel of `w` columns starting at `jcol` factored. -/
def panel (f : Factoring) (colAt : Nat → List (Nat × Float)) (jcol w : Nat) :
    Option Factoring := do
  let n := f.size
  let start : Search :=
    { mark := Array.replicate n none, listed := Array.replicate n none, fnz := #[] }
  let (s, cols) := (span jcol (jcol + w)).foldl
    (fun (acc : Search × Array (Array Nat × Array (Option Nat) × Array Float)) jj =>
      let (s, cols) := acc
      let s := { s with fnz := Array.replicate n none, lrows := #[] }
      let (s, dense) := (colAt jj).foldl (fun (acc : Search × Array Float) e =>
        (meet f (.panel jcol) jj acc.1 e.1, acc.2.set! e.1 e.2)) (s, Array.replicate n 0.0)
      (s, cols.push (s.lrows, s.fnz, dense))) (start, #[])
  let cols := s.segs.reverse.foldl (fun cols krep =>
    cols.map fun (lr, fnz, dense) =>
      match fnz.getD krep none with
      | some kfnz => (lr, fnz, segmentUpdate (f.node krep) krep kfnz dense)
      | none => (lr, fnz, dense)) cols
  (List.range w).foldlM (fun f i =>
    let (lr, fnz, dense) := cols.getD i (#[], #[], #[])
    f.panelColumn jcol (jcol + i) lr fnz dense s.segs) f

/-- The columns from `jcol` on factored, a leaf block or a panel at a time. -/
def factorFrom (f : Factoring) (colAt : Nat → List (Nat × Float)) (ends : Array (Option Nat))
    (jcol : Nat) : Nat → Option Factoring
  | 0 => some f
  | fuel + 1 =>
    if jcol < f.size then
      match ends.getD jcol none with
      | some kcol => do
        let f ← f.leafBlock colAt jcol kcol
        f.factorFrom colAt ends (kcol + 1) fuel
      | none => do
        let w := panelSize ends f.size jcol
        let f ← f.panel colAt jcol w
        f.factorFrom colAt ends (jcol + w) fuel
    else some f

end Factoring

/-! ## The solve -/

/-- The row blocks of a forward pass over `n` rows, from the top: sixteen at a time, then eight,
four, two and one as the remainder allows. -/
def forwardBlocks (n : Nat) : List (Nat × Nat) :=
  let full := (List.range (n / 16)).map fun i => (16 * i, 16)
  let (rest, _) := [8, 4, 2, 1].foldl (fun (acc : List (Nat × Nat) × Nat) w =>
    if n / w % 2 = 1 then (acc.1 ++ [(acc.2, w)], acc.2 + w) else acc) ([], 16 * (n / 16))
  full ++ rest

/-- The row blocks of a backward pass over `n` rows: the remainder from the bottom in blocks of
one, two, four and eight, then sixteen at a time upwards. -/
def backwardBlocks (n : Nat) : List (Nat × Nat) :=
  let rest := ([1, 2, 4, 8].filter fun w => n / w % 2 = 1).map fun w => (n - n % w - w, w)
  let top := n - n % 16
  rest ++ (List.range (n / 16)).map fun i => (top - 16 * (i + 1), 16)

/-- One block of a forward pass through a unit lower triangle `l` whose entries sit at `base`
on in `y`. -/
def forwardBlock (l : Nat → Nat → Float) (base : Nat) (y : Array Float) (blk : Nat × Nat) :
    Array Float :=
  let (s, w) := blk
  let y := (span s (s + w)).foldl (fun y r =>
    y.set! (base + r) (y.getD (base + r) 0.0 - chainSum (l r) (fun j => y.getD (base + j) 0.0)
      (List.range s))) y
  (span s (s + w)).foldl (fun y i =>
    let xi := y.getD (base + i) 0.0 * 1.0
    (span (i + 1) (s + w)).foldl
      (fun y q => y.modify (base + q) fun v => fusedMulAdd (-xi) (l q i) v) (y.set! (base + i) xi))
    y

/-- One block of a backward pass through an upper triangle `u` of `n` rows whose entries sit at
`base` on in `y`. -/
def backwardBlock (u : Nat → Nat → Float) (n base : Nat) (y : Array Float) (blk : Nat × Nat) :
    Array Float :=
  let (s, w) := blk
  let e := s + w
  let y := (span s e).foldl (fun y r =>
    y.set! (base + r) (y.getD (base + r) 0.0 - chainSum (u r) (fun j => y.getD (base + j) 0.0)
      (span e n))) y
  (span s e).reverse.foldl (fun y i =>
    let xi := y.getD (base + i) 0.0 * (1.0 / u i i)
    (span s i).foldl (fun y q => y.modify (base + q) fun v => fusedMulAdd (-xi) (u q i) v)
      (y.set! (base + i) xi)) y

/-- The pass down through `L` of supernode `s`, on values by pivot position. -/
def lowerPass (pos : Nat → Nat) (y : Array Float) (s : Supernode) : Array Float :=
  let k := s.last + 1 - s.first
  if k = 1 then
    (span 1 s.rows.size).foldl (fun y p =>
      y.modify (pos (s.rowAt p)) (· - y.getD s.first 0.0 * s.value p s.first)) y
  else
    let y := (forwardBlocks k).foldl (forwardBlock (fun i j => s.value i (s.first + j)) s.first) y
    let nrow := s.rows.size - k
    let work := (List.range nrow).map fun r =>
      chainSum (fun j => s.value (k + r) (s.first + j)) (fun j => y.getD (s.first + j) 0.0)
        (List.range k)
    (work.zip (List.range nrow)).foldl (fun y (w, r) => y.modify (pos (s.rowAt (k + r))) (· - w)) y

/-- The pass up through `U` of supernode `s`, on values by pivot position. -/
def upperPass (upper : Array (List (Nat × Float))) (y : Array Float) (s : Supernode) :
    Array Float :=
  let k := s.last + 1 - s.first
  let y := if k = 1 then y.modify s.first (· / s.value 0 s.first)
    else (backwardBlocks k).foldl (backwardBlock (fun i j => s.value i (s.first + j)) k s.first) y
  (span s.first (s.last + 1)).foldl (fun y c =>
    (upper.getD c []).foldl (fun y (r, u) => y.modify r (· - y.getD c 0.0 * u)) y) y

/-- The solution of `A x = b`, or `none` when `A` is singular. -/
def solveSystem (m : ColumnMatrix) (b : List Float) : Option (List Float) := do
  let n := m.size
  let order := (columnOrder m).toArray
  let ends := leafBlocks (eliminationTree m order.toList)
  let colAt := fun j => m.cols.getD (order.getD j 0) []
  let start : Factoring :=
    { order, pivotOf := Array.replicate n none, nodeOf := Array.replicate n 0
      upper := Array.replicate n [], reached := Array.replicate n none }
  let f ← start.factorFrom colAt ends 0 (n + 1)
  let pos := fun r => (f.pivotOf.getD r none).getD 0
  let y := (List.range n).foldl (fun y r => y.set! (pos r) (b.getD r 0.0)) (Array.replicate n 0.0)
  let y := f.nodes.foldl (lowerPass pos) y
  let y := f.nodes.reverse.foldl (upperPass f.upper) y
  let x := (List.range n).foldl (fun x j => x.set! (order.getD j 0) (y.getD j 0.0))
    (Array.replicate n 0.0)
  pure x.toList

end Lighthouse.Linear
