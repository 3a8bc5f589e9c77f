import Lighthouse.Linear.Compressed
/-!
# Fill-reducing column order

Before the damped normal equations are factored, their columns are put in an order that keeps
elimination cheap, and the factors' rounding depends on that order. `columnOrder A` gives it as
the list of columns of `A`, first to last, in two stages.

The first stage is an approximate minimum degree order on the pattern of `A`. Each live column
has a score, an estimate of the number of other columns it would touch if eliminated, and sits in
the list of its score, most recently placed first. Every step eliminates the first column of the
lowest nonempty list, whose rows merge into one new pivot row holding the live columns they
reach; the rows used up die. Each column of the pivot row is rescored from what its live rows
add beyond the pivot row, capped by the columns still to order. A column left with no live rows
is ordered at once; columns left with identical rows and scores merge into the first of them,
and are ordered just before it when the order is read off at the end.

The second stage takes the elimination tree of `AᵀA` for the columns in that order, where the
parent of a column is the first later column its elimination would touch, and lists the columns
in postorder, children in increasing order. That keeps each subtree, and so each group of
coupled unknowns, together.
-/
namespace Lighthouse.Linear

/-- How a column stands in the minimum degree order. -/
inductive ColumnStatus where
  | live
  | eliminated
  | merged
  deriving BEq, Inhabited

/-- What the order keeps for a column: its rows, how many columns it stands for, its score, its
place once ordered, the column it merged into, and its hash. -/
structure DegreeColumn where
  rows : List Nat
  thickness : Nat := 1
  score : Nat := 0
  order : Option Nat := none
  parent : Nat := 0
  hash : Nat := 0
  status : ColumnStatus := .live
  deriving Inhabited

/-- What the order keeps for a row: its columns, its degree and whether it is live. -/
structure DegreeRow where
  cols : List Nat
  degree : Nat
  live : Bool := true
  deriving Inhabited

/-- The state of the minimum degree order: the columns, the rows, the columns of each score, the
least score that may have columns, and the number of columns ordered. -/
structure DegreeState where
  size : Nat
  cols : Array DegreeColumn
  rows : Array DegreeRow
  lists : Array (List Nat)
  minScore : Nat := 0
  ordered : Nat := 0
  limit : Nat

namespace DegreeState

/-- Column `c`. -/
def col (st : DegreeState) (c : Nat) : DegreeColumn := st.cols.getD c default

/-- Row `r`. -/
def row (st : DegreeState) (r : Nat) : DegreeRow := st.rows.getD r default

/-- Whether column `c` is live. -/
def isLive (st : DegreeState) (c : Nat) : Bool := (st.col c).status == .live

/-- The start of the order: rows listing their columns in increasing order, each column scored
by the degrees of its rows less one, summed and capped by the number of columns, and placed in
the list of its score so that lower columns come first. Empty columns take the last places, in
increasing order. -/
def init (m : ColumnMatrix) : DegreeState :=
  let n := m.size
  let colRows := (m.cols.map fun col => col.map (·.1)).toArray
  let rowCols := (List.range n).map fun r =>
    (List.range n).filter fun c => (colRows.getD c []).contains r
  let rows := (rowCols.map fun cs =>
    ({ cols := cs, degree := cs.length, live := !cs.isEmpty } : DegreeRow)).toArray
  let score := fun (rs : List Nat) =>
    rs.foldl (fun s r => min (s + ((rows.getD r default).degree - 1)) n) 0
  let empties := (List.range n).filter fun c => (colRows.getD c []).isEmpty
  let limit := n - empties.length
  let cols := colRows.zipIdx.map fun (rs, c) =>
    if rs.isEmpty then
      ({ rows := [], status := .eliminated
         order := some (limit + (empties.filter (· < c)).length) } : DegreeColumn)
    else { rows := rs, score := score rs }
  let live := (List.range n).filter fun c => !(colRows.getD c []).isEmpty
  let lists := live.reverse.foldl (fun (lists : Array (List Nat)) c =>
    lists.modify (cols.getD c default).score (c :: ·)) (Array.replicate (n + 1) [])
  { size := n, cols, rows, lists, limit
    minScore := (live.map fun c => (cols.getD c default).score).foldl min n }

/-- The first column of the lowest nonempty list from the least score on, and that score. -/
def pickPivot (st : DegreeState) : Option (Nat × Nat) :=
  ((List.range (st.size + 1 - st.minScore)).map (st.minScore + ·)).findSome? fun s =>
    (st.lists.getD s []).head?.map fun c => (c, s)

/-- The live columns reached by the live rows of the pivot column, in the order met. -/
def pivotColumns (st : DegreeState) (pivot : Nat) : List Nat :=
  (st.col pivot).rows.foldl (fun acc r =>
    let row := st.row r
    if !row.live then acc
    else row.cols.foldl (fun acc c =>
      if c == pivot || acc.contains c || !st.isLive c then acc else acc ++ [c]) acc) []

/-- The columns of the pivot row taken out of their lists, and what each live row of theirs adds
beyond the pivot row: a row's degree less the thickness of each pivot column it holds. A row that
adds nothing dies. -/
def setDifferences (st : DegreeState) (piv : List Nat) : DegreeState × Array (Option Nat) :=
  piv.foldl (fun (acc : DegreeState × Array (Option Nat)) c =>
    let (st, diff) := acc
    let col := st.col c
    let st := { st with lists := st.lists.modify col.score (·.erase c) }
    col.rows.foldl (fun (acc : DegreeState × Array (Option Nat)) r =>
      let (st, diff) := acc
      let row := st.row r
      if !row.live then acc
      else
        let d := (diff.getD r none).getD row.degree - col.thickness
        if d == 0 then ({ st with rows := st.rows.modify r ({ · with live := false }) }, diff)
        else (st, diff.set! r (some d))) (st, diff))
    (st, Array.replicate st.rows.size none)

/-- The pivot columns' live rows kept, their partial scores and hashes set, and each placed in
the bucket of its hash, first; a column with no live row left is ordered at once. Gives the
state, the buckets and the pivot row's degree. -/
def rescore (st : DegreeState) (piv : List Nat) (diff : Array (Option Nat)) (degree : Nat) :
    DegreeState × Array (List Nat) × Nat :=
  piv.foldl (fun (acc : DegreeState × Array (List Nat) × Nat) c =>
    let (st, buckets, degree) := acc
    let col := st.col c
    let live := col.rows.filter fun r => (st.row r).live
    if live.isEmpty then
      ({ st with
          cols := st.cols.set! c
            { col with rows := [], status := .eliminated, order := some st.ordered }
          ordered := st.ordered + col.thickness }, buckets, degree - col.thickness)
    else
      let score := live.foldl (fun s r => min (s + (diff.getD r none).getD 0) st.size) 0
      let h := live.foldl (· + ·) 0 % (st.size + 1)
      ({ st with cols := st.cols.set! c { col with rows := live, score, hash := h } },
        buckets.modify h (c :: ·), degree))
    (st, Array.replicate (st.size + 1) [], degree)

/-- The columns of a bucket after the first merged into it when they have the same rows and
score, then the same for the rest, at most `fuel` rounds. -/
def mergeBucket (st : DegreeState) : List Nat → Nat → DegreeState
  | [], _ => st
  | _, 0 => st
  | s :: rest, fuel + 1 =>
    let sc := st.col s
    let (st, keep) := rest.foldl (fun (acc : DegreeState × List Nat) c =>
      let (st, keep) := acc
      let cc := st.col c
      if cc.rows.length == sc.rows.length && cc.score == sc.score && cc.rows == sc.rows then
        let cols := st.cols.modify s fun x => { x with thickness := x.thickness + cc.thickness }
        ({ st with cols := cols.set! c { cc with parent := s, status := .merged, order := none } },
          keep)
      else (st, keep ++ [c])) (st, [])
    mergeBucket st keep fuel

/-- Identical columns of the pivot row merged, bucket by bucket in the order the pivot row meets
them. -/
def mergeIdentical (st : DegreeState) (piv : List Nat) (buckets : Array (List Nat)) :
    DegreeState :=
  (piv.foldl (fun (acc : DegreeState × Array (List Nat)) c =>
    let (st, buckets) := acc
    if !st.isLive c then acc
    else
      let h := (st.col c).hash
      let b := buckets.getD h []
      (mergeBucket st b b.length, buckets.set! h [])) (st, buckets)).1

/-- The live pivot columns given the pivot row and their final scores, and placed first in their
lists; gives the pivot row's live columns too. -/
def finalize (st : DegreeState) (piv : List Nat) (pivotRow : Nat) (degree : Nat) :
    DegreeState × List Nat :=
  piv.foldl (fun (acc : DegreeState × List Nat) c =>
    let (st, kept) := acc
    if !st.isLive c then acc
    else
      let col := st.col c
      let cur := min (col.score + degree - col.thickness) (st.size - st.ordered - col.thickness)
      ({ st with
          cols := st.cols.set! c { col with rows := col.rows ++ [pivotRow], score := cur }
          lists := st.lists.modify cur (c :: ·)
          minScore := min st.minScore cur }, kept ++ [c])) (st, [])

/-- One elimination step. -/
def step (st : DegreeState) : DegreeState :=
  match st.pickPivot with
  | none => { st with ordered := st.limit }
  | some (pivot, s) =>
    let st := { st with minScore := s, lists := st.lists.modify s List.tail }
    let pcol := st.col pivot
    let st := { st with
      cols := st.cols.set! pivot { pcol with order := some st.ordered }
      ordered := st.ordered + pcol.thickness }
    let piv := st.pivotColumns pivot
    let degree := piv.foldl (fun d c => d + (st.col c).thickness) 0
    let st := { st with
      rows := pcol.rows.foldl (fun rows r => rows.modify r ({ · with live := false })) st.rows }
    let (st, diff) := st.setDifferences piv
    let (st, buckets, degree) := st.rescore piv diff degree
    let st := st.mergeIdentical piv buckets
    let st := { st with cols := st.cols.modify pivot ({ · with status := .eliminated }) }
    match pcol.rows.head? with
    | none => st
    | some pivotRow =>
      let (st, kept) := st.finalize piv pivotRow degree
      if degree > 0 then
        { st with rows := st.rows.set! pivotRow { cols := kept, degree, live := true } }
      else st

/-- Steps until every column is ordered, at most `fuel` of them. -/
def run (st : DegreeState) : Nat → DegreeState
  | 0 => st
  | fuel + 1 => if st.ordered ≥ st.limit then st else run st.step fuel

/-- The column a merged column stands under, following merges at most `fuel` times. -/
def principal (st : DegreeState) (c : Nat) : Nat → Nat
  | 0 => c
  | fuel + 1 => if (st.col c).status == .merged then principal st (st.col c).parent fuel else c

/-- The columns by place: each merged column takes the place of the column it stands under, which
moves one place on, so merged columns come in increasing order before it. -/
def permutation (st : DegreeState) : List Nat :=
  let st := (List.range st.size).foldl (fun (st : DegreeState) i =>
    let ci := st.col i
    if ci.status == .merged && ci.order.isNone then
      let p := st.principal i st.size
      let o := ((st.col p).order).getD 0
      { st with
          cols := (st.cols.set! i { ci with order := some o, parent := p }).modify p
            ({ · with order := some (o + 1) }) }
    else st) st
  (List.range st.size).filterMap fun pos =>
    (List.range st.size).find? fun c => (st.col c).order == some pos

end DegreeState

/-- The approximate minimum degree order of the columns of a matrix. -/
def minimumDegreeOrder (m : ColumnMatrix) : List Nat :=
  ((DegreeState.init m).run m.size).permutation

/-- The root above column `j` of the tree built so far, at most `fuel` steps up. -/
def treeRoot (parent : Array (Option Nat)) (j : Nat) : Nat → Nat
  | 0 => j
  | fuel + 1 =>
    match parent.getD j none with
    | some p => treeRoot parent p fuel
    | none => j

/-- The parent of each position in the elimination tree of `AᵀA` with the columns of `A` taken
in `order`; none at a root. A row links the subtree of the first position holding it to each
later position holding it. -/
def eliminationTree (m : ColumnMatrix) (order : List Nat) : Array (Option Nat) :=
  let n := order.length
  let rowsAt := fun j => ((m.cols.getD (order.getD j 0) []).map (·.1))
  let first := (List.range n).foldl (fun (first : Array Nat) j =>
    (rowsAt j).foldl (fun first r => first.modify r (min j)) first) (Array.replicate m.size n)
  (List.range n).foldl (fun parent j =>
    (rowsAt j).foldl (fun parent r =>
      let f := first.getD r n
      if f < j then
        let root := treeRoot parent f n
        if root != j then parent.set! root (some j) else parent
      else parent) parent) (Array.replicate n none)

/-- The nodes under `v` in postorder, children in increasing order, then `v`, at most `fuel`
levels deep. -/
def postorderFrom (children : Array (List Nat)) (v : Nat) : Nat → List Nat
  | 0 => [v]
  | fuel + 1 => ((children.getD v []).flatMap fun c => postorderFrom children c fuel) ++ [v]

/-- The positions of a forest in postorder: the roots in increasing order, each with its
subtree. -/
def postorder (parent : Array (Option Nat)) : List Nat :=
  let n := parent.size
  let children := (List.range n).foldl (fun (ch : Array (List Nat)) v =>
    match parent.getD v none with
    | some p => ch.modify p (· ++ [v])
    | none => ch) (Array.replicate n [])
  ((List.range n).filter fun v => (parent.getD v none).isNone).flatMap fun r =>
    postorderFrom children r n

/-- The order in which a matrix's columns are eliminated. -/
def columnOrder (m : ColumnMatrix) : List Nat :=
  let order := minimumDegreeOrder m
  (postorder (eliminationTree m order)).map (order.getD · 0)

end Lighthouse.Linear
