import Lighthouse.Solver.Solve
import Mathlib
/-!
# The state vector of a problem

A solve moves the free blocks of a problem as one vector: `state` lays their values end to end
in block order, and `setState x` gives each free block its stretch of `x`, found through
`offsets`. `slot i` is where block `i` starts in that vector, if it is free. Everything here
follows from one picture of the layout: when the free indices are `pre ++ i :: post`, block `i`
starts after the values of the blocks in `pre` (`slot_of_split`). Hence a problem set to its
own state is itself (`setState_state`), a constant block is never moved
(`getElem?_setState_of_constant`), and once a vector long enough has been set, setting another
is the same as setting it on the original problem (`setState_setState`).
-/
namespace Lighthouse.Problem

variable {κ : Type}

/-- The number of values of block `i`. -/
def width (p : Problem κ) (i : Nat) : Nat := (p.blocks.getD i default).values.length

/-- The offsets of the blocks `fs`, laid end to end from `o`. -/
def offsetsFrom (p : Problem κ) : Nat → List Nat → List (Nat × Nat)
  | _, [] => []
  | o, i :: fs => (i, o) :: p.offsetsFrom (o + p.width i) fs

/-- The place of block `i` in the state vector, when it is free. -/
def slot (p : Problem κ) (i : Nat) : Option Nat := (p.offsets.find? (·.1 == i)).map Prod.snd

/-- A block given its stretch of `x`, when it has a place in the state vector. -/
def refill (b : ParamBlock) (place : Option Nat) (x : List Float) : ParamBlock :=
  match place with
  | some off => { b with values := (x.drop off).take b.values.length }
  | none => b

@[simp] theorem refill_shape (b : ParamBlock) (place : Option Nat) (x : List Float) :
    (refill b place x).shape = b.shape := by
  cases place <;> rfl

@[simp] theorem refill_constant (b : ParamBlock) (place : Option Nat) (x : List Float) :
    (refill b place x).constant = b.constant := by
  cases place <;> rfl

section Layout

variable (p : Problem κ)

theorem foldl_offsets (fs : List Nat) (acc : List (Nat × Nat)) (o : Nat) :
    (fs.foldl (fun (acc : List (Nat × Nat) × Nat) i => (acc.1 ++ [(i, acc.2)], acc.2 + p.width i))
      (acc, o)).1 = acc ++ p.offsetsFrom o fs := by
  induction fs generalizing acc o with
  | nil => simp [offsetsFrom]
  | cons i fs ih => simp [ih, offsetsFrom]

theorem offsets_eq : p.offsets = p.offsetsFrom 0 p.freeIndices :=
  foldl_offsets p p.freeIndices [] 0

theorem offsetsFrom_append (o : Nat) (pre post : List Nat) :
    p.offsetsFrom o (pre ++ post) =
      p.offsetsFrom o pre ++ p.offsetsFrom (o + (pre.map p.width).sum) post := by
  induction pre generalizing o with
  | nil => simp [offsetsFrom]
  | cons i pre ih => simp [offsetsFrom, ih, Nat.add_assoc]

theorem find?_offsetsFrom_of_not_mem {i : Nat} {fs : List Nat} (h : i ∉ fs) (o : Nat) :
    (p.offsetsFrom o fs).find? (·.1 == i) = none := by
  induction fs generalizing o with
  | nil => rfl
  | cons j fs ih =>
    have hij : j ≠ i := fun e => h (e ▸ List.mem_cons_self)
    simp [offsetsFrom, hij, ih (fun hm => h (List.mem_cons_of_mem j hm))]

theorem offsetsFrom_congr {q : Problem κ} {fs : List Nat} (h : ∀ i ∈ fs, q.width i = p.width i)
    (o : Nat) : q.offsetsFrom o fs = p.offsetsFrom o fs := by
  induction fs generalizing o with
  | nil => rfl
  | cons i fs ih =>
    simp only [offsetsFrom, h i List.mem_cons_self,
      ih (fun j hj => h j (List.mem_cons_of_mem i hj))]

theorem nodup_freeIndices : p.freeIndices.Nodup := List.nodup_range.filter _

theorem mem_freeIndices {i : Nat} :
    i ∈ p.freeIndices ↔ i < p.blocks.length ∧ (p.blocks.getD i default).constant = false := by
  simp [freeIndices]

theorem slot_of_not_mem {i : Nat} (h : i ∉ p.freeIndices) : p.slot i = none := by
  simp [slot, offsets_eq, find?_offsetsFrom_of_not_mem p h]

/-- A free block starts after the values of the free blocks before it. -/
theorem slot_of_split {pre post : List Nat} {i : Nat} (h : p.freeIndices = pre ++ i :: post) :
    p.slot i = some (pre.map p.width).sum := by
  have hnd := p.nodup_freeIndices
  rw [h] at hnd
  have hi : i ∉ pre := fun hm => (List.nodup_append.mp hnd).2.2 i hm i List.mem_cons_self rfl
  simp [slot, offsets_eq, h, offsetsFrom_append, find?_offsetsFrom_of_not_mem p hi, offsetsFrom]

theorem slot_of_constant {i : Nat} (h : (p.blocks.getD i default).constant = true) :
    p.slot i = none :=
  p.slot_of_not_mem fun hm => by
    have hfree := ((p.mem_freeIndices).mp hm).2
    rw [h] at hfree
    cases hfree

theorem numFree_eq : p.numFree = (p.freeIndices.map p.width).sum := by
  rw [numFree, List.sum_eq_foldl]
  rfl

theorem length_state : p.state.length = p.numFree := by
  rw [numFree_eq, state, List.length_flatMap]
  rfl

theorem slot_add_width_le {pre post : List Nat} {i : Nat} (h : p.freeIndices = pre ++ i :: post) :
    (pre.map p.width).sum + p.width i ≤ p.numFree := by
  rw [numFree_eq, h]
  simp [List.sum_append]

end Layout

section Refill

variable (p : Problem κ) (x : List Float)

theorem getElem?_setState (i : Nat) :
    (p.setState x).blocks[i]? = p.blocks[i]?.map fun b => refill b (p.slot i) x := by
  have hz : (p.blocks.zip (List.range p.blocks.length))[i]? = p.blocks[i]?.map fun b => (b, i) := by
    rcases hb : p.blocks[i]? with _ | b
    · have hi : p.blocks.length ≤ i := List.getElem?_eq_none_iff.mp hb
      simp [hi]
    · have hi : i < p.blocks.length := (List.getElem?_eq_some_iff.mp hb).1
      exact List.getElem?_zip_eq_some.mpr ⟨hb, List.getElem?_range hi⟩
  simp only [setState, List.getElem?_map, hz, Option.map_map]
  congr 1
  funext b
  rcases hs : p.offsets.find? (·.1 == i) with _ | ⟨j, off⟩ <;> simp [slot, hs, refill]

@[simp] theorem setState_keys : (p.setState x).keys = p.keys := rfl

@[simp] theorem setState_residuals : (p.setState x).residuals = p.residuals := rfl

@[simp] theorem length_blocks_setState : (p.setState x).blocks.length = p.blocks.length := by
  simp [setState]

theorem getD_setState (i : Nat) :
    (p.setState x).blocks.getD i default = refill (p.blocks.getD i default) (p.slot i) x := by
  rw [List.getD_eq_getElem?_getD, getElem?_setState, List.getD_eq_getElem?_getD]
  rcases hb : p.blocks[i]? with _ | b
  · -- past the last block there is no free block
    have hs : p.slot i = none := p.slot_of_not_mem fun hm =>
      absurd ((p.mem_freeIndices).mp hm).1 (by simpa using hb)
    simp [hs, refill]
  · simp

/-- A constant block is never moved. -/
theorem getElem?_setState_of_constant {i : Nat}
    (h : (p.blocks.getD i default).constant = true) :
    (p.setState x).blocks[i]? = p.blocks[i]? := by
  rw [getElem?_setState, p.slot_of_constant h]
  cases p.blocks[i]? <;> rfl

theorem constant_setState (i : Nat) :
    ((p.setState x).blocks.getD i default).constant = (p.blocks.getD i default).constant := by
  rw [getD_setState]
  cases p.slot i <;> rfl

theorem freeIndices_setState : (p.setState x).freeIndices = p.freeIndices := by
  simp only [freeIndices, length_blocks_setState, constant_setState]

theorem width_setState (hx : p.numFree ≤ x.length) (i : Nat) :
    (p.setState x).width i = p.width i := by
  unfold width
  rw [getD_setState]
  by_cases hm : i ∈ p.freeIndices
  · obtain ⟨pre, post, hsplit⟩ := List.append_of_mem hm
    have hle := p.slot_add_width_le hsplit
    have hw : p.width i = (p.blocks.getD i default).values.length := rfl
    rw [p.slot_of_split hsplit]
    simp only [refill, List.length_take, List.length_drop]
    omega
  · rw [p.slot_of_not_mem hm]
    rfl

theorem offsets_setState (hx : p.numFree ≤ x.length) : (p.setState x).offsets = p.offsets := by
  rw [offsets_eq, offsets_eq, freeIndices_setState]
  exact p.offsetsFrom_congr (fun i _ => p.width_setState x hx i) 0

theorem slot_setState (hx : p.numFree ≤ x.length) : (p.setState x).slot = p.slot := by
  funext i
  simp only [slot, p.offsets_setState x hx]

theorem numFree_setState (hx : p.numFree ≤ x.length) : (p.setState x).numFree = p.numFree := by
  rw [numFree_eq, numFree_eq, freeIndices_setState]
  congr 1
  exact List.map_congr_left fun i _ => p.width_setState x hx i

/-- Setting the state twice is setting the second vector, once the first covers the free
parameters. -/
theorem setState_setState (hx : p.numFree ≤ x.length) (y : List Float) :
    (p.setState x).setState y = p.setState y := by
  have hblocks : ((p.setState x).setState y).blocks = (p.setState y).blocks := by
    apply List.ext_getElem?
    intro i
    rw [getElem?_setState, slot_setState p x hx, getElem?_setState, getElem?_setState,
      Option.map_map]
    rcases hb : p.blocks[i]? with _ | b
    · rfl
    · -- a free block refilled from `x` still has its width, so `y` overwrites it whole
      by_cases hm : i ∈ p.freeIndices
      · obtain ⟨pre, post, hsplit⟩ := List.append_of_mem hm
        have hle := p.slot_add_width_le hsplit
        have hw : b.values.length = p.width i := by
          simp [width, List.getD_eq_getElem?_getD, hb]
        rw [p.slot_of_split hsplit]
        simp only [Option.map_some, Function.comp, refill, List.length_take, List.length_drop]
        rw [Nat.min_eq_left (by omega)]
      · rw [p.slot_of_not_mem hm]
        rfl
  cases p
  simp only [setState] at hblocks ⊢
  rw [hblocks]

/-- A problem set to its own state is itself. -/
theorem setState_state : p.setState p.state = p := by
  have hblocks : (p.setState p.state).blocks = p.blocks := by
    apply List.ext_getElem?
    intro i
    rw [getElem?_setState]
    rcases hb : p.blocks[i]? with _ | b
    · rfl
    · by_cases hm : i ∈ p.freeIndices
      · -- the stretch of block `i` in the state is its own values
        obtain ⟨pre, post, hsplit⟩ := List.append_of_mem hm
        have hbi : p.blocks.getD i default = b := by simp [List.getD_eq_getElem?_getD, hb]
        have hpre : (pre.flatMap fun j => (p.blocks.getD j default).values).length =
            (pre.map p.width).sum := by
          rw [List.length_flatMap]
          rfl
        rw [p.slot_of_split hsplit]
        simp only [Option.map_some, refill, state, hsplit, List.flatMap_append,
          List.flatMap_cons, hbi]
        rw [List.drop_left' hpre, List.take_left' rfl]
      · rw [p.slot_of_not_mem hm]
        rfl
  cases p
  simp only [setState] at hblocks ⊢
  rw [hblocks]

theorem flatMap_refill {pre post : List Nat} (h : p.freeIndices = pre ++ post) :
    post.flatMap (fun i => (refill (p.blocks.getD i default) (p.slot i) x).values) =
      (x.drop (pre.map p.width).sum).take (post.map p.width).sum := by
  induction post generalizing pre with
  | nil => simp
  | cons i post ih =>
    have hsplit : p.freeIndices = (pre ++ [i]) ++ post := by
      rw [h, List.append_assoc, List.singleton_append]
    have hrest := ih hsplit
    rw [List.flatMap_cons, hrest, p.slot_of_split h]
    simp only [refill, List.map_append, List.map_cons, List.map_nil, List.sum_append,
      List.sum_cons, List.sum_nil, Nat.add_zero]
    -- block `i` takes the first `width i` of its stretch, the rest take what follows
    rw [List.take_add, List.drop_drop]
    rfl

theorem state_setState (hx : x.length = p.numFree) : (p.setState x).state = x := by
  have h := p.flatMap_refill x (show p.freeIndices = [] ++ p.freeIndices from rfl)
  simp only [List.map_nil, List.sum_nil, List.drop_zero] at h
  simp only [state, freeIndices_setState, getD_setState]
  rw [h, ← numFree_eq, ← hx, List.take_length]

end Refill

end Lighthouse.Problem
