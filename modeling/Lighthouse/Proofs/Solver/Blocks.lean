import Lighthouse.Proofs.Solver.State
import Mathlib
/-!
# Building a problem block by block

A problem is built by adding blocks under keys and residual blocks over keys. `addBlock` appends
a block under a key it does not know, and under a known key only marks that block constant; a
residual is refused unless it knows all its keys, and reads the blocks found under them. While
keys and blocks stay side by side (`Aligned`), whatever was found is still found, at the same
index and with the same block, after a new key is added (`indexOf?_addBlock_of_some`,
`block?_addBlock_of_some`), the new key is found at the end (`block?_addBlock_self`), a known
block that is already constant is left as it is (`addBlock_of_constant`), and the free blocks
grow by the new block exactly when it is free (`freeIndices_addBlock_new`).
-/
namespace Lighthouse.Problem

variable {κ : Type} [BEq κ]

@[simp] theorem residuals_addBlock (p : Problem κ) (k : κ) (v : NumArray) (c : Bool) :
    (p.addBlock k v c).residuals = p.residuals := by
  unfold addBlock
  split
  · rfl
  · split <;> rfl

/-- Keys and blocks side by side: block `i` is the block under key `i`. -/
def Aligned (p : Problem κ) : Prop := p.keys.length = p.blocks.length

theorem indexOf?_lt {p : Problem κ} {k : κ} {i : Nat} (h : p.indexOf? k = some i) :
    i < p.keys.length :=
  (List.findIdx?_eq_some_iff_getElem.mp h).1

theorem isSome_block? {p : Problem κ} (ha : p.Aligned) {k : κ} {i : Nat}
    (h : p.indexOf? k = some i) : ∃ b, p.blocks[i]? = some b ∧ p.block? k = some b := by
  have hi : i < p.blocks.length := ha ▸ indexOf?_lt h
  exact ⟨p.blocks[i], List.getElem?_eq_getElem hi, by simp [block?, h]⟩

theorem indexOf?_of_block? {p : Problem κ} {k : κ} {b : ParamBlock} (h : p.block? k = some b) :
    ∃ i, p.indexOf? k = some i ∧ p.blocks[i]? = some b := by
  unfold block? at h
  cases hk : p.indexOf? k with
  | none => simp [hk] at h
  | some i => exact ⟨i, rfl, by simpa [hk] using h⟩

theorem block?_setState {p : Problem κ} {k : κ} {b : ParamBlock} (x : List Float)
    (h : p.block? k = some b) : ∃ place, (p.setState x).block? k = some (refill b place x) := by
  obtain ⟨i, hi, hb⟩ := indexOf?_of_block? h
  refine ⟨p.slot i, ?_⟩
  -- setting the state keeps the keys, so the key is found where it was
  have hidx : (p.setState x).indexOf? k = some i := hi
  simp only [block?, hidx, Option.bind_some, getElem?_setState, hb, Option.map_some]

section New

variable {p : Problem κ} {k : κ} {v : NumArray} {c : Bool}

theorem addBlock_new (h : p.indexOf? k = none) :
    p.addBlock k v c =
      { p with keys := p.keys ++ [k], blocks := p.blocks ++ [⟨v.values, v.shape, c⟩] } := by
  simp [addBlock, h]

theorem Aligned.addBlock_new (ha : p.Aligned) (h : p.indexOf? k = none) :
    (p.addBlock k v c).Aligned := by
  rw [Problem.addBlock_new h]
  simp only [Aligned, List.length_append, List.length_singleton]
  exact congrArg (· + 1) ha

theorem indexOf?_addBlock_new (h : p.indexOf? k = none) (k' : κ) :
    (p.addBlock k v c).indexOf? k' =
      (p.indexOf? k').or (if (k == k') = true then some p.keys.length else none) := by
  rw [Problem.addBlock_new h]
  simp only [indexOf?, List.findIdx?_append, List.findIdx?_singleton]
  split <;> simp

theorem block?_addBlock_self (ha : p.Aligned) (h : p.indexOf? k = none) (hk : (k == k) = true) :
    (p.addBlock k v c).block? k = some ⟨v.values, v.shape, c⟩ := by
  have hidx := indexOf?_addBlock_new (v := v) (c := c) h k
  rw [h, if_pos hk] at hidx
  simp only [block?, hidx, Option.none_or, Option.bind_some]
  rw [Problem.addBlock_new h, ha]
  simp

/-- The free blocks after a new block: those before, and the new one when it is free. -/
theorem freeIndices_addBlock_new (h : p.indexOf? k = none) :
    (p.addBlock k v c).freeIndices = p.freeIndices ++ (if c then [] else [p.blocks.length]) := by
  rw [Problem.addBlock_new h]
  simp only [freeIndices, List.length_append, List.length_singleton, List.range_succ,
    List.filter_append]
  congr 1
  · refine List.filter_congr fun i hi => ?_
    rw [List.getD_append _ _ _ _ (List.mem_range.mp hi)]
  · cases c <;> simp

end New

section Found

variable {p : Problem κ} {k k' : κ} {v : NumArray} {c : Bool}

/-- A key found before any addition is still found at the same index. -/
theorem indexOf?_addBlock_of_some {i : Nat} (h : p.indexOf? k' = some i) :
    (p.addBlock k v c).indexOf? k' = some i := by
  cases hk : p.indexOf? k with
  | none => simp [indexOf?_addBlock_new hk, h]
  | some j =>
    simp only [addBlock, hk]
    split
    · exact h
    · exact h

/-- A block found before a new key is added is still found. -/
theorem block?_addBlock_of_some (ha : p.Aligned) (h : p.indexOf? k = none) {b : ParamBlock}
    (hb : p.block? k' = some b) : (p.addBlock k v c).block? k' = some b := by
  obtain ⟨i, hi, hbi⟩ := indexOf?_of_block? hb
  have hlt : i < p.blocks.length := ha ▸ indexOf?_lt hi
  simp only [block?, indexOf?_addBlock_of_some hi, Option.bind_some]
  rw [Problem.addBlock_new h, List.getElem?_append_left hlt, hbi]

/-- Marking constant a known block that already is changes nothing. -/
theorem addBlock_of_constant {i : Nat} (h : p.indexOf? k = some i)
    (hc : ∀ b, p.blocks[i]? = some b → b.constant = true) : p.addBlock k v true = p := by
  simp only [addBlock, h, if_true]
  have hmod : p.blocks.modify i (fun b => { b with constant := true }) = p.blocks := by
    refine List.ext_getElem? fun j => ?_
    rw [List.getElem?_modify]
    by_cases hij : i = j
    · subst hij
      cases hb : p.blocks[i]? with
      | none => rfl
      | some b =>
        have hbc := hc b hb
        simp only [Option.map_eq_map, Option.map_some, if_true]
        cases b
        simp only at hbc
        rw [hbc]
    · simp [hij]
  rw [hmod]

end Found

theorem addResidual_of_known {p : Problem κ} {shown : κ → String}
    {eval : List NumArray → Outcome NumArray} {ks : List κ} {lossScale : Option Float}
    (h : ∀ k ∈ ks, (p.indexOf? k).isSome = true) :
    p.addResidual shown eval ks lossScale =
      .ok { p with residuals := p.residuals ++ [⟨eval, ks.filterMap p.indexOf?, lossScale⟩] } := by
  have hmissing : (ks.filter fun k => (p.indexOf? k).isNone).isEmpty = true := by
    simp only [List.isEmpty_iff, List.filter_eq_nil_iff, Option.isNone_iff_eq_none]
    intro k hk hnone
    simpa [hnone] using h k hk
  simp [addResidual, hmissing]

theorem map_some_filterMap_indexOf? {p : Problem κ} :
    ∀ {ks : List κ}, (∀ k ∈ ks, (p.indexOf? k).isSome = true) →
      (ks.filterMap p.indexOf?).map some = ks.map p.indexOf?
  | [], _ => rfl
  | k :: ks, h => by
    obtain ⟨i, hi⟩ := Option.isSome_iff_exists.mp (h k List.mem_cons_self)
    rw [List.filterMap_cons, hi, List.map_cons, List.map_cons, hi,
      map_some_filterMap_indexOf? fun k' hk' => h k' (List.mem_cons_of_mem k hk')]

end Lighthouse.Problem
