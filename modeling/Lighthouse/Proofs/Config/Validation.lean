import Mathlib
import Lighthouse.Proofs.Calibration.Table
import Lighthouse.Proofs.Site.CalibrationFile
import Lighthouse.Proofs.Binary64.Defined
import Lighthouse.Config
/-!
# What a configuration read from a document guarantees

`Config.ofJson` reads a document field by field and then runs `validate`. A configuration it
returns is `WellFormed`: its resolution is not at or below zero, its threshold count is a number
not below zero, its iteration limit and thread count are numbers not below one, the serials of
its lighthouses and of its trackers are pairwise distinct, and each tracker's sensor table has
rows of three values or rows of six (`ofJson_wellFormed`). A document that is no object is
refused with a configuration fault.

The checks compare numbers as they come: a count or a limit may be a float, fractional or
infinite, and the resolution may be infinite (`fractional_settings_accepted`).
-/
namespace Lighthouse

section EraseDups

variable {α : Type} [BEq α]

theorem length_eraseDups_le : ∀ l : List α, l.eraseDups.length ≤ l.length
  | [] => by simp [List.eraseDups]
  | a :: l => by
    rw [List.eraseDups_cons, List.length_cons, List.length_cons]
    exact Nat.succ_le_succ ((length_eraseDups_le _).trans (List.length_filter_le _ _))
termination_by l => l.length
decreasing_by exact Nat.lt_succ_of_le (List.length_filter_le _ _)

theorem nodup_of_length_eraseDups [LawfulBEq α] : ∀ {l : List α}, l.eraseDups.length = l.length → l.Nodup
  | [], _ => List.nodup_nil
  | a :: l, h => by
    rw [List.eraseDups_cons, List.length_cons, List.length_cons, Nat.succ.injEq] at h
    -- the filter drops nothing, so `a` is not in `l` and `l` is what is left
    have hf : (l.filter fun b => !b == a).length = l.length :=
      le_antisymm (List.length_filter_le _ _) (h ▸ length_eraseDups_le _)
    have hkeep := List.length_filter_eq_length_iff.mp hf
    have hl : l.filter (fun b => !b == a) = l := List.filter_eq_self.mpr hkeep
    rw [hl] at h
    refine List.nodup_cons.mpr ⟨fun ha => ?_, nodup_of_length_eraseDups h⟩
    simpa using hkeep a ha

theorem eraseDups_eq_self [LawfulBEq α] : ∀ {l : List α}, l.Nodup → l.eraseDups = l
  | [], _ => rfl
  | a :: l, h => by
    obtain ⟨ha, hl⟩ := List.nodup_cons.mp h
    have hkeep : l.filter (fun b => !b == a) = l :=
      List.filter_eq_self.mpr fun b hb => by
        have hba : b ≠ a := fun e => ha (e ▸ hb)
        simpa using hba
    rw [List.eraseDups_cons, hkeep, eraseDups_eq_self hl]

end EraseDups

/-! ### Outcomes of a map -/

theorem Outcome.mem_of_mapM_ok {α β : Type} {g : α → Outcome β} :
    ∀ {xs : List α} {ys : List β}, xs.mapM g = .ok ys → ∀ y ∈ ys, ∃ x ∈ xs, g x = .ok y
  | [], ys, h => by
    cases h
    simp
  | x :: xs, ys, h => by
    rw [List.mapM_cons] at h
    obtain ⟨y', hy', h⟩ := Outcome.bind_eq_ok h
    obtain ⟨ys', hys', h⟩ := Outcome.bind_eq_ok h
    cases h
    intro y hy
    rcases List.mem_cons.mp hy with rfl | hy
    · exact ⟨x, List.mem_cons_self, hy'⟩
    · obtain ⟨x', hx', hg⟩ := mem_of_mapM_ok hys' y hy
      exact ⟨x', List.mem_cons_of_mem x hx', hg⟩

/-! ### Shapes of numeric arrays -/

namespace ShapeScan

lemma scanItems_eq_map (xs : List Json) : scanItems xs = xs.map scanShape := by
  induction xs with
  | nil => rfl
  | cons x xs ih => rw [scanItems, ih, List.map_cons]

lemma combine_uniform {n : Nat} {items : List ShapeScan} {ds : List Nat}
    (h : combine n items = .uniform ds) : ∃ d, ds = n :: d ∧ ∀ s ∈ items, s = .uniform d := by
  unfold combine at h
  split at h
  · cases h
    exact ⟨[], rfl, by simp⟩
  · rename_i first rest
    dsimp only at h
    split at h
    · rename_i d
      split at h
      · rename_i hall
        cases h
        refine ⟨d, rfl, fun s hs => ?_⟩
        rcases List.mem_cons.mp hs with rfl | hs
        · rfl
        · have hs' := List.all_eq_true.mp hall s hs
          cases s with
          | uniform b => simp only [beq_iff_eq] at hs'; rw [hs']
          | ragged b => cases hs'
      · cases h
    · cases h

end ShapeScan

mutual

lemma flatValues_length : ∀ (j : Json) {d : List Nat} {vs : List Float},
    scanShape j = .uniform d → flatValues j = .ok vs → vs.length = d.prod
  | .arr xs, d, vs, hs, hv => by
    rw [scanShape] at hs
    obtain ⟨d', rfl, hall⟩ := ShapeScan.combine_uniform hs
    rw [flatValues] at hv
    rw [flatItems_length xs (fun x hx => hall _ (by
      rw [ShapeScan.scanItems_eq_map]
      exact List.mem_map_of_mem hx)) hv, List.prod_cons]
  | .null, d, vs, hs, hv | .bool _, d, vs, hs, hv | .int _, d, vs, hs, hv
  | .float _, d, vs, hs, hv | .str _, d, vs, hs, hv | .obj _, d, vs, hs, hv => by
    unfold scanShape at hs
    cases hs
    unfold flatValues at hv
    cases hsc : scalarOf _ with
    | error e => rw [hsc] at hv; cases hv
    | ok x => rw [hsc] at hv; cases hv; rfl

lemma flatItems_length : ∀ (xs : List Json) {d : List Nat} {vs : List Float},
    (∀ x ∈ xs, scanShape x = .uniform d) → flatItems xs = .ok vs → vs.length = xs.length * d.prod
  | [], d, vs, _, hv => by
    cases hv
    exact (Nat.zero_mul _).symm
  | x :: xs, d, vs, hall, hv => by
    rw [flatItems] at hv
    obtain ⟨a, ha, hv⟩ := Outcome.bind_eq_ok hv
    obtain ⟨b, hb, hv⟩ := Outcome.bind_eq_ok hv
    cases hv
    rw [List.length_append, flatValues_length x (hall x List.mem_cons_self) ha,
      flatItems_length xs (fun y hy => hall y (List.mem_cons_of_mem x hy)) hb, List.length_cons,
      Nat.succ_mul, Nat.add_comm]

end

namespace NumArray

lemma ofJson_size {j : Json} {a : NumArray} (h : ofJson j = .ok a) : a.values.length = a.shape.prod := by
  unfold ofJson at h
  split at h
  · cases h
  · rename_i d hd
    obtain ⟨vs, hvs, h⟩ := Outcome.bind_eq_ok h
    cases h
    exact flatValues_length j hd hvs

lemma length_of_mem_rows {a : NumArray} {n c : Nat} (hs : a.shape = [n, c])
    (hv : a.values.length = n * c) : ∀ r ∈ a.rows, r.length = c := by
  intro r hr
  unfold rows at hr
  rw [hs] at hr
  obtain ⟨i, hi, rfl⟩ := List.mem_map.mp hr
  have hrow : (i + 1) * c ≤ n * c := Nat.mul_le_mul_right c (List.mem_range.mp hi)
  rw [Nat.succ_mul] at hrow
  rw [List.length_take, List.length_drop, hv]
  generalize i * c = p at hrow ⊢
  generalize n * c = q at hrow ⊢
  omega

end NumArray

/-! ### Numbers as their readers take them -/

namespace Json

def IsNumber : Json → Prop
  | .int _ | .bool _ | .float _ => True
  | _ => False

def IsFiniteNumber : Json → Prop
  | .int _ | .bool _ => True
  | .float x => x.isFinite = true
  | _ => False

def IsWhole : Json → Prop
  | .int _ | .bool _ => True
  | _ => False

mutual

/-- Whether every integer written in a document converts to a float. -/
def intsFit : Json → Bool
  | .int n => !Binary64.overflows n.natAbs 1
  | .arr xs => itemsFit xs
  | .obj fs => fieldsFit fs
  | _ => true

def itemsFit : List Json → Bool
  | [] => true
  | x :: xs => x.intsFit && itemsFit xs

def fieldsFit : List (String × Json) → Bool
  | [] => true
  | (_, x) :: fs => x.intsFit && fieldsFit fs

end

lemma itemsFit_mem {xs : List Json} {j : Json} (h : itemsFit xs = true) (hj : j ∈ xs) :
    j.intsFit = true := by
  induction xs with
  | nil => cases hj
  | cons x xs ih =>
    rw [itemsFit, Bool.and_eq_true] at h
    rcases List.mem_cons.mp hj with rfl | hj
    · exact h.1
    · exact ih h.2 hj

lemma fieldsFit_mem {fs : List (String × Json)} {k : String} {j : Json} (h : fieldsFit fs = true)
    (hj : (k, j) ∈ fs) : j.intsFit = true := by
  induction fs with
  | nil => cases hj
  | cons p fs ih =>
    obtain ⟨k', x⟩ := p
    rw [fieldsFit, Bool.and_eq_true] at h
    rcases List.mem_cons.mp hj with he | hj
    · cases he
      exact h.1
    · exact ih h.2 hj

lemma HasInt.fits {j : Json} {n : Int} (h : j.HasInt n) : j.intsFit = true →
    Binary64.overflows n.natAbs 1 = false := by
  induction h with
  | int n => simp [intsFit]
  | arr hm _ ih => exact fun hj => ih (itemsFit_mem hj hm)
  | obj hm _ ih => exact fun hj => ih (fieldsFit_mem hj hm)

lemma mem_of_get? {fs : List (String × Json)} {k : String} {v : Json}
    (h : (Json.obj fs).get? k = some v) : (k, v) ∈ fs := by
  simp only [get?, Option.map_eq_some_iff] at h
  obtain ⟨⟨k', v'⟩, hf, rfl⟩ := h
  have hk : k' = k := by simpa using List.find?_some hf
  subst hk
  exact List.mem_of_find?_eq_some hf

lemma IsFiniteNumber.isNumber {j : Json} (h : j.IsFiniteNumber) : j.IsNumber := by
  cases j <;> simp_all [IsFiniteNumber, IsNumber]

lemma IsWhole.isNumber {j : Json} (h : j.IsWhole) : j.IsNumber := by
  cases j <;> simp_all [IsWhole, IsNumber]

lemma IsNumber.ltInt {j : Json} (h : j.IsNumber) (n : Int) : ∃ b, j.ltInt n = .ok b := by
  cases j with
  | int m => exact ⟨_, rfl⟩
  | bool b => exact ⟨_, rfl⟩
  | float x => exact ⟨_, rfl⟩
  | _ => simp [IsNumber] at h

lemma IsNumber.toFloat {j : Json} (h : j.IsNumber) (hj : j.intsFit = true) :
    ∃ x, j.toFloat = .ok x := by
  cases j with
  | int n =>
    have hn : Binary64.overflows n.natAbs 1 = false := by simpa [intsFit] using hj
    exact ⟨_, by rw [Json.toFloat, intToFloat, if_neg (by simp [hn])]⟩
  | bool b => exact ⟨_, rfl⟩
  | float x => exact ⟨x, rfl⟩
  | _ => simp [IsNumber] at h

lemma IsFiniteNumber.toFloat_isFinite {j : Json} {x : Float} (h : j.IsFiniteNumber)
    (hx : j.toFloat = .ok x) : x.isFinite = true := by
  cases j with
  | int n =>
    rw [Json.toFloat, intToFloat] at hx
    split at hx
    · cases hx
    · rename_i ho
      cases hx
      exact Binary64.ofRatio_isFinite _ (by simpa using ho)
  | bool b =>
    cases hx
    cases b <;> decide +kernel
  | float y =>
    cases hx
    exact h
  | _ => simp [IsFiniteNumber] at h

lemma mem_insertField {fs : List (String × Json)} {k : String} {v : Json} {p : String × Json}
    (h : p ∈ insertField fs k v) : p = (k, v) ∨ p ∈ fs := by
  unfold insertField at h
  split at h
  · obtain ⟨q, hq, rfl⟩ := List.mem_map.mp h
    split
    · exact .inl rfl
    · exact .inr hq
  · rcases List.mem_append.mp h with h | h
    · exact .inr h
    · exact .inl (List.mem_singleton.mp h)

lemma key_mem_insertField {fs : List (String × Json)} {k k' : String} {v v' : Json}
    (h : (k', v') ∈ fs) : ∃ w, (k', w) ∈ insertField fs k v := by
  unfold insertField
  split
  · by_cases hk : k' = k
    · subst hk
      exact ⟨v, List.mem_map.mpr ⟨(k', v'), h, by simp⟩⟩
    · exact ⟨v', List.mem_map.mpr ⟨(k', v'), h, by simp [hk]⟩⟩
  · exact ⟨v', List.mem_append_left _ h⟩

end Json

theorem Outcome.foldlM_invariant_of_mem {α β : Type} (P : β → Prop) {f : β → α → Outcome β} :
    ∀ {xs : List α}, (∀ b a b', a ∈ xs → P b → f b a = .ok b' → P b') →
      ∀ {b b' : β}, P b → xs.foldlM f b = .ok b' → P b'
  | [], _, _, _, hb, h => by
    cases h
    exact hb
  | x :: xs, hf, b, _, hb, h => by
    rw [List.foldlM_cons] at h
    obtain ⟨c, hc, h⟩ := Outcome.bind_eq_ok h
    exact foldlM_invariant_of_mem P (fun b a b' ha => hf b a b' (List.mem_cons_of_mem x ha))
      (hf b x c List.mem_cons_self hb hc) h

/-! ### Reading a configuration -/

variable {f : Fault}

lemma parseSensors_rows {name : String} {j : Json} {t : SensorTable} (h : parseSensors name j = .ok t) :
    (∀ r ∈ t.rows, r.length = 3) ∨ (∀ r ∈ t.rows, r.length = 6) := by
  unfold parseSensors at h
  obtain ⟨a, ha, h⟩ := Outcome.bind_eq_ok h
  have hsize := NumArray.ofJson_size ha
  split at h
  · cases h
    exact .inl (by simp)
  · split at h
    · rename_i n hs
      cases h
      rw [hs, List.prod_cons, List.prod_cons, List.prod_nil, Nat.mul_one] at hsize
      exact .inl (NumArray.length_of_mem_rows hs hsize)
    · rename_i n hs
      cases h
      rw [hs, List.prod_cons, List.prod_cons, List.prod_nil, Nat.mul_one] at hsize
      exact .inr (NumArray.length_of_mem_rows hs hsize)
    · cases h

lemma parseTracker_rows {index : Nat} {entry : Json} {t : TrackerSetup}
    (h : parseTracker index entry = .ok t) :
    (∀ r ∈ t.sensors.rows, r.length = 3) ∨ (∀ r ∈ t.sensors.rows, r.length = 6) := by
  unfold parseTracker at h
  obtain ⟨_, -, h⟩ := Outcome.bind_eq_ok h
  split at h
  · cases h
  obtain ⟨_, -, h⟩ := Outcome.bind_eq_ok h
  obtain ⟨_, -, h⟩ := Outcome.bind_eq_ok h
  obtain ⟨_, -, h⟩ := Outcome.bind_eq_ok h
  obtain ⟨sensors, hsensors, h⟩ := Outcome.bind_eq_ok h
  obtain ⟨_, -, h⟩ := Outcome.bind_eq_ok h
  cases h
  exact parseSensors_rows hsensors



/-! ### Settings -/

lemma settings_kind {qualified short : String} {defaults : List (String × Json)} {given : Json}
    (h : settings qualified short defaults given = .error f) : f.kind = .config := by
  unfold settings at h
  split at h
  · cases h
  · cases h
    rfl

lemma setting_of_mem {fs : List (String × Json)} {k : String} {Q : Json → Prop}
    (hk : ∃ v, (k, v) ∈ fs) (hq : ∀ v, (k, v) ∈ fs → Q v) : Q (setting fs k) := by
  unfold setting
  cases hf : fs.find? (·.1 == k) with
  | none =>
    obtain ⟨v, hv⟩ := hk
    exact absurd (List.find?_eq_none.mp hf (k, v) hv) (by simp)
  | some p =>
    obtain ⟨k', v⟩ := p
    have hk' : k' = k := by simpa using List.find?_some hf
    subst hk'
    exact hq v (List.mem_of_find?_eq_some hf)

lemma setting_of_settings {qualified short k : String} {defaults fs : List (String × Json)}
    {given : Json} {Q : Json → Prop} (h : settings qualified short defaults given = .ok fs)
    (hk : ∃ v, (k, v) ∈ defaults) (hdef : ∀ v, (k, v) ∈ defaults → Q v)
    (hgiven : ∀ gfs v, given = .obj gfs → (k, v) ∈ gfs → Q v) : Q (setting fs k) := by
  unfold settings at h
  split at h
  · rename_i fs' hfs
    cases h
    unfold Json.overrideSettings at hfs
    split at hfs
    · rename_i gfs
      -- each override keeps a field named `k`, and sets one only to a value given for it
      refine (Outcome.foldlM_invariant_of_mem
        (fun acc => (∃ v, (k, v) ∈ acc) ∧ ∀ v, (k, v) ∈ acc → Q v)
        (fun acc p acc' hp hacc hstep => ?_) ⟨hk, hdef⟩ hfs).elim setting_of_mem
      split at hstep
      · cases hstep
        refine ⟨?_, fun v hv => ?_⟩
        · obtain ⟨v, hv⟩ := hacc.1
          exact Json.key_mem_insertField hv
        · rcases Json.mem_insertField hv with he | hv
          · obtain ⟨k', v'⟩ := p
            cases he
            exact hgiven gfs _ rfl hp
          · exact hacc.2 v hv
      · cases hstep
    · cases hfs
  · cases h

lemma setting_whole {d : Json} {key k q s : String} {defaults fs : List (String × Json)}
    (h : settings q s defaults ((d.get? key).getD (.obj [])) = .ok fs)
    (hk : ∃ v, (k, v) ∈ defaults) (hdef : ∀ v, (k, v) ∈ defaults → v.IsWhole)
    (hgiven : ∀ gfs v, d.get? key = some (.obj gfs) → (k, v) ∈ gfs → v.IsWhole) :
    (setting fs k).IsWhole :=
  setting_of_settings h hk hdef fun gfs v hg hv => by
    cases hkey : d.get? key with
    | none =>
      rw [hkey] at hg
      cases hg
      cases hv
    | some t =>
      rw [hkey] at hg
      cases hg
      exact hgiven gfs v hkey hv

/-! ### Entries -/

lemma getOr_fits {fs : List (String × Json)} {k : String} {dflt v : Json}
    (h : (Json.obj fs).getOr k dflt = .ok v) (hfs : (Json.obj fs).intsFit = true)
    (hd : dflt.intsFit = true) : v.intsFit = true := by
  unfold Json.getOr at h
  cases h
  cases hk : (Json.obj fs).get? k with
  | none => exact hd
  | some w => exact Json.fieldsFit_mem hfs (Json.mem_of_get? hk)

lemma parsePose_kind {j : Json} {what : String} (hj : j.intsFit = true)
    (h : parsePose j what = .error f) : f.kind = .config := by
  unfold parsePose at h
  split at h
  · cases h
  · rename_i g hg
    split at h
    · cases h
      rfl
    · rename_i hk
      cases h
      -- reading the pose fails with a value or type fault, which becomes a configuration fault
      refine absurd ?_ hk
      unfold poseOfJson at hg
      rcases Outcome.bind_eq_error hg with hg | ⟨a, -, hg⟩
      · exact ((NumArray.ofJson_fault hg).kind_of_fits fun n hn => hn.fits hj).symm
      · split at hg
        · exact .inr (ofPose7_kind hg)
        · cases hg
          exact .inr rfl

lemma parseSensors_kind {name : String} {j : Json} (hj : ∃ a, NumArray.ofJson j = .ok a)
    (h : parseSensors name j = .error f) : f.kind = .config := by
  obtain ⟨a, ha⟩ := hj
  unfold parseSensors at h
  rcases Outcome.bind_eq_error h with h | ⟨_, -, h⟩
  · rw [ha] at h
    cases h
  split at h
  · cases h
  · split at h
    · cases h
    · cases h
    · cases h
      rfl

lemma parseLighthouse_kind {i : Nat} {e : Json} (he : ∃ fs, e = .obj fs) (hfit : e.intsFit = true)
    (h : parseLighthouse i e = .error f) : f.kind = .config := by
  obtain ⟨fs, rfl⟩ := he
  unfold parseLighthouse at h
  rcases Outcome.bind_eq_error h with h | ⟨_, -, h⟩
  · cases h
  split at h
  · cases h
    rfl
  rcases Outcome.bind_eq_error h with h | ⟨_, -, h⟩
  · cases h
  rcases Outcome.bind_eq_error h with h | ⟨t, ht, h⟩
  · cases h
  rcases Outcome.bind_eq_error h with h | ⟨_, -, h⟩
  · exact parsePose_kind (getOr_fits ht hfit (by decide +kernel)) h
  · cases h

lemma parseTracker_kind {i : Nat} {e : Json} (he : ∃ fs, e = .obj fs) (hfit : e.intsFit = true)
    (hs : ∀ s, e.get? "sensors" = some s → ∃ a, NumArray.ofJson s = .ok a)
    (h : parseTracker i e = .error f) : f.kind = .config := by
  obtain ⟨fs, rfl⟩ := he
  unfold parseTracker at h
  rcases Outcome.bind_eq_error h with h | ⟨_, -, h⟩
  · cases h
  split at h
  · cases h
    rfl
  rcases Outcome.bind_eq_error h with h | ⟨_, -, h⟩
  · cases h
  rcases Outcome.bind_eq_error h with h | ⟨t, ht, h⟩
  · cases h
  rcases Outcome.bind_eq_error h with h | ⟨sv, hsv, h⟩
  · cases h
  rcases Outcome.bind_eq_error h with h | ⟨_, -, h⟩
  · refine parseSensors_kind ?_ h
    unfold Json.getOr at hsv
    cases hsv
    cases hk : (Json.obj fs).get? "sensors" with
    | none => exact ⟨_, rfl⟩
    | some s => exact hs s hk
  rcases Outcome.bind_eq_error h with h | ⟨_, -, h⟩
  · exact parsePose_kind (getOr_fits ht hfit (by decide +kernel)) h
  · cases h

namespace Config

/-- The checks `validate` makes. Counts and limits are compared as the numbers they are, so they
are numbers, but need not be whole or finite. -/
structure Checked (c : Config) : Prop where
  /-- The resolution is not at or below zero. -/
  resolution : ¬c.resolution ≤ 0.0
  /-- The threshold count is a number not below zero. -/
  count : c.thresholds.count.ltInt 0 = .ok false
  /-- The iteration limit is a number not below one. -/
  maxIterations : c.solver.maxIterations.ltInt 1 = .ok false
  /-- The thread count is a number not below one. -/
  threads : c.solver.threads.ltInt 1 = .ok false
  /-- No two lighthouses share a serial. -/
  lighthouseSerials : (c.lighthouses.map (·.serial)).Nodup
  /-- No two trackers share a serial. -/
  trackerSerials : (c.trackers.map (·.serial)).Nodup

/-- A configuration as a document gives it: checked, and with sensor tables of rows of three
values or rows of six. -/
structure WellFormed (c : Config) : Prop extends c.Checked where
  /-- Each tracker's sensors are positions, or positions with normals. -/
  sensors : ∀ t ∈ c.trackers,
    (∀ r ∈ t.sensors.rows, r.length = 3) ∨ (∀ r ∈ t.sensors.rows, r.length = 6)

variable {c c' : Config}

lemma validate_eq_ok : c.validate = .ok c' ↔ c' = c ∧ c.Checked := by
  constructor
  · intro h
    unfold validate at h
    -- each check is a branch that faults; passing it leaves the hypothesis it rules out
    split at h
    · cases h
    rename_i hres
    obtain ⟨b₁, hb₁, h⟩ := Outcome.bind_eq_ok h
    split at h
    · cases h
    rename_i h₁
    obtain ⟨b₂, hb₂, h⟩ := Outcome.bind_eq_ok h
    split at h
    · cases h
    rename_i h₂
    obtain ⟨b₃, hb₃, h⟩ := Outcome.bind_eq_ok h
    split at h
    · cases h
    rename_i h₃
    dsimp only at h
    split at h
    · cases h
    rename_i h₄
    split at h
    · cases h
    rename_i h₅
    cases h
    simp only [Bool.not_eq_true] at h₁ h₂ h₃
    exact ⟨rfl, hres, h₁ ▸ hb₁, h₂ ▸ hb₂, h₃ ▸ hb₃, nodup_of_length_eraseDups (not_not.mp h₄),
      nodup_of_length_eraseDups (not_not.mp h₅)⟩
  · rintro ⟨rfl, hc⟩
    simp [validate, hc.resolution, hc.count, hc.maxIterations, hc.threads, bind, Except.bind,
      pure, Except.pure, eraseDups_eq_self hc.lighthouseSerials,
      eraseDups_eq_self hc.trackerSerials]

lemma validate_kind {f : Fault} (hc : c.thresholds.count.IsNumber)
    (hm : c.solver.maxIterations.IsNumber) (ht : c.solver.threads.IsNumber)
    (h : c.validate = .error f) : f.kind = .config := by
  obtain ⟨b₁, hb₁⟩ := hc.ltInt 0
  obtain ⟨b₂, hb₂⟩ := hm.ltInt 1
  obtain ⟨b₃, hb₃⟩ := ht.ltInt 1
  unfold validate at h
  split at h
  · cases h
    rfl
  rcases Outcome.bind_eq_error h with h | ⟨_, -, h⟩
  · rw [hb₁] at h
    cases h
  split at h
  · cases h
    rfl
  rcases Outcome.bind_eq_error h with h | ⟨_, -, h⟩
  · rw [hb₂] at h
    cases h
  split at h
  · cases h
    rfl
  rcases Outcome.bind_eq_error h with h | ⟨_, -, h⟩
  · rw [hb₃] at h
    cases h
  split at h
  · cases h
    rfl
  dsimp only at h
  split at h
  · cases h
    rfl
  split at h
  · cases h
    rfl
  · cases h

lemma wellFormed_of_ofJson {d : Json} (h : ofJson d = .ok c) : c.WellFormed := by
  unfold ofJson at h
  split at h
  swap
  · cases h
  obtain ⟨_, -, h⟩ := Outcome.bind_eq_ok h
  obtain ⟨_, -, h⟩ := Outcome.bind_eq_ok h
  obtain ⟨_, -, h⟩ := Outcome.bind_eq_ok h
  obtain ⟨_, -, h⟩ := Outcome.bind_eq_ok h
  obtain ⟨_, -, h⟩ := Outcome.bind_eq_ok h
  obtain ⟨_, -, h⟩ := Outcome.bind_eq_ok h
  obtain ⟨_, -, h⟩ := Outcome.bind_eq_ok h
  obtain ⟨trs, -, h⟩ := Outcome.bind_eq_ok h
  obtain ⟨trackers, htrackers, h⟩ := Outcome.bind_eq_ok h
  obtain ⟨rfl, hc⟩ := validate_eq_ok.mp h
  refine ⟨hc, fun t ht => ?_⟩
  obtain ⟨p, -, hp⟩ := Outcome.mem_of_mapM_ok htrackers t ht
  exact parseTracker_rows hp

/-! ### Documents of typed fields -/

/-- A document whose fields have the types their readers take. It is an object and writes no
integer too large for a float. Its resolution is an integer, a truth value or a finite float, and
its idle timeout a number. Its threshold count, iteration limit and thread count are integers or
truth values. Its lighthouses and trackers are lists of objects, and each tracker's sensors read
as an array of numbers. -/
structure Typed (d : Json) : Prop where
  obj : ∃ fs, d = .obj fs
  fits : d.intsFit = true
  resolution : ∀ r, d.get? "resolution" = some r → r.IsFiniteNumber
  idleTimeout : ∀ t, d.get? "idle_timeout" = some t → t.IsNumber
  count : ∀ fs v, d.get? "thresholds" = some (.obj fs) → ("count", v) ∈ fs → v.IsWhole
  maxIterations : ∀ fs v, d.get? "solver" = some (.obj fs) → ("max_iterations", v) ∈ fs →
    v.IsWhole
  threads : ∀ fs v, d.get? "solver" = some (.obj fs) → ("threads", v) ∈ fs → v.IsWhole
  lighthouses : ∀ v, d.get? "lighthouses" = some v → ∃ es, v = .arr es ∧ ∀ e ∈ es, ∃ fs, e = .obj fs
  trackers : ∀ v, d.get? "trackers" = some v → ∃ es, v = .arr es ∧ ∀ e ∈ es,
    (∃ fs, e = .obj fs) ∧ ∀ s, e.get? "sensors" = some s → ∃ a, NumArray.ofJson s = .ok a

/-- What a document of typed fields gives beyond the checks: a finite resolution, and a threshold
count, iteration limit and thread count that are whole. -/
structure Whole (c : Config) : Prop where
  resolution : c.resolution.isFinite = true
  count : c.thresholds.count.IsWhole
  maxIterations : c.solver.maxIterations.IsWhole
  threads : c.solver.threads.IsWhole

namespace Typed

variable {d : Json} {f : Fault}

lemma fits_of_get? (hd : Typed d) {k : String} {v : Json} (h : d.get? k = some v) :
    v.intsFit = true := by
  obtain ⟨fs, rfl⟩ := hd.obj
  exact Json.fieldsFit_mem hd.fits (Json.mem_of_get? h)

lemma resolution_reads (hd : Typed d) :
    ∃ x, ((d.get? "resolution").getD (.float 0.1)).toFloat = .ok x ∧ x.isFinite = true := by
  cases hr : d.get? "resolution" with
  | none => exact ⟨0.1, rfl, by decide +kernel⟩
  | some r =>
    have hnum := hd.resolution r hr
    obtain ⟨x, hx⟩ := hnum.isNumber.toFloat (hd.fits_of_get? hr)
    exact ⟨x, hx, hnum.toFloat_isFinite hx⟩

lemma idleTimeout_reads (hd : Typed d) :
    ∃ x, ((d.get? "idle_timeout").getD (.float 1.0)).toFloat = .ok x := by
  cases ht : d.get? "idle_timeout" with
  | none => exact ⟨1.0, rfl⟩
  | some t => exact (hd.idleTimeout t ht).toFloat (hd.fits_of_get? ht)

lemma lighthouses_read (hd : Typed d) :
    ∃ es, ((d.get? "lighthouses").getD (.arr [])).iterate = .ok es ∧
      ∀ e ∈ es, (∃ fs, e = .obj fs) ∧ e.intsFit = true := by
  cases hl : d.get? "lighthouses" with
  | none => exact ⟨[], rfl, by simp⟩
  | some v =>
    obtain ⟨es, rfl, hes⟩ := hd.lighthouses v hl
    exact ⟨es, rfl, fun e he => ⟨hes e he, Json.itemsFit_mem (hd.fits_of_get? hl) he⟩⟩

lemma trackers_read (hd : Typed d) :
    ∃ es, ((d.get? "trackers").getD (.arr [])).iterate = .ok es ∧
      ∀ e ∈ es, (∃ fs, e = .obj fs) ∧ e.intsFit = true ∧
        ∀ s, e.get? "sensors" = some s → ∃ a, NumArray.ofJson s = .ok a := by
  cases ht : d.get? "trackers" with
  | none => exact ⟨[], rfl, by simp⟩
  | some v =>
    obtain ⟨es, rfl, hes⟩ := hd.trackers v ht
    exact ⟨es, rfl, fun e he =>
      ⟨(hes e he).1, Json.itemsFit_mem (hd.fits_of_get? ht) he, (hes e he).2⟩⟩

lemma count_whole (hd : Typed d) {q s : String} {fs : List (String × Json)}
    (h : settings q s [("count", .int 1), ("angle", .float 60.0), ("duration", .float 1.0)]
      ((d.get? "thresholds").getD (.obj [])) = .ok fs) : (setting fs "count").IsWhole :=
  setting_whole h ⟨_, List.mem_cons_self⟩ (by simp [Json.IsWhole]) hd.count

lemma maxIterations_whole (hd : Typed d) {q s : String} {fs : List (String × Json)}
    (h : settings q s [("max_time", .float 30.0), ("max_iterations", .int 100), ("threads", .int 4),
      ("debug", .bool true)] ((d.get? "solver").getD (.obj [])) = .ok fs) :
    (setting fs "max_iterations").IsWhole :=
  setting_whole h ⟨.int 100, by simp⟩ (by simp [Json.IsWhole]) hd.maxIterations

lemma threads_whole (hd : Typed d) {q s : String} {fs : List (String × Json)}
    (h : settings q s [("max_time", .float 30.0), ("max_iterations", .int 100), ("threads", .int 4),
      ("debug", .bool true)] ((d.get? "solver").getD (.obj [])) = .ok fs) :
    (setting fs "threads").IsWhole :=
  setting_whole h ⟨.int 4, by simp⟩ (by simp [Json.IsWhole]) hd.threads

lemma fault_config (hd : Typed d) (h : ofJson d = .error f) : f.kind = .config := by
  unfold ofJson at h
  split at h
  swap
  · cases h
    rfl
  rcases Outcome.bind_eq_error h with h | ⟨_, -, h⟩
  · exact settings_kind h
  rcases Outcome.bind_eq_error h with h | ⟨thr, hthr, h⟩
  · exact settings_kind h
  rcases Outcome.bind_eq_error h with h | ⟨sol, hsol, h⟩
  · exact settings_kind h
  obtain ⟨x, hx, -⟩ := hd.resolution_reads
  rcases Outcome.bind_eq_error h with h | ⟨_, -, h⟩
  · rw [hx] at h
    cases h
  obtain ⟨y, hy⟩ := hd.idleTimeout_reads
  rcases Outcome.bind_eq_error h with h | ⟨_, -, h⟩
  · rw [hy] at h
    cases h
  obtain ⟨ls, hls, hles⟩ := hd.lighthouses_read
  rcases Outcome.bind_eq_error h with h | ⟨ls', hls', h⟩
  · rw [hls] at h
    cases h
  rw [hls] at hls'
  cases hls'
  rcases Outcome.bind_eq_error h with h | ⟨_, -, h⟩
  · obtain ⟨p, hp, hf⟩ := Outcome.mapM_eq_error h
    obtain ⟨hobj, hfit⟩ := hles p.1 (List.fst_mem_of_mem_zipIdx hp)
    exact parseLighthouse_kind hobj hfit hf
  obtain ⟨ts, hts, htes⟩ := hd.trackers_read
  rcases Outcome.bind_eq_error h with h | ⟨ts', hts', h⟩
  · rw [hts] at h
    cases h
  rw [hts] at hts'
  cases hts'
  rcases Outcome.bind_eq_error h with h | ⟨_, -, h⟩
  · obtain ⟨p, hp, hf⟩ := Outcome.mapM_eq_error h
    obtain ⟨hobj, hfit, hs⟩ := htes p.1 (List.fst_mem_of_mem_zipIdx hp)
    exact parseTracker_kind hobj hfit hs hf
  exact validate_kind (hd.count_whole hthr).isNumber (hd.maxIterations_whole hsol).isNumber
    (hd.threads_whole hsol).isNumber h

lemma whole (hd : Typed d) (h : ofJson d = .ok c) : c.Whole := by
  unfold ofJson at h
  split at h
  swap
  · cases h
  obtain ⟨_, -, h⟩ := Outcome.bind_eq_ok h
  obtain ⟨thr, hthr, h⟩ := Outcome.bind_eq_ok h
  obtain ⟨sol, hsol, h⟩ := Outcome.bind_eq_ok h
  obtain ⟨res, hres, h⟩ := Outcome.bind_eq_ok h
  obtain ⟨_, -, h⟩ := Outcome.bind_eq_ok h
  obtain ⟨_, -, h⟩ := Outcome.bind_eq_ok h
  obtain ⟨_, -, h⟩ := Outcome.bind_eq_ok h
  obtain ⟨_, -, h⟩ := Outcome.bind_eq_ok h
  obtain ⟨_, -, h⟩ := Outcome.bind_eq_ok h
  obtain ⟨rfl, -⟩ := validate_eq_ok.mp h
  obtain ⟨x, hx, hfin⟩ := hd.resolution_reads
  rw [hx] at hres
  cases hres
  exact ⟨hfin, hd.count_whole hthr, hd.maxIterations_whole hsol, hd.threads_whole hsol⟩

end Typed

/-- Reading a configuration. A document that is no object is refused with a configuration fault,
and a configuration read from a document is well formed; validation passes exactly the
configurations that pass its checks, unchanged. A document whose fields have the types their
readers take fails only with a configuration fault, and gives a finite resolution and whole
counts and limits. -/
theorem ofJson_wellFormed (d : Json) :
    ((∀ fs, d ≠ .obj fs) →
      ofJson d = .error (configFault "Configuration must be a JSON object")) ∧
    (∀ c, ofJson d = .ok c → c.WellFormed) ∧
    (∀ c c' : Config, c.validate = .ok c' ↔ c' = c ∧ c.Checked) ∧
    (Typed d → (∀ f, ofJson d = .error f → f.kind = .config) ∧
      ∀ c, ofJson d = .ok c → c.Whole) := by
  refine ⟨fun hd => ?_, fun _ h => wellFormed_of_ofJson h, fun _ _ => validate_eq_ok,
    fun hd => ⟨fun _ h => hd.fault_config h, fun _ h => hd.whole h⟩⟩
  cases d with
  | obj fs => exact absurd rfl (hd fs)
  | _ => rfl

/-- A session document with two lighthouses, one of them placed, and a tracker with two sensors
and their normals. -/
def sessionDocument : Json :=
  .obj [("calfile", .str "out/cal.json"), ("correct", .bool true),
    ("lighthouses", .arr [
      .obj [("name", .str "left"), ("serial", .str "3097796425"),
        ("transform", .arr ([1, 2, 3, 0, 0, 0, 1].map Json.int))],
      .obj [("name", .str "right"), ("serial", .int 907388239)]]),
    ("resolution", .float 0.05),
    ("solver", .obj [("debug", .bool false), ("max_iterations", .int 20),
      ("max_time", .float 5.0), ("threads", .int 2)]),
    ("thresholds", .obj [("angle", .float 45.0), ("count", .int 4), ("duration", .float 2.0)]),
    ("trackers", .arr [.obj [("name", .str "tracker_test"), ("serial", .str "LHR-08DE963B"),
      ("sensors", .arr [.arr ([0.0, 0.0, 0.0, 0.0, 0.0, 1.0].map Json.float),
        .arr ([0.1, 0.0, 0.0, 0.0, 0.0, 1.0].map Json.float)])]])]

lemma sessionDocument_typed : Typed sessionDocument where
  obj := ⟨_, rfl⟩
  fits := by decide +kernel
  resolution := by
    intro r hr
    cases hr
    show Float.isFinite _ = true
    decide +kernel
  idleTimeout := by
    intro t ht
    cases ht
  count := by
    intro fs v h hv
    cases h
    simp at hv
    subst hv
    trivial
  maxIterations := by
    intro fs v h hv
    cases h
    simp at hv
    subst hv
    trivial
  threads := by
    intro fs v h hv
    cases h
    simp at hv
    subst hv
    trivial
  lighthouses := by
    intro v h
    cases h
    exact ⟨_, rfl, by simp⟩
  trackers := by
    intro v h
    cases h
    refine ⟨_, rfl, ?_⟩
    simp only [List.mem_singleton, forall_eq]
    refine ⟨⟨_, rfl⟩, fun s hs => ?_⟩
    cases hs
    exact ⟨_, rfl⟩

/-- The session document reads as a well-formed configuration with both lighthouses and the
tracker's two sensors. -/
theorem session_document_read :
    Typed sessionDocument ∧ ∃ c, ofJson sessionDocument = .ok c ∧ c.WellFormed ∧ c.Whole ∧
      c.lighthouses.map (·.serial) = ["3097796425", "907388239"] ∧
      c.trackers.map (·.sensors.rows.length) = [2] := by
  have hc : (ofJson sessionDocument).toOption.map (fun c => (c.lighthouses.map (·.serial),
      c.trackers.map (·.sensors.rows.length))) = some (["3097796425", "907388239"], [2]) := by
    decide +kernel
  obtain ⟨-, hwf, -, htyped⟩ := ofJson_wellFormed sessionDocument
  obtain ⟨c, h, hc⟩ := Outcome.ok_of_toOption_map hc
  simp only [Prod.mk.injEq] at hc
  exact ⟨sessionDocument_typed, c, h, hwf c h, (htyped sessionDocument_typed).2 c h, hc⟩

/-- A resolution written as a text that is no number escapes as the float conversion's value
fault, not as a configuration fault. -/
theorem text_resolution_escapes :
    ofJson (.obj [("resolution", .str "abc")]) =
      .error (Fault.value ("could not convert string to float: " ++ Text.quoted "abc")) :=
  rfl

/-- Settings with an infinite resolution and a fractional count, iteration limit and thread
count. -/
def fractionalSettings : Json :=
  .obj [("resolution", .float (Binary64.infinity false)), ("thresholds", .obj [("count", .float 0.5)]),
    ("solver", .obj [("max_iterations", .float 1.5), ("threads", .float 2.5)])]

/-- The checks pass an infinite resolution and fractional counts as they are. -/
theorem fractional_settings_accepted :
    ∃ c, ofJson fractionalSettings = .ok c ∧ c.resolution.isFinite = false ∧
      c.thresholds.count.display = "0.5" ∧ c.solver.maxIterations.display = "1.5" ∧
      c.solver.threads.display = "2.5" := by
  have hc : (ofJson fractionalSettings).toOption.map (fun c => (c.resolution.isFinite,
      c.thresholds.count.display, c.solver.maxIterations.display, c.solver.threads.display)) =
      some (false, "0.5", "1.5", "2.5") := by
    decide +kernel
  obtain ⟨c, h, hc⟩ := Outcome.ok_of_toOption_map hc
  simp only [Prod.mk.injEq] at hc
  exact ⟨c, h, hc⟩

end Config

end Lighthouse
