import Lighthouse.Disk
/-!
# Files written and read back

A path a file can be written through (`target`) also reaches that file (`target_locate`).
Storing a file (`put`) keeps every directory a directory, so the path goes on naming the same
file (`target_put`), and what was stored is what a read finds (`readRaw_of_target`). Appending
through the path extends that file (`append_of_file`). A path object's text names itself again
(`normalize_normalize`).

Paths reaching above the working directory are outside what a disk knows: the statements about
storing keep to names without `..`.
-/
namespace Lighthouse.Disk

/-! ### Parts of a path -/

section Parts

theorem parts_ne_nil (path : String) : parts path ≠ [] := by
  simp [parts]

theorem not_mem_of_mem_splitOn {sep : Char} :
    ∀ {cs l : List Char}, l ∈ cs.splitOn sep → sep ∉ l
  | [], l, hl => by
    simp only [List.splitOn_nil, List.mem_singleton] at hl
    subst hl
    simp
  | c :: cs, l, hl => by
    rw [List.splitOn_cons_eq_if_modifyHead] at hl
    split at hl
    · rcases List.mem_cons.mp hl with rfl | hl
      · simp
      · exact not_mem_of_mem_splitOn hl
    · obtain ⟨h, t, ht⟩ := List.exists_cons_of_ne_nil (List.splitOn_ne_nil sep cs)
      rw [ht, List.modifyHead_cons] at hl
      rcases List.mem_cons.mp hl with rfl | hl
      · rename_i hc
        have hh := @not_mem_of_mem_splitOn _ cs h (by rw [ht]; exact List.mem_cons_self)
        simp only [beq_iff_eq] at hc
        simp only [List.mem_cons, not_or]
        exact ⟨fun h' => hc h'.symm, hh⟩
      · exact @not_mem_of_mem_splitOn _ cs _ (by rw [ht]; exact List.mem_cons_of_mem _ hl)

theorem not_slash_of_mem_parts {path p : String} (h : p ∈ parts path) : '/' ∉ p.toList := by
  simp only [parts, List.mem_map] at h
  obtain ⟨l, hl, rfl⟩ := h
  rw [String.toList_ofList]
  exact not_mem_of_mem_splitOn hl

theorem parts_intercalate {names : List String} (h : ∀ n ∈ names, '/' ∉ n.toList)
    (hne : names ≠ []) : parts ("/".intercalate names) = names := by
  unfold parts
  rw [String.toList_intercalate, show "/".toList = ['/'] from rfl,
    List.splitOn_intercalate '/' (by simpa using h) (by simpa using hne)]
  simp

end Parts

/-! ### The text of a path object -/

section Normalize

theorem mem_kept {path n : String}
    (h : n ∈ (parts path).filter fun p => p != "" && p != ".") :
    '/' ∉ n.toList ∧ n ≠ "" ∧ n ≠ "." := by
  simp only [List.mem_filter, Bool.and_eq_true, bne_iff_ne, ne_eq] at h
  exact ⟨not_slash_of_mem_parts h.1, h.2⟩

theorem kept_intercalate {names : List String} (h : ∀ n ∈ names, '/' ∉ n.toList ∧ n ≠ "" ∧ n ≠ ".") :
    ((parts ("/".intercalate names)).filter fun p => p != "" && p != ".") = names := by
  rcases names with _ | ⟨n, ns⟩
  · rfl
  rw [parts_intercalate (fun n hn => (h n hn).1) (List.cons_ne_nil n ns), List.filter_eq_self]
  intro n hn
  simp [(h n hn).2]

theorem head_intercalate_ne_slash {names : List String}
    (h : ∀ n ∈ names, '/' ∉ n.toList ∧ n ≠ "" ∧ n ≠ ".") :
    ("/".intercalate names).toList.head? ≠ some '/' := by
  rcases names with _ | ⟨n, ns⟩
  · simp
  obtain ⟨hs, hne, -⟩ := h n List.mem_cons_self
  obtain ⟨c, t, hct⟩ := List.exists_cons_of_ne_nil (by simpa using hne : n.toList ≠ [])
  obtain ⟨rest, hrest⟩ : ∃ rest, ("/".intercalate (n :: ns)).toList = n.toList ++ rest := by
    rcases ns with _ | ⟨m, ms⟩
    · exact ⟨[], by simp⟩
    · exact ⟨_, by rw [String.intercalate_cons_cons, String.toList_append, String.toList_append,
        List.append_assoc]⟩
  rw [hrest, hct, List.cons_append, List.head?_cons]
  rintro ⟨⟩
  exact hs (by rw [hct]; exact List.mem_cons_self)

theorem parts_slash (s : String) : parts ("/" ++ s) = "" :: parts s := by
  simp [parts, List.splitOn_cons_eq_if_modifyHead]

/-- A path object's text is its own text. -/
theorem normalize_normalize (path : String) : normalize (normalize path) = normalize path := by
  have hk : ∀ n ∈ (parts path).filter (fun p => p != "" && p != "."),
      '/' ∉ n.toList ∧ n ≠ "" ∧ n ≠ "." := fun n hn => mem_kept hn
  generalize hnames : (parts path).filter (fun p => p != "" && p != ".") = names at hk
  have hdef : normalize path = if path.toList.head? = some '/' then "/" ++ "/".intercalate names
      else if ("/".intercalate names).isEmpty then "." else "/".intercalate names := by
    rw [← hnames]
    rfl
  rw [hdef]
  split
  · -- an absolute path keeps its slash and its names
    conv => lhs; unfold normalize
    rw [parts_slash, List.filter_cons_of_neg (by simp)]
    rcases names with _ | ⟨n, ns⟩
    · rfl
    · rw [kept_intercalate hk]
      simp
  · split
    · rfl
    · -- a relative path with names is their joined text
      conv => lhs; unfold normalize
      rw [kept_intercalate hk, if_neg (head_intercalate_ne_slash hk)]
      simp_all

end Normalize

/-! ### Walking a path -/

section Walk

variable (d : Disk) (shown : String)

theorem walk_append (ps qs names : List String) :
    d.walk shown (ps ++ qs) names = d.walk shown ps names >>= d.walk shown qs := by
  induction ps generalizing names with
  | nil => rfl
  | cons p ps ih =>
    rw [List.cons_append, walk, walk]
    cases d.entry names with
    | file _ => rfl
    | absent => rfl
    | directory =>
      dsimp only
      split
      · exact ih _
      split
      · exact ih _
      · exact ih _

theorem walk_mono {d' : Disk} (h : ∀ m, d.entry m = .directory → d'.entry m = .directory)
    {ps names r : List String} (hw : d.walk shown ps names = .ok r) :
    d'.walk shown ps names = .ok r := by
  induction ps generalizing names with
  | nil => exact hw
  | cons p ps ih =>
    rw [walk] at hw ⊢
    cases he : d.entry names with
    | file _ => rw [he] at hw; cases hw
    | absent => rw [he] at hw; cases hw
    | directory =>
      rw [he] at hw
      rw [h names he]
      dsimp only at hw ⊢
      split at hw
      · rw [if_pos ‹_›]
        exact ih hw
      · rw [if_neg ‹_›]
        split at hw
        · rw [if_pos ‹_›]
          exact ih hw
        · rw [if_neg ‹_›]
          exact ih hw

end Walk

/-! ### Storing a file -/

section Store

variable {d : Disk}

theorem entry_eq_of_key {m n : List String} (hm : (m.all fun n => n == "..") = false)
    (hn : (n.all fun n => n == "..") = false) (hk : "/".intercalate m = "/".intercalate n) :
    d.entry m = d.entry n := by
  unfold entry
  rw [hm, hn]
  simp only [Bool.false_eq_true, ↓reduceIte, hk]

theorem isDir_put {key : String} (h : d.isDir key = true) (names : List String) (t : String) :
    (d.put names t).isDir key = true := by
  unfold isDir put at *
  simp only [Bool.or_eq_true, List.any_eq_true, List.contains_iff_mem] at h ⊢
  rcases h with h | ⟨f, hf, hk⟩
  · exact Or.inl h
  · right
    by_cases hfk : f.1 = "/".intercalate names
    · exact ⟨("/".intercalate names, t), by simp, by rw [← hfk]; exact hk⟩
    · exact ⟨f, by simp [List.mem_filter, hf, hfk], hk⟩

theorem entry_put_of_directory {N : List String} (hNd : d.entry N ≠ .directory) (t : String)
    {m : List String} (hm : d.entry m = .directory) : (d.put N t).entry m = .directory := by
  by_cases hall : (m.all fun n => n == "..") = true
  · simp [entry, hall]
  -- names that are all `..` stand for a directory, so the file's names are not
  have hNall : (N.all fun n => n == "..") = false :=
    Bool.eq_false_iff.mpr fun hN => hNd (by simp [entry, hN])
  have hkey : "/".intercalate m ≠ "/".intercalate N := fun hk =>
    hNd ((entry_eq_of_key (Bool.eq_false_iff.mpr hall) hNall hk).symm.trans hm)
  unfold entry at hm ⊢
  rw [if_neg hall] at hm ⊢
  dsimp only at hm ⊢
  split at hm
  · cases hm
  rename_i hnone
  split at hm
  · rename_i hdir
    have hnone' : (d.put N t).files.find? (fun f => f.1 == "/".intercalate m) = none := by
      rw [List.find?_eq_none] at hnone ⊢
      intro f hf
      simp only [put, List.mem_append, List.mem_filter, List.mem_singleton] at hf
      rcases hf with ⟨hf, -⟩ | rfl
      · exact hnone f hf
      · simpa using Ne.symm hkey
    rw [hnone']
    dsimp only
    rw [if_pos (isDir_put hdir N t)]
  · cases hm

theorem entry_put_self {N : List String} (hN : (N.all fun n => n == "..") = false) (t : String) :
    (d.put N t).entry N = .file t := by
  unfold entry
  rw [hN]
  have : (d.put N t).files.find? (fun f => f.1 == "/".intercalate N) =
      some ("/".intercalate N, t) := by
    simp only [put, List.find?_append, List.find?_singleton, beq_self_eq_true, ↓reduceIte]
    rw [List.find?_eq_none.mpr (by simp)]
    rfl
  simp only [Bool.false_eq_true, ↓reduceIte, this]

end Store

/-! ### Writing through a path -/

section Target

variable {d : Disk}

/-- The name a file written through a path gets: its last part. -/
def fileName (path : String) : String := (parts path).getLast?.getD ""

theorem parts_eq_dropLast (path : String) :
    parts path = (parts path).dropLast ++ [fileName path] := by
  unfold fileName
  rw [List.getLast?_eq_some_getLast (parts_ne_nil path), Option.getD_some,
    List.dropLast_concat_getLast]

theorem target_eq_ok {path : String} {N : List String} (h : d.target path = .ok N) :
    path.isEmpty = false ∧ ∃ holder, d.walk path (parts path).dropLast [] = .ok holder ∧
      d.entry holder = .directory ∧
      (fileName path == "" || fileName path == "." || fileName path == "..") = false ∧
      N = holder ++ [fileName path] ∧ d.entry N ≠ .directory := by
  unfold target at h
  simp only [bind, Except.bind, pure, Except.pure] at h
  split at h
  · cases h
  rename_i hempty
  split at h
  · cases h
  rename_i holder hw
  split at h
  · cases h
  · cases h
  rename_i hdir
  split at h
  · cases h
  rename_i hdot
  split at h
  · cases h
  rename_i hnd
  cases h
  exact ⟨by simpa using hempty, holder, hw, hdir, by simpa [fileName] using hdot, rfl, hnd⟩

theorem target_of {path : String} {holder : List String} (hp : path.isEmpty = false)
    (hw : d.walk path (parts path).dropLast [] = .ok holder) (hh : d.entry holder = .directory)
    (hn : (fileName path == "" || fileName path == "." || fileName path == "..") = false)
    (hN : d.entry (holder ++ [fileName path]) ≠ .directory) :
    d.target path = .ok (holder ++ [fileName path]) := by
  unfold target
  simp only [bind, Except.bind, pure, Except.pure]
  rw [if_neg (by simp [hp]), hw]
  dsimp only
  rw [hh]
  dsimp only
  rw [if_neg (by simpa [fileName] using hn)]
  split
  · exact absurd ‹_› hN
  · rfl

/-- A path a file can be written through reaches that file's names. -/
theorem target_locate {path : String} {N : List String} (h : d.target path = .ok N) :
    d.locate path = .ok N := by
  obtain ⟨hp, holder, hw, hh, hn, rfl, -⟩ := target_eq_ok h
  unfold locate
  rw [if_neg (by simp [hp]), parts_eq_dropLast, walk_append, hw]
  show d.walk path [fileName path] holder = _
  simp only [Bool.or_eq_false_iff] at hn
  rw [walk, hh]
  simp [hn.1.1, hn.1.2, hn.2, walk]

theorem readRaw_of_file {path text : String} {N : List String} (hl : d.locate path = .ok N)
    (hf : d.entry N = .file text) : d.readRaw path = .ok text := by
  unfold readRaw
  simp only [bind, Except.bind]
  rw [hl]
  dsimp only
  rw [hf]
  rfl

theorem reaches_of_file {path text : String} {N : List String} (hl : d.locate path = .ok N)
    (hf : d.entry N = .file text) : d.reaches path = true := by
  unfold reaches
  rw [hl]
  dsimp only
  rw [hf]

theorem write_eq_ok {path text : String} {d' : Disk} :
    d.write path text = .ok d' ↔ ∃ N, d.target path = .ok N ∧ d' = d.put N text := by
  unfold write
  cases h : d.target path with
  | error e => simp [bind, Except.bind]
  | ok N => simp [bind, Except.bind, pure, Except.pure, eq_comm]

/-- Appending through a path to a file it reaches extends that file. -/
theorem append_of_file {path old text : String} {N : List String} (h : d.target path = .ok N)
    (hf : d.entry N = .file old) : d.append path text = .ok (d.put N (old ++ text)) := by
  unfold append
  simp only [bind, Except.bind, pure, Except.pure]
  rw [h]
  dsimp only
  rw [hf]

theorem target_not_all_dotdot {path : String} {N : List String} (h : d.target path = .ok N) :
    (N.all fun n => n == "..") = false := by
  obtain ⟨-, holder, -, -, hn, rfl, -⟩ := target_eq_ok h
  simp only [Bool.or_eq_false_iff] at hn
  simp [List.all_append, hn.2]

/-- Storing the file a path leads to keeps the path leading to it. -/
theorem target_put {path : String} {N : List String} (h : d.target path = .ok N)
    (text : String) : (d.put N text).target path = .ok N := by
  have hN := target_not_all_dotdot h
  obtain ⟨hp, holder, hw, hh, hn, rfl, hNd⟩ := target_eq_ok h
  have hkeep := fun m (hm : d.entry m = .directory) => entry_put_of_directory hNd text hm
  refine target_of hp (walk_mono d path hkeep hw) (hkeep holder hh) hn ?_
  rw [entry_put_self hN text]
  exact Entry.noConfusion

theorem unifyLineEnds_of_not_mem : ∀ {l : List Char}, '\r' ∉ l → unifyLineEnds l = l
  | [], _ => rfl
  | c :: l, h => by
    rw [List.mem_cons, not_or] at h
    rw [unifyLineEnds.eq_3 _ _ (fun _ hc _ => h.1 hc.symm) (fun hc => h.1 hc.symm),
      unifyLineEnds_of_not_mem h.2]

theorem read_of_file {path text : String} {N : List String} (hl : d.locate path = .ok N)
    (hf : d.entry N = .file text) (hr : '\r' ∉ text.toList) : d.read path = .ok text := by
  unfold read
  rw [readRaw_of_file hl hf]
  simp [unifyLineEnds_of_not_mem hr, Except.map]

end Target

end Lighthouse.Disk
