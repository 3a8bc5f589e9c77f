import Lighthouse.Proofs.Session.Gate
import Lighthouse.Proofs.Json.ReadBack
import Lighthouse.Proofs.Json.Ascii
import Lighthouse.Proofs.Disk.Files
/-!
# Faults of a calibration file

`SiteCalibration.read` turns what goes wrong with an existing calibration file into a
calibration-file fault, with two exceptions that it lets through (`read_fault_cases`): a document
nested deeper than the parser's room gives a recursion fault, and an integer written in the
document that is too large for a float gives an overflow fault when the poses are converted.

A session takes a calibration-file fault as a warning and starts from its configured transforms;
the two faults let through make its construction fail (`calibration_file_faults`).
-/
namespace Lighthouse

/-! ### Failed outcomes -/

namespace Outcome

theorem bind_eq_error {α β : Type} {x : Outcome α} {g : α → Outcome β} {f : Fault}
    (h : x >>= g = .error f) : x = .error f ∨ ∃ a, x = .ok a ∧ g a = .error f := by
  cases x with
  | error e => exact .inl (by cases h; rfl)
  | ok a => exact .inr ⟨a, rfl, h⟩

theorem error_bind {α β : Type} {x : Outcome α} {g : α → Outcome β} {f : Fault}
    (h : x = .error f) : x >>= g = .error f := by
  rw [h]
  rfl

theorem map_eq_error {α β : Type} {x : Outcome α} {g : α → β} {f : Fault}
    (h : x.map g = .error f) : x = .error f := by
  cases x with
  | error e => cases h; rfl
  | ok a => cases h

theorem mapM_eq_error {α β : Type} {g : α → Outcome β} {f : Fault} :
    ∀ {xs : List α}, xs.mapM g = .error f → ∃ x ∈ xs, g x = .error f
  | [], h => by cases h
  | x :: xs, h => by
    rw [List.mapM_cons] at h
    rcases bind_eq_error h with hx | ⟨_, -, h⟩
    · exact ⟨x, List.mem_cons_self, hx⟩
    rcases bind_eq_error h with hxs | ⟨_, -, h⟩
    · obtain ⟨y, hy, hf⟩ := mapM_eq_error hxs
      exact ⟨y, List.mem_cons_of_mem x hy, hf⟩
    · cases h

theorem foldlM_eq_error {α β : Type} {g : β → α → Outcome β} {f : Fault} :
    ∀ {xs : List α} {b : β}, xs.foldlM g b = .error f → ∃ b', ∃ x ∈ xs, g b' x = .error f
  | [], _, h => by cases h
  | x :: xs, b, h => by
    rw [List.foldlM_cons] at h
    rcases bind_eq_error h with hx | ⟨_, -, h⟩
    · exact ⟨b, x, List.mem_cons_self, hx⟩
    · obtain ⟨b', y, hy, hf⟩ := foldlM_eq_error h
      exact ⟨b', y, List.mem_cons_of_mem x hy, hf⟩

end Outcome

/-! ### Faults of a document -/

/-- An integer written somewhere in a document. -/
inductive Json.HasInt : Json → Int → Prop
  | int (n : Int) : Json.HasInt (.int n) n
  | arr {xs : List Json} {j : Json} {n : Int} : j ∈ xs → Json.HasInt j n → Json.HasInt (.arr xs) n
  | obj {fs : List (String × Json)} {k : String} {j : Json} {n : Int} :
      (k, j) ∈ fs → Json.HasInt j n → Json.HasInt (.obj fs) n

/-- The faults reading a numeric array can give: a value or type fault, or an overflow for an
integer written in it that is too large for a float. -/
def ArrayFault (doc : Json) (f : Fault) : Prop :=
  f.kind = .value ∨ f.kind = .type ∨
    f.kind = .overflow ∧ ∃ n, doc.HasInt n ∧ Binary64.overflows n.natAbs 1 = true

/-- The faults reading a calibration document can give: a value, type or attribute fault, or an
overflow for an integer written in it that is too large for a float. -/
def DocumentFault (doc : Json) (f : Fault) : Prop :=
  f.kind = .value ∨ f.kind = .type ∨ f.kind = .attribute ∨
    f.kind = .overflow ∧ ∃ n, doc.HasInt n ∧ Binary64.overflows n.natAbs 1 = true

namespace ArrayFault

variable {doc doc' : Json} {f : Fault}

lemma mono (h : ArrayFault doc f) (hd : ∀ n, doc.HasInt n → doc'.HasInt n) : ArrayFault doc' f := by
  rcases h with h | h | ⟨h, n, hn, ho⟩
  · exact .inl h
  · exact .inr (.inl h)
  · exact .inr (.inr ⟨h, n, hd n hn, ho⟩)

lemma document (h : ArrayFault doc f) : DocumentFault doc f := by
  rcases h with h | h | h
  · exact .inl h
  · exact .inr (.inl h)
  · exact .inr (.inr (.inr h))

lemma kind_of_fits (h : ArrayFault doc f)
    (hd : ∀ n, doc.HasInt n → Binary64.overflows n.natAbs 1 = false) :
    f.kind = .value ∨ f.kind = .type := by
  rcases h with h | h | ⟨-, n, hn, ho⟩
  · exact .inl h
  · exact .inr h
  · rw [hd n hn] at ho
    cases ho

end ArrayFault

namespace DocumentFault

variable {doc doc' : Json} {f : Fault}

lemma of_value (h : f.kind = .value) : DocumentFault doc f := .inl h

lemma of_type (h : f.kind = .type) : DocumentFault doc f := .inr (.inl h)

lemma of_attribute (h : f.kind = .attribute) : DocumentFault doc f := .inr (.inr (.inl h))

lemma mono (h : DocumentFault doc f) (hd : ∀ n, doc.HasInt n → doc'.HasInt n) :
    DocumentFault doc' f := by
  rcases h with h | h | h | ⟨h, n, hn, ho⟩
  · exact of_value h
  · exact of_type h
  · exact of_attribute h
  · exact .inr (.inr (.inr ⟨h, n, hd n hn, ho⟩))

end DocumentFault

section Reading

variable {f : Fault}

lemma toFloat_fault {j : Json} (h : j.toFloat = .error f) : ArrayFault j f := by
  cases j with
  | int n =>
    rw [Json.toFloat, Json.intToFloat] at h
    split at h
    · cases h
      exact .inr (.inr ⟨rfl, n, .int n, ‹_›⟩)
    · cases h
  | str s =>
    rw [Json.toFloat] at h
    split at h
    · cases h
    · cases h
      exact .inl rfl
  | float x => cases h
  | bool b => cases h
  | null => cases h; exact .inr (.inl rfl)
  | arr xs => cases h; exact .inr (.inl rfl)
  | obj fs => cases h; exact .inr (.inl rfl)

lemma scalarOf_fault {j : Json} (h : scalarOf j = .error f) : ArrayFault j f := by
  unfold scalarOf at h
  split at h
  · cases h
  · cases h
    exact .inr (.inl rfl)
  · exact toFloat_fault h

mutual

lemma flatValues_fault : ∀ j : Json, flatValues j = .error f → ArrayFault j f
  | .arr xs, h => by
    rw [flatValues] at h
    obtain ⟨x, hx, hf⟩ := flatItems_fault xs h
    exact hf.mono fun n hn => .arr hx hn
  | .null, h | .bool _, h | .int _, h | .float _, h | .str _, h | .obj _, h => by
    unfold flatValues at h
    exact scalarOf_fault (Outcome.map_eq_error h)

lemma flatItems_fault : ∀ xs : List Json, flatItems xs = .error f → ∃ x ∈ xs, ArrayFault x f
  | [], h => by cases h
  | x :: xs, h => by
    rw [flatItems] at h
    rcases Outcome.bind_eq_error h with hx | ⟨_, -, h⟩
    · exact ⟨x, List.mem_cons_self, flatValues_fault x hx⟩
    rcases Outcome.bind_eq_error h with hxs | ⟨_, -, h⟩
    · obtain ⟨y, hy, hf⟩ := flatItems_fault xs hxs
      exact ⟨y, List.mem_cons_of_mem x hy, hf⟩
    · cases h

end

lemma NumArray.ofJson_fault {j : Json} (h : NumArray.ofJson j = .error f) : ArrayFault j f := by
  unfold NumArray.ofJson at h
  split at h
  · cases h
    exact .inl rfl
  · rcases Outcome.bind_eq_error h with h | ⟨_, -, h⟩
    · exact flatValues_fault j h
    · cases h

lemma ofPose7_kind {xs : List Float} (h : Transform.ofPose7 xs = .error f) : f.kind = .value := by
  unfold Transform.ofPose7 at h
  split at h
  · rcases Outcome.bind_eq_error h with h | ⟨_, -, h⟩
    · unfold Rotation.ofQuat at h
      dsimp only at h
      split at h
      · cases h
        rfl
      · cases h
    · cases h
  · cases h
    rfl

lemma ofPose7Array_kind {a : NumArray} (h : Transform.ofPose7Array a = .error f) :
    f.kind = .value := by
  unfold Transform.ofPose7Array at h
  split at h
  · exact ofPose7_kind h
  · cases h
    rfl

lemma Frames.ofJson_kind {j : Json} (h : Frames.ofJson j = .error f) : f.kind = .type := by
  unfold Frames.ofJson at h
  rcases Outcome.bind_eq_error h with h | ⟨_, -, h⟩
  · unfold Json.overrideSettings at h
    split at h
    · obtain ⟨_, _, -, h⟩ := Outcome.foldlM_eq_error h
      split at h
      · cases h
      · cases h
        rfl
    · cases h
      rfl
  · cases h

lemma getOr_kind {j dflt : Json} {k : String} (h : j.getOr k dflt = .error f) :
    f.kind = .attribute := by
  unfold Json.getOr at h
  split at h
  · cases h
  · cases h
    rfl

lemma getOr_hasInt {j dflt v : Json} {k : String} (h : j.getOr k dflt = .ok v) {n : Int}
    (hn : v.HasInt n) : j.HasInt n ∨ dflt.HasInt n := by
  unfold Json.getOr at h
  split at h
  · rename_i fs
    cases h
    simp only [Json.get?] at hn
    cases hf : fs.find? (fun p => p.1 == k) with
    | none =>
      rw [hf] at hn
      exact .inr hn
    | some p =>
      rw [hf] at hn
      exact .inl (.obj (List.mem_of_find?_eq_some hf) hn)
  · cases h

lemma DocumentFault.of_getOr {j dflt v : Json} {k : String} (hg : j.getOr k dflt = .ok v)
    (hd : ∀ n, dflt.HasInt n → Binary64.overflows n.natAbs 1 = false) (hf : DocumentFault v f) :
    DocumentFault j f := by
  rcases hf with h | h | h | ⟨h, n, hn, ho⟩
  · exact .of_value h
  · exact .of_type h
  · exact .of_attribute h
  · rcases getOr_hasInt hg hn with hj | hdf
    · exact .inr (.inr (.inr ⟨h, n, hj, ho⟩))
    · rw [hd n hdf] at ho
      cases ho

lemma no_overflow_empty (n : Int) (h : (Json.obj []).HasInt n) :
    Binary64.overflows n.natAbs 1 = false := by
  cases h with
  | obj hm _ => cases hm

lemma no_overflow_identityPose (n : Int)
    (h : (Json.arr ([0, 0, 0, 0, 0, 0, 1].map Json.int)).HasInt n) :
    Binary64.overflows n.natAbs 1 = false := by
  cases h with
  | arr hm hj =>
    simp only [List.map_cons, List.map_nil, List.mem_cons, List.not_mem_nil, or_false] at hm
    rcases hm with rfl | rfl | rfl | rfl | rfl | rfl | rfl <;> cases hj <;> decide

lemma posesOf_fault {m : Json} (h : SiteCalibration.posesOf m = .error f) : DocumentFault m f := by
  unfold SiteCalibration.posesOf at h
  split at h
  · obtain ⟨⟨k, v⟩, hkv, h⟩ := Outcome.mapM_eq_error h
    rcases Outcome.bind_eq_error h with h | ⟨_, -, h⟩
    · exact (NumArray.ofJson_fault h).document.mono fun n hn => .obj hkv hn
    rcases Outcome.bind_eq_error h with h | ⟨_, -, h⟩
    · exact .of_value (ofPose7Array_kind h)
    · cases h
  · cases h
    exact .of_attribute rfl

lemma ofJson_fault {doc : Json} (h : SiteCalibration.ofJson doc = .error f) :
    DocumentFault doc f := by
  unfold SiteCalibration.ofJson at h
  rcases Outcome.bind_eq_error h with h | ⟨_, -, h⟩
  · exact .of_attribute (getOr_kind h)
  rcases Outcome.bind_eq_error h with h | ⟨_, -, h⟩
  · exact .of_type (Frames.ofJson_kind h)
  rcases Outcome.bind_eq_error h with h | ⟨reg, hreg, h⟩
  · exact .of_attribute (getOr_kind h)
  rcases Outcome.bind_eq_error h with h | ⟨_, -, h⟩
  · exact (NumArray.ofJson_fault h).document.of_getOr hreg no_overflow_identityPose
  rcases Outcome.bind_eq_error h with h | ⟨_, -, h⟩
  · exact .of_value (ofPose7Array_kind h)
  rcases Outcome.bind_eq_error h with h | ⟨lhs, hlhs, h⟩
  · exact .of_attribute (getOr_kind h)
  rcases Outcome.bind_eq_error h with h | ⟨_, -, h⟩
  · exact (posesOf_fault h).of_getOr hlhs no_overflow_empty
  rcases Outcome.bind_eq_error h with h | ⟨trs, htrs, h⟩
  · exact .of_attribute (getOr_kind h)
  rcases Outcome.bind_eq_error h with h | ⟨_, -, h⟩
  · exact (posesOf_fault h).of_getOr htrs no_overflow_empty
  · cases h

end Reading

/-! ### Reading the file -/

/-- What makes reading an existing calibration file fail: anything gives a calibration-file fault
but a document nested deeper than the parser's room, which gives a recursion fault, and an integer
written in the document that is too large for a float, which gives an overflow fault. -/
theorem read_fault_cases {room : Nat} {d : Disk} {path : String}
    (h : SiteCalibration.read room d path = .error f) :
    f.kind = .calibrationFile ∨
    (∃ text e, d.read (Disk.normalize path) = .ok text ∧ Json.parse (room - 2) text = .error e ∧
      e.kind = .depth ∧ f.kind = .recursion) ∨
    (∃ text doc, d.read (Disk.normalize path) = .ok text ∧ Json.parse (room - 2) text = .ok doc ∧
      f.kind = .overflow ∧ ∃ n, doc.HasInt n ∧ Binary64.overflows n.natAbs 1 = true) := by
  unfold SiteCalibration.read at h
  dsimp only at h
  split at h
  · cases h
  split at h
  · cases h
    exact .inl rfl
  rename_i text htext
  split at h
  · rename_i e he
    split at h
    · rename_i hdepth
      cases h
      refine .inr (.inl ⟨text, e, htext, he, hdepth, ?_⟩)
      rw [Json.ReadError.toFault, hdepth]
    · cases h
      exact .inl rfl
  · rename_i doc hdoc
    split at h
    · cases h
    · rename_i g hg
      split at h
      · cases h
        exact .inl rfl
      · rename_i hwrapped
        cases h
        -- the faults the reader does not wrap: of a document's, only the overflow
        rcases ofJson_fault hg with hk | hk | hk | ⟨hk, hn⟩
        · exact absurd (.inl hk) hwrapped
        · exact absurd (.inr (.inl hk)) hwrapped
        · exact absurd (.inr (.inr (.inl hk))) hwrapped
        · exact .inr (.inr ⟨text, doc, htext, hdoc, hk, hn⟩)

lemma read_render_of_overflow {room : Nat} {doc : Json} (hr : Json.Readable doc)
    (hd : Json.depth doc ≤ room - 2) (hf : SiteCalibration.ofJson doc = .error f)
    (hk : f.kind = .overflow) :
    SiteCalibration.read room { files := [("cal.json", Json.render doc)] } "cal.json" = .error f := by
  have hl : Disk.locate { files := [("cal.json", Json.render doc)] } "cal.json" = .ok ["cal.json"] :=
    rfl
  have he : Disk.entry { files := [("cal.json", Json.render doc)] } ["cal.json"] =
      .file (Json.render doc) := rfl
  have hcr : '\r' ∉ (Json.render doc).toList := Json.not_mem_render (by decide) doc
  unfold SiteCalibration.read
  rw [show Disk.normalize "cal.json" = "cal.json" from rfl]
  dsimp only
  rw [Disk.reaches_of_file hl he, Bool.not_true, if_neg Bool.false_ne_true,
    Disk.read_of_file hl he hcr]
  dsimp only
  rw [Json.parse_render hr hd]
  dsimp only
  rw [hf]
  dsimp only
  rw [if_neg (by simp [hk, FaultKind.isOs])]

/-! ### Making a session -/

namespace Session

variable {room : Nat} {s : Session}

@[simp] theorem publish_registration (p : Publication) : (s.publish p).registration = s.registration := by
  unfold publish; split <;> rfl

@[simp] theorem publish_trackers (p : Publication) : (s.publish p).trackers = s.trackers := by
  unfold publish; split <;> rfl

lemma loadCalibration_eq_error_iff :
    s.loadCalibration room = .error f ↔
      SiteCalibration.read (room - 1) s.disk s.config.calfile = .error f ∧
        f.kind ≠ .calibrationFile := by
  unfold loadCalibration
  dsimp only
  constructor
  · intro h
    rcases hread : SiteCalibration.read (room - 1) s.disk s.config.calfile with g | _ | data <;>
      rw [hread] at h <;> dsimp only at h
    · split at h
      · cases h
      · rename_i hk
        cases h
        exact ⟨rfl, hk⟩
    · cases h
    · cases h
  · rintro ⟨hread, hk⟩
    rw [hread]
    dsimp only
    rw [if_neg hk]

lemma loadCalibration_of_calibrationFile
    (hread : SiteCalibration.read (room - 1) s.disk s.config.calfile = .error f)
    (hk : f.kind = .calibrationFile) : ∃ e, s.loadCalibration room = .ok (s.note e) := by
  unfold loadCalibration
  dsimp only
  rw [hread]
  dsimp only
  rw [if_pos hk]
  exact ⟨_, rfl⟩

variable {config : Config} {disk : Disk} {clock : Float} {recorder : Option Recorder}
  {publisher : Publisher}

lemma create_eq_error_iff :
    create room config disk clock recorder publisher = .error f ↔
      SiteCalibration.read (room - 2 - 1) disk config.calfile = .error f ∧
        f.kind ≠ .calibrationFile := by
  constructor
  · intro h
    unfold create at h
    rcases Outcome.bind_eq_error h with h | ⟨_, -, h⟩
    · have hload := loadCalibration_eq_error_iff.mp h
      exact hload
    · -- publishing and starting an offline recording cannot fail
      split at h <;> cases h
  · intro h
    unfold create
    exact Outcome.error_bind (loadCalibration_eq_error_iff.mpr h)

lemma create_of_calibrationFile
    (hread : SiteCalibration.read (room - 2 - 1) disk config.calfile = .error f)
    (hk : f.kind = .calibrationFile) :
    ∃ s, create room config disk clock recorder publisher = .ok s ∧
      s.registration = .identity ∧
      s.lighthouses = config.lighthouses.map (fun lh =>
        { name := lh.name, serial := lh.serial, transform := lh.transform }) ∧
      s.trackers.map TrackerState.extrinsics = config.trackers.map TrackerSetup.extrinsics := by
  obtain ⟨e, he⟩ := loadCalibration_of_calibrationFile
    (s := { config, disk, clock, recorder, publisher
            lighthouses := config.lighthouses.map fun lh =>
              { name := lh.name, serial := lh.serial, transform := lh.transform }
            trackers := config.trackers.map fun t =>
              { name := t.name, serial := t.serial, extrinsics := t.extrinsics
                sensors := NumArray.ofRows t.sensors.rows 6, ready := !t.sensors.rows.isEmpty } })
    hread hk
  unfold create
  dsimp only
  rw [he]
  dsimp only [Bind.bind, Except.bind]
  split
  · exact ⟨_, rfl, by simp [note], by simp [note], by simp [note]⟩
  · exact ⟨_, rfl, by simp [note], by simp [note], by simp [note]⟩

end Session

/-- Reading an existing calibration file fails with a calibration-file fault, a recursion fault
for a document nested deeper than the parser's room, or an overflow fault for an integer written
in the document that is too large for a float. Making a session fails exactly when reading its
calibration file fails in one of the last two ways; when the file gives a calibration-file fault,
the session is made with the transforms of its configuration and no lighthouse ready. -/
theorem calibration_file_faults (room : Nat) (disk : Disk) (config : Config) (clock : Float)
    (recorder : Option Recorder) (publisher : Publisher) :
    (∀ path f, SiteCalibration.read room disk path = .error f →
      f.kind = .calibrationFile ∨
      (∃ text e, disk.read (Disk.normalize path) = .ok text ∧
        Json.parse (room - 2) text = .error e ∧ e.kind = .depth ∧ f.kind = .recursion) ∨
      (∃ text doc, disk.read (Disk.normalize path) = .ok text ∧
        Json.parse (room - 2) text = .ok doc ∧
        f.kind = .overflow ∧ ∃ n, doc.HasInt n ∧ Binary64.overflows n.natAbs 1 = true)) ∧
    (∀ f, Session.create room config disk clock recorder publisher = .error f ↔
      SiteCalibration.read (room - 2 - 1) disk config.calfile = .error f ∧
        (f.kind = .recursion ∨ f.kind = .overflow)) ∧
    (∀ f, SiteCalibration.read (room - 2 - 1) disk config.calfile = .error f →
      f.kind = .calibrationFile →
      ∃ s, Session.create room config disk clock recorder publisher = .ok s ∧
        s.registration = .identity ∧
        s.lighthouses = config.lighthouses.map (fun lh =>
          { name := lh.name, serial := lh.serial, transform := lh.transform }) ∧
        s.trackers.map TrackerState.extrinsics = config.trackers.map TrackerSetup.extrinsics) := by
  refine ⟨fun path f h => read_fault_cases h, fun f => ?_,
    fun f hread hk => Session.create_of_calibrationFile hread hk⟩
  rw [Session.create_eq_error_iff]
  constructor
  · rintro ⟨hread, hk⟩
    refine ⟨hread, ?_⟩
    rcases read_fault_cases hread with h | ⟨_, _, -, -, -, h⟩ | ⟨_, _, -, -, h, -⟩
    · exact absurd h hk
    · exact .inl h
    · exact .inr h
  · rintro ⟨hread, hk | hk⟩ <;> exact ⟨hread, by simp [hk]⟩

/-- A session whose calibration file is a directory starts from its configured lighthouse, not
ready. -/
theorem directory_calibration_file_ignored :
    ∃ s, Session.create 100 { calfile := "cal.json", lighthouses := [{ name := "lh", serial := "100" }] }
        { dirs := ["cal.json"] } 0 none .keep = .ok s ∧
      s.lighthouses.map LighthouseState.ready = [false] := by
  have h : (match SiteCalibration.read 97 { dirs := ["cal.json"] } "cal.json" with
      | .error f => decide (f.kind = .calibrationFile)
      | .ok _ => false) = true := by decide +kernel
  split at h
  · rename_i f hread
    obtain ⟨s, hs, -, hl, -⟩ := (calibration_file_faults 100 { dirs := ["cal.json"] }
      { calfile := "cal.json", lighthouses := [{ name := "lh", serial := "100" }] } 0 none
      .keep).2.2 f hread (of_decide_eq_true h)
    exact ⟨s, hs, by rw [hl]; rfl⟩
  · cases h

/-! ### A file with an integer too large for a float -/

/-- A calibration document whose registration starts with an integer too large for a float. -/
def hugeRegistration : Json :=
  .obj [("registration", .arr ([10 ^ 400, 0, 0, 0, 0, 0, 1].map Json.int))]

lemma ofJson_hugeRegistration :
    SiteCalibration.ofJson hugeRegistration =
      .error (Fault.overflow "int too large to convert to float") := by
  have h : (match SiteCalibration.ofJson hugeRegistration with
      | .error f => decide (f.kind = .overflow) && f.message == "int too large to convert to float"
      | .ok _ => false) = true := by decide +kernel
  split at h
  · rename_i f hf
    simp only [Bool.and_eq_true, decide_eq_true_eq, beq_iff_eq] at h
    rw [hf, Fault.overflow, ← h.1, ← h.2]
  · cases h

lemma readable_hugeRegistration : Json.Readable hugeRegistration := by
  unfold hugeRegistration
  simp only [Json.Readable, Json.ReadableFields, Json.ReadableItems, List.map_cons, List.map_nil]
  refine ⟨by decide, by decide, ?_, trivial⟩
  refine ⟨?_, ?_, ?_, ?_, ?_, ?_, ?_, trivial⟩ <;> decide +kernel

/-- Reading a calibration file whose registration starts with an integer too large for a float
fails with an overflow, not a calibration-file fault, and so does making a session on it. -/
theorem huge_integer_escapes_calibration_file :
    SiteCalibration.read 100 { files := [("cal.json", Json.render hugeRegistration)] } "cal.json" =
      .error (Fault.overflow "int too large to convert to float") ∧
    Session.create 100 { calfile := "cal.json" }
        { files := [("cal.json", Json.render hugeRegistration)] } 0 none .keep =
      .error (Fault.overflow "int too large to convert to float") := by
  have hdepth : Json.depth hugeRegistration = 2 := by decide +kernel
  have hread : ∀ room, 4 ≤ room →
      SiteCalibration.read room { files := [("cal.json", Json.render hugeRegistration)] }
        "cal.json" = .error (Fault.overflow "int too large to convert to float") :=
    fun room hroom => read_render_of_overflow readable_hugeRegistration (by omega)
      ofJson_hugeRegistration rfl
  exact ⟨hread 100 (by decide), Session.create_eq_error_iff.mpr ⟨hread 97 (by decide), by decide⟩⟩

end Lighthouse
