import Lighthouse.Proofs.Site.CalibrationFile
import Lighthouse.Log.Replay
/-!
# Faults that escape a log's validation

`validateLog` reports a log it cannot read as invalid when reading fails with a fault of the file
system, a value fault (a text that is no number, too many digits), a decoding fault (a line that
is no JSON) or a key fault (a pulse without one of its fields): `ReportedFault`. Reading a log
fails otherwise in four ways, which escape the validation (`load_fault_cases`): a line holding a
document that is no object has no fields to look up, a field read as a number may hold null, a
list or an object, a number may be out of range for what it is read as (an infinite float read
as an integer, an integer too large for a float read as a float), and a line may be nested
deeper than the parser's room.

When the validation gives a report, the report is invalid exactly when reading failed or no
line of the log holds a header (`validation_report_valid`).
-/
namespace Lighthouse

/-- The faults a log's validation turns into an invalid report. -/
def ReportedFault (f : Fault) : Prop :=
  f.kind.isOs ∨ f.kind = .value ∨ f.kind = .decode ∨ f.kind = .key

def numberFields : List String := ["time", "timecode", "sensor", "length", "total_pulses"]

/-- A value that is neither a number nor a text: null, a list or an object. -/
def Json.Unnumeric : Json → Prop
  | .null | .arr _ | .obj _ => True
  | _ => False

/-- A number out of range for one of the ways it may be read: an infinite float, which has no
integer, or an integer too large for a float. -/
def Json.OutOfRange : Json → Prop
  | .float x => x.isInf = true
  | .int n => Binary64.overflows n.natAbs 1 = true
  | _ => False

/-- How reading a value as a number fails: with a value fault, with a type fault for a value
that is no number or text, or with an overflow for a number out of range. -/
def NumberFault (j : Json) (f : Fault) : Prop :=
  f.kind = .value ∨ j.Unnumeric ∧ f.kind = .type ∨ j.OutOfRange ∧ f.kind = .overflow

/-- What in a parsed log line makes reading it fail with a fault that the validation lets
through. -/
inductive LineFault (e : Json) (f : Fault) : Prop
  /-- A document that is no object: looking up its type is an attribute fault. -/
  | notObject : (∀ fs, e ≠ .obj fs) → f.kind = .attribute → LineFault e f
  /-- A number field holding null, a list or an object. -/
  | unnumeric {k : String} {v : Json} : k ∈ numberFields → e.get? k = some v → v.Unnumeric →
      f.kind = .type → LineFault e f
  /-- A number field holding a number out of range. -/
  | outOfRange {k : String} {v : Json} : k ∈ numberFields → e.get? k = some v → v.OutOfRange →
      f.kind = .overflow → LineFault e f

/-- A log file with a nonblank line holding a header: an object whose type is `header`. -/
def HasHeaderLine (room : Nat) (d : Disk) (path : String) : Prop :=
  ∃ text, d.read (Disk.normalize path) = .ok text ∧ ∃ line ∈ PulseReplay.lines text,
    (Text.trimBlank line.toList).isEmpty = false ∧
    ∃ e, Json.parse room line = .ok e ∧ e.get? "_type" = some (.str "header")

/-! ### Reading numbers and fields -/

section Fields

variable {f : Fault}

lemma Json.toFloat_numberFault {j : Json} (h : j.toFloat = .error f) : NumberFault j f := by
  cases j with
  | int n =>
    rw [Json.toFloat, Json.intToFloat] at h
    split at h
    · cases h
      exact .inr (.inr ⟨‹_›, rfl⟩)
    · cases h
  | str s =>
    rw [Json.toFloat] at h
    split at h
    · cases h
    · cases h
      exact .inl rfl
  | float x => cases h
  | bool b => cases h
  | null => cases h; exact .inr (.inl ⟨trivial, rfl⟩)
  | arr xs => cases h; exact .inr (.inl ⟨trivial, rfl⟩)
  | obj fs => cases h; exact .inr (.inl ⟨trivial, rfl⟩)

lemma Json.toInt_numberFault {j : Json} (h : j.toInt = .error f) : NumberFault j f := by
  cases j with
  | float x =>
    rw [Json.toInt] at h
    split at h
    · cases h
      exact .inl rfl
    · split at h
      · cases h
        exact .inr (.inr ⟨‹_›, rfl⟩)
      · cases h
  | str s =>
    rw [Json.toInt] at h
    split at h
    · cases h
    · cases h
      exact .inl rfl
    · cases h
      exact .inl rfl
  | int n => cases h
  | bool b => cases h
  | null => cases h; exact .inr (.inl ⟨trivial, rfl⟩)
  | arr xs => cases h; exact .inr (.inl ⟨trivial, rfl⟩)
  | obj fs => cases h; exact .inr (.inl ⟨trivial, rfl⟩)

lemma Json.getOr_error {e dflt : Json} {k : String} (h : e.getOr k dflt = .error f) :
    LineFault e f := by
  unfold Json.getOr at h
  split at h
  · cases h
  · rename_i hne
    cases h
    exact .notObject (fun fs he => hne fs he) rfl

lemma Json.getOr_ok {e dflt v : Json} {k : String} (h : e.getOr k dflt = .ok v) :
    e.get? k = some v ∨ e.get? k = none ∧ v = dflt := by
  unfold Json.getOr at h
  split at h
  · rename_i fs
    cases h
    cases (Json.obj fs).get? k with
    | none => exact .inr ⟨rfl, rfl⟩
    | some w => exact .inl rfl
  · cases h

lemma numberField_fault {e dflt v : Json} {k : String} (hk : k ∈ numberFields)
    (hg : e.getOr k dflt = .ok v) (hd : ¬dflt.Unnumeric ∧ ¬dflt.OutOfRange)
    (hv : NumberFault v f) : ReportedFault f ∨ LineFault e f := by
  rcases hv with h | ⟨hu, h⟩ | ⟨ho, h⟩
  · exact .inl (.inr (.inl h))
  · rcases Json.getOr_ok hg with hv' | ⟨-, rfl⟩
    · exact .inr (.unnumeric hk hv' hu h)
    · exact absurd hu hd.1
  · rcases Json.getOr_ok hg with hv' | ⟨-, rfl⟩
    · exact .inr (.outOfRange hk hv' ho h)
    · exact absurd ho hd.2

lemma zero_time_in_range : ¬(Json.float 0.0).Unnumeric ∧ ¬(Json.float 0.0).OutOfRange :=
  ⟨fun h => h, by simp only [Json.OutOfRange]; decide⟩

lemma zero_count_in_range : ¬(Json.int 0).Unnumeric ∧ ¬(Json.int 0).OutOfRange :=
  ⟨fun h => h, by simp only [Json.OutOfRange]; decide⟩

lemma intField_fault {e : Json} {k : String} (hk : k ∈ numberFields)
    (h : (match e.get? k with
      | some v => v.toInt
      | none => .error ⟨.key, Text.quoted k⟩ : Outcome Int) = .error f) :
    ReportedFault f ∨ LineFault e f := by
  split at h
  · rename_i v hv
    rcases Json.toInt_numberFault h with h | ⟨hu, h⟩ | ⟨ho, h⟩
    · exact .inl (.inr (.inl h))
    · exact .inr (.unnumeric hk hv hu h)
    · exact .inr (.outOfRange hk hv ho h)
  · cases h
    exact .inl (.inr (.inr (.inr rfl)))

end Fields

/-! ### Reading a line -/

namespace PulseReplay

variable {f : Fault}

lemma pulseOf_fault {e : Json} (h : pulseOf e = .error f) : ReportedFault f ∨ LineFault e f := by
  unfold pulseOf at h
  rcases Outcome.bind_eq_error h with h | ⟨v, hv, h⟩
  · exact .inr (Json.getOr_error h)
  rcases Outcome.bind_eq_error h with h | ⟨_, -, h⟩
  · exact numberField_fault (by decide) hv zero_time_in_range (Json.toFloat_numberFault h)
  dsimp only at h
  split at h
  · -- the tracker is taken as it is; the three integer fields are looked up in turn
    rcases Outcome.bind_eq_error h with h | ⟨_, -, h⟩
    · cases h
    rcases Outcome.bind_eq_error h with h | ⟨_, -, h⟩
    · exact intField_fault (by decide) h
    rcases Outcome.bind_eq_error h with h | ⟨_, -, h⟩
    · exact intField_fault (by decide) h
    rcases Outcome.bind_eq_error h with h | ⟨_, -, h⟩
    · exact intField_fault (by decide) h
    · cases h
  · rcases Outcome.bind_eq_error h with h | ⟨_, h, -⟩
    · cases h
      exact .inl (.inr (.inr (.inr rfl)))
    · cases h

lemma add_fault {r : PulseReplay} {e : Json} (h : r.add e = .error f) :
    ReportedFault f ∨ LineFault e f := by
  unfold add at h
  rcases Outcome.bind_eq_error h with h | ⟨v, hv, h⟩
  · exact .inr (Json.getOr_error h)
  split at h
  · -- a pulse
    rcases Outcome.bind_eq_error h with h | ⟨_, -, h⟩
    · exact pulseOf_fault h
    · cases h
  · -- an event
    rcases Outcome.bind_eq_error h with h | ⟨_, -, h⟩
    · exact .inr (Json.getOr_error h)
    rcases Outcome.bind_eq_error h with h | ⟨w, hw, h⟩
    · exact .inr (Json.getOr_error h)
    rcases Outcome.bind_eq_error h with h | ⟨_, -, h⟩
    · exact numberField_fault (by decide) hw zero_time_in_range (Json.toFloat_numberFault h)
    rcases Outcome.bind_eq_error h with h | ⟨_, -, h⟩
    · exact .inr (Json.getOr_error h)
    · cases h
  · -- a header
    rcases Outcome.bind_eq_error h with h | ⟨_, -, h⟩
    · exact .inr (Json.getOr_error h)
    rcases Outcome.bind_eq_error h with h | ⟨_, -, h⟩
    · exact .inr (Json.getOr_error h)
    rcases Outcome.bind_eq_error h with h | ⟨_, -, h⟩
    · exact .inr (Json.getOr_error h)
    · cases h
  · -- a footer
    rcases Outcome.bind_eq_error h with h | ⟨_, -, h⟩
    · exact .inr (Json.getOr_error h)
    rcases Outcome.bind_eq_error h with h | ⟨w, hw, h⟩
    · exact .inr (Json.getOr_error h)
    rcases Outcome.bind_eq_error h with h | ⟨_, -, h⟩
    · exact numberField_fault (by decide) hw zero_count_in_range (Json.toInt_numberFault h)
    · cases h
  · cases h

/-- One line of a log taken into the replay being read: a blank line is skipped, any other is
parsed and added. -/
def takeLine (room : Nat) (r : PulseReplay) (line : String) : Outcome PulseReplay :=
  if (Text.trimBlank line.toList).isEmpty then pure r
  else match Json.parse room line with
    | .ok e => r.add e
    | .error err => .error (err.toFault line)

lemma load_eq (room : Nat) (d : Disk) (path : String) :
    load room d path =
      if !d.reaches (Disk.normalize path) then
        .error ⟨.fileNotFound, s!"Log file not found: {path}"⟩
      else d.read (Disk.normalize path) >>= fun text => (lines text).foldlM (takeLine (room - 2)) {} := by
  unfold load
  split <;> rfl

lemma takeLine_fault {room : Nat} {r : PulseReplay} {line : String}
    (h : takeLine room r line = .error f) :
    (Text.trimBlank line.toList).isEmpty = false ∧
      (ReportedFault f ∨ (∃ e, Json.parse room line = .ok e ∧ LineFault e f) ∨
        ∃ err, Json.parse room line = .error err ∧ err.kind = .depth ∧ f.kind = .recursion) := by
  unfold takeLine at h
  split at h
  · cases h
  rename_i hblank
  refine ⟨by simpa using hblank, ?_⟩
  split at h
  · rename_i e he
    rcases add_fault h with hr | hl
    · exact .inl hr
    · exact .inr (.inl ⟨e, he, hl⟩)
  · rename_i err herr
    cases h
    unfold Json.ReadError.toFault
    split
    · exact .inl (.inr (.inr (.inl rfl)))
    · exact .inl (.inr (.inl rfl))
    · exact .inr (.inr ⟨err, herr, ‹_›, rfl⟩)

end PulseReplay

/-! ### Reading the file -/

namespace Disk

variable {d : Disk} {f : Fault}

lemma walk_fault {shown : String} :
    ∀ {ps names : List String}, d.walk shown ps names = .error f → f.kind.isOs
  | [], _, h => by cases h
  | part :: rest, names, h => by
    unfold walk at h
    split at h
    · cases h
      rfl
    · cases h
      rfl
    · split at h
      · exact walk_fault h
      · split at h <;> exact walk_fault h

lemma read_fault {path : String} (h : d.read path = .error f) : f.kind.isOs := by
  have hraw := Outcome.map_eq_error h
  unfold readRaw at hraw
  rcases Outcome.bind_eq_error hraw with hl | ⟨_, -, hraw⟩
  · unfold locate at hl
    split at hl
    · cases hl
      rfl
    · exact walk_fault hl
  · split at hraw
    · cases hraw
    · cases hraw
      rfl
    · cases hraw
      rfl

end Disk

namespace PulseReplay

variable {room : Nat} {d : Disk} {path : String} {f : Fault}

/-- What makes reading a log fail: a reported fault, or at a nonblank line a fault of the
document it holds or nesting deeper than the parser's room. -/
theorem load_fault_cases (h : load room d path = .error f) :
    ReportedFault f ∨ ∃ text, d.read (Disk.normalize path) = .ok text ∧
      ∃ line ∈ lines text, (Text.trimBlank line.toList).isEmpty = false ∧
        ((∃ e, Json.parse (room - 2) line = .ok e ∧ LineFault e f) ∨
          ∃ err, Json.parse (room - 2) line = .error err ∧ err.kind = .depth ∧
            f.kind = .recursion) := by
  rw [load_eq] at h
  split at h
  · cases h
    exact .inl (.inl rfl)
  rcases Outcome.bind_eq_error h with hr | ⟨text, htext, h⟩
  · exact .inl (.inl (Disk.read_fault hr))
  obtain ⟨_, line, hline, hf⟩ := Outcome.foldlM_eq_error h
  obtain ⟨hblank, hr | hl | hdepth⟩ := takeLine_fault hf
  · exact .inl hr
  · exact .inr ⟨text, htext, line, hline, hblank, .inl hl⟩
  · exact .inr ⟨text, htext, line, hline, hblank, .inr hdepth⟩

/-! ### The header -/

lemma add_header {r r' : PulseReplay} {e : Json} (h : r.add e = .ok r') :
    (r'.header.isSome ↔ r.header.isSome ∨ e.get? "_type" = some (.str "header")) := by
  unfold add at h
  obtain ⟨v, hv, h⟩ := Outcome.bind_eq_ok h
  have htype : e.get? "_type" = some (.str "header") ↔ v = .str "header" := by
    rcases Json.getOr_ok hv with hk | ⟨hk, rfl⟩
    · rw [hk, Option.some.injEq]
    · simp [hk]
  rw [htype]
  split at h
  · obtain ⟨_, -, h⟩ := Outcome.bind_eq_ok h
    cases h
    simp
  · obtain ⟨_, -, h⟩ := Outcome.bind_eq_ok h
    obtain ⟨_, -, h⟩ := Outcome.bind_eq_ok h
    obtain ⟨_, -, h⟩ := Outcome.bind_eq_ok h
    obtain ⟨_, -, h⟩ := Outcome.bind_eq_ok h
    cases h
    simp
  · obtain ⟨_, -, h⟩ := Outcome.bind_eq_ok h
    obtain ⟨_, -, h⟩ := Outcome.bind_eq_ok h
    obtain ⟨_, -, h⟩ := Outcome.bind_eq_ok h
    cases h
    simp
  · obtain ⟨_, -, h⟩ := Outcome.bind_eq_ok h
    obtain ⟨_, -, h⟩ := Outcome.bind_eq_ok h
    obtain ⟨_, -, h⟩ := Outcome.bind_eq_ok h
    cases h
    simp
  · rename_i _ _ hheader _
    cases h
    exact ⟨.inl, fun h => h.elim id fun hv => absurd hv hheader⟩

lemma takeLine_header {room : Nat} {r r' : PulseReplay} {line : String}
    (h : takeLine room r line = .ok r') :
    (r'.header.isSome ↔ r.header.isSome ∨ (Text.trimBlank line.toList).isEmpty = false ∧
      ∃ e, Json.parse room line = .ok e ∧ e.get? "_type" = some (.str "header")) := by
  unfold takeLine at h
  split at h
  · rename_i hblank
    cases h
    simp [hblank]
  · rename_i hblank
    split at h
    · rename_i e he
      rw [add_header h]
      simp only [Bool.not_eq_true] at hblank
      exact ⟨fun h => h.imp_right fun h => ⟨hblank, e, he, h⟩,
        fun h => h.imp_right fun ⟨_, e', he', h⟩ => by cases he.symm.trans he'; exact h⟩
    · cases h

lemma foldlM_header {room : Nat} :
    ∀ {ls : List String} {r r' : PulseReplay}, ls.foldlM (takeLine room) r = .ok r' →
      (r'.header.isSome ↔ r.header.isSome ∨ ∃ line ∈ ls, (Text.trimBlank line.toList).isEmpty = false ∧
        ∃ e, Json.parse room line = .ok e ∧ e.get? "_type" = some (.str "header"))
  | [], r, r', h => by
    cases h
    simp
  | line :: ls, r, r', h => by
    rw [List.foldlM_cons] at h
    obtain ⟨r₁, h₁, h⟩ := Outcome.bind_eq_ok h
    rw [foldlM_header h, takeLine_header h₁]
    simp only [List.mem_cons, or_and_right, exists_or, exists_eq_left, or_assoc]

theorem load_header {r : PulseReplay} (h : load room d path = .ok r) :
    (r.header.isSome ↔ HasHeaderLine (room - 2) d path) := by
  rw [load_eq] at h
  split at h
  · cases h
  obtain ⟨text, htext, h⟩ := Outcome.bind_eq_ok h
  rw [foldlM_header h]
  constructor
  · rintro (h | h)
    · cases h
    · exact ⟨text, htext, h⟩
  · rintro ⟨text', htext', h⟩
    cases htext.symm.trans htext'
    exact .inr h

end PulseReplay

/-! ### The validation -/

section Validation

variable {room : Nat} {d : Disk} {path : String} {f : Fault}

lemma validateLog_eq_error_iff :
    validateLog room d path = .error f ↔
      PulseReplay.load (room - 1) d path = .error f ∧ ¬ReportedFault f := by
  unfold validateLog
  rcases hl : PulseReplay.load (room - 1) d path with g | r
  · dsimp only
    split
    · rename_i hg
      constructor
      · intro h
        cases h
      · rintro ⟨h, hn⟩
        cases h
        exact absurd hg hn
    · rename_i hg
      constructor
      · intro h
        cases h
        exact ⟨rfl, hg⟩
      · rintro ⟨h, -⟩
        cases h
        rfl
  · dsimp only
    constructor
    · intro h
      cases h
    · rintro ⟨h, -⟩
      cases h

lemma validateLog_valid {rep : Json} (h : validateLog room d path = .ok rep) :
    rep.get? "valid" = some (.bool false) ↔
      (∃ f, PulseReplay.load (room - 1) d path = .error f) ∨ ¬HasHeaderLine (room - 3) d path := by
  unfold validateLog at h
  rcases hl : PulseReplay.load (room - 1) d path with g | r
  · rw [hl] at h
    dsimp only at h
    split at h
    · cases h
      exact ⟨fun _ => .inl ⟨g, rfl⟩, fun _ => rfl⟩
    · cases h
  · rw [hl] at h
    cases h
    have hheader := PulseReplay.load_header hl
    rw [Nat.sub_sub] at hheader
    rw [← hheader]
    cases r.header <;> simp [Json.get?]

end Validation

/-- A log's validation gives a report unless reading the log fails with a fault it does not
report, and such a fault comes from a nonblank line: a document that is no object, a number field
holding null, a list or an object, a number out of range for what it is read as, or nesting
deeper than the parser's room. A report says the log is invalid exactly when reading failed or
no line holds a header. -/
theorem validation_faults (room : Nat) (d : Disk) (path : String) :
    (∀ f, validateLog room d path = .error f ↔
      PulseReplay.load (room - 1) d path = .error f ∧ ¬ReportedFault f) ∧
    (∀ f, validateLog room d path = .error f →
      ∃ text, d.read (Disk.normalize path) = .ok text ∧
        ∃ line ∈ PulseReplay.lines text, (Text.trimBlank line.toList).isEmpty = false ∧
          ((∃ e, Json.parse (room - 3) line = .ok e ∧ LineFault e f) ∨
            ∃ err, Json.parse (room - 3) line = .error err ∧ err.kind = .depth ∧
              f.kind = .recursion)) ∧
    (∀ rep, validateLog room d path = .ok rep →
      (rep.get? "valid" = some (.bool false) ↔
        (∃ f, PulseReplay.load (room - 1) d path = .error f) ∨
          ¬HasHeaderLine (room - 3) d path)) := by
  refine ⟨fun f => validateLog_eq_error_iff, fun f h => ?_, fun rep h => validateLog_valid h⟩
  obtain ⟨hl, hn⟩ := validateLog_eq_error_iff.mp h
  rcases PulseReplay.load_fault_cases hl with hr | hcases
  · exact absurd hr hn
  · rw [Nat.sub_sub] at hcases
    exact hcases

def footerOnlyLog : Disk := { files := [("log.jsonl", "\x7b\"_type\": \"footer\"\x7d\n")] }

/-- A log of a single footer line is reported invalid: no line holds a header. -/
theorem footer_only_log_invalid :
    ∃ rep, validateLog 992 footerOnlyLog "log.jsonl" = .ok rep ∧
      rep.get? "valid" = some (.bool false) := by
  have hok : (validateLog 992 footerOnlyLog "log.jsonl").isOk = true := by decide +kernel
  obtain ⟨rep, h⟩ := Outcome.ok_of_isOk hok
  refine ⟨rep, h, ((validation_faults 992 footerOnlyLog "log.jsonl").2.2 rep h).2 (.inr ?_)⟩
  rintro ⟨text, htext, line, hline, -, e, he, htype⟩
  have hread : footerOnlyLog.read (Disk.normalize "log.jsonl") =
      .ok "\x7b\"_type\": \"footer\"\x7d\n" := by
    rfl
  cases htext.symm.trans hread
  have hlines : PulseReplay.lines "\x7b\"_type\": \"footer\"\x7d\n" =
      ["\x7b\"_type\": \"footer\"\x7d\n"] := by
    decide
  rw [hlines, List.mem_singleton] at hline
  subst hline
  have hfooter : (((Json.parse (992 - 3) "\x7b\"_type\": \"footer\"\x7d\n").toOption.bind
      (·.get? "_type")).bind Json.str?) = some "footer" := by
    decide +kernel
  rw [he] at hfooter
  simp [Except.toOption, htype, Json.str?] at hfooter

/-- A log of a header line and a line holding an empty list, as the protocol writes it. -/
def listLineLog : Disk :=
  { files := [("log.jsonl", "\x7b\"_type\": \"header\", \"capture_start\": \"2024-01-01T00:00:00\", " ++
      "\"log_format\": \"jsonl\", \"schema_version\": \"1.0\"\x7d\n[]\n")] }

/-- Validating a log with a line holding a list fails with an attribute fault: the line has no
fields to look its type up in, and the validation reports no such fault. -/
theorem list_line_escapes_validation :
    validateLog 992 listLineLog "log.jsonl" =
      .error ⟨.attribute, "\x27list\x27 object has no attribute \x27get\x27"⟩ := by
  have h : (match validateLog 992 listLineLog "log.jsonl" with
      | .error f => decide (f.kind = .attribute) &&
          f.message == "\x27list\x27 object has no attribute \x27get\x27"
      | .ok _ => false) = true := by
    decide +kernel
  split at h
  · rename_i f hf
    simp only [Bool.and_eq_true, decide_eq_true_eq, beq_iff_eq] at h
    rw [hf, ← h.1, ← h.2]
  · cases h

end Lighthouse
