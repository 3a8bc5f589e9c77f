import Lighthouse.Log.Replay
import Lighthouse.Proofs.Session.Frame
import Lighthouse.Proofs.Json.ReadBack
import Lighthouse.Proofs.Json.Ascii
import Lighthouse.Proofs.Disk.Files
import Lighthouse.Proofs.Calibration.Table
import Lighthouse.Proofs.Binary64.Defined
import Mathlib
/-!
# Recorded logs read back

A recorder writes each entry of a log as one line: the entry written flat, then a line end
(`logLine`). A recording (`Recorder.record`) opens a log with its header, makes calls on it
(`LogCall`, pulses and events) and closes it with a footer that counts the pulses. While the log
is open (`Recorder.HoldsLog`) each call appends its line and nothing else changes the file, so
the log holds the lines of its entries in order (`Recorder.record_holds`).

Reading a log back undoes the writing. A written document holds only printable ASCII
characters, never a line end, so the text of a log splits back into its lines (`lines_join`).
Each line parses back as its entry when what the entry holds reads back (`parse_logLine`, from
`Json.parse_render_append`), and adding the entries in order gives the header, the pulses and
events of the calls in order, and the footer (`PulseReplay.load_of_entries`). A log recorded
with calls whose values read back therefore replays as it was recorded, and its integrity report
finds it valid (`record_replays`).
-/
namespace Lighthouse

open Effect

theorem Effect.runFrom_discard_ok {σ α : Type} {x : Effect σ α} {s s' : σ} {a : α}
    (h : x.runFrom s = (.ok a, s')) : (discard x).runFrom s = (.ok (), s') := by
  simp only [Effect.runFrom, discard, Functor.mapConst, ExceptT.map, ExceptT.mk, ExceptT.run,
    StateT.bind, StateT.run, bind, Function.comp, Function.const] at h ⊢
  rw [h]
  rfl

/-- One line of a log: a document written flat, then a line end. -/
def logLine (e : Json) : String := Json.render e ++ "\n"
namespace Recorder

/-- The recorder has the log at `path` open, and the disk holds it as `text` under the names
`N`. -/
structure HoldsLog (path : String) (N : List String) (text : String) (s : Recorder × Disk) :
    Prop where
  current : s.1.current = some path
  isOpen : s.1.isOpen = true
  target : s.2.target path = .ok N
  file : s.2.entry N = .file text

variable {path : String} {N : List String} {text : String}

theorem writeEntry_holds {r : Recorder} {d : Disk} (h : HoldsLog path N text (r, d)) (e : Json) :
    (writeEntry e).runFrom (r, d) = (.ok (), (r, d.put N (text ++ logLine e))) ∧
      HoldsLog path N (text ++ logLine e) (r, d.put N (text ++ logLine e)) := by
  refine ⟨?_, h.current, h.isOpen, Disk.target_put h.target _,
    Disk.entry_put_self (Disk.target_not_all_dotdot h.target) _⟩
  unfold writeEntry
  simp only [runFrom_get_bind]
  rw [h.current, h.isOpen]
  dsimp only
  rw [Disk.append_of_file h.target h.file]
  rfl

end Recorder

/-- One call made on an open log: a raw pulse of a tracker or a session event, each with the time
the caller's clock gives. -/
inductive LogCall
  | pulse (time : Float) (tracker : String) (timecode sensor length : Int)
  | event (time : Float) (eventType : String) (data : Json)

namespace LogCall

/-- The call made on a recorder. -/
def perform : LogCall → Effect (Recorder × Disk) Unit
  | pulse t k tc s l => Recorder.logPulse t (.str k) (.int tc) (.int s) (.int l)
  | event t ty data => Recorder.logEvent t (.str ty) data

def entry : LogCall → Json
  | pulse t k tc s l => .obj [("_type", .str "pulse"), ("time", .float t), ("tracker", .str k),
      ("timecode", .int tc), ("sensor", .int s), ("length", .int l)]
  | event t ty data => .obj [("_type", .str "event"), ("event_type", .str ty), ("time", .float t),
      ("data", data)]

def pulse? : LogCall → Option PulseEntry
  | pulse t k tc s l => some ⟨t, k, tc, s, l⟩
  | event .. => none

def event? : LogCall → Option EventEntry
  | pulse .. => none
  | event t ty data => some ⟨ty, t, data⟩

/-- What a call logs reads back from its line, with nesting room `room`: its time is a float whose
text reads back, its strings hold no pair of characters the reader would join, its integers have
no more digits than a reader takes, and an event's data reads back with the two levels of room
that its line and the replay take. -/
def Legible (room : Nat) : LogCall → Prop
  | pulse t k tc s l => Json.FloatReadsBack t ∧ Json.readsBackChars k.toList = true ∧
      tc.natAbs < 10 ^ Text.integerDigitLimit ∧ s.natAbs < 10 ^ Text.integerDigitLimit ∧
      l.natAbs < 10 ^ Text.integerDigitLimit
  | event t ty data => Json.FloatReadsBack t ∧ Json.readsBackChars ty.toList = true ∧
      Json.Readable data ∧ Json.depth data + 3 ≤ room

theorem Legible.readable {room : Nat} {c : LogCall} (h : c.Legible room) (hroom : 3 ≤ room) :
    Json.Readable c.entry ∧ Json.depth c.entry ≤ room - 2 := by
  cases c with
  | pulse t k tc s l =>
    obtain ⟨ht, hk, htc, hs, hl⟩ := h
    refine ⟨?_, ?_⟩
    · simp [entry, Json.Readable, Json.ReadableFields, ht, hk, htc, hs, hl]
      decide
    · simp [entry, Json.depth, Json.depthFields]
      omega
  | event t ty data =>
    obtain ⟨ht, hty, hd, hdepth⟩ := h
    refine ⟨?_, ?_⟩
    · simp [entry, Json.Readable, Json.ReadableFields, ht, hty, hd]
      decide
    · simp [entry, Json.depth, Json.depthFields]
      omega

end LogCall

namespace Recorder

variable {path : String} {N : List String} {text : String}

theorem perform_holds {r : Recorder} {d : Disk} (h : HoldsLog path N text (r, d)) (c : LogCall) :
    ∃ r', c.perform.runFrom (r, d) = (.ok (), (r', d.put N (text ++ logLine c.entry))) ∧
      HoldsLog path N (text ++ logLine c.entry) (r', d.put N (text ++ logLine c.entry)) ∧
      r'.pulses = r.pulses + ([c].filterMap LogCall.pulse?).length := by
  obtain ⟨hw, hh⟩ := writeEntry_holds h c.entry
  have hrec : r.isRecording = true := h.isOpen
  cases c with
  | pulse t k tc s l =>
    refine ⟨{ r with pulses := r.pulses + 1 }, ?_, ⟨hh.current, hh.isOpen, hh.target, hh.file⟩, rfl⟩
    unfold LogCall.perform logPulse
    simp only [runFrom_bind, runFrom_get, hrec, Bool.not_true, Bool.false_eq_true, ↓reduceIte]
    simp only [runFrom_ofOutcome, Json.toInt]
    simp only [LogCall.entry] at hw
    rw [hw]
    rfl
  | event t ty data =>
    refine ⟨{ r with events := r.events + 1 }, ?_, ⟨hh.current, hh.isOpen, hh.target, hh.file⟩, rfl⟩
    unfold LogCall.perform logEvent
    simp only [runFrom_bind, runFrom_get, hrec, Bool.not_true, Bool.false_eq_true, ↓reduceIte]
    simp only [LogCall.entry] at hw
    rw [hw]
    rfl

/-- The header a log opened at `stamp` starts with. -/
def headerEntry (stamp : String) : Json :=
  .obj [("_type", .str "header"), ("schema_version", .str schemaVersion),
    ("capture_start", .str stamp), ("log_format", .str "jsonl")]

/-- The footer a log closed at `stamp` after `count` pulses ends with. -/
def footerEntry (stamp : String) (count : Nat) : Json :=
  .obj [("_type", .str "footer"), ("capture_end", .str stamp), ("total_pulses", .int count)]

theorem forM_perform_holds : ∀ (calls : List LogCall) {r : Recorder} {d : Disk} {text : String},
    HoldsLog path N text (r, d) → ∃ r' d', (calls.forM LogCall.perform).runFrom (r, d) =
      (.ok (), (r', d')) ∧
      HoldsLog path N (text ++ String.join (calls.map fun c => logLine c.entry)) (r', d') ∧
      r'.pulses = r.pulses + (calls.filterMap LogCall.pulse?).length
  | [], r, d, text, h => ⟨r, d, rfl, by simpa using h, by simp⟩
  | c :: cs, r, d, text, h => by
    obtain ⟨r₁, hrun, hh, hp⟩ := perform_holds h c
    obtain ⟨r', d', hrest, hh', hp'⟩ := forM_perform_holds cs hh
    refine ⟨r', d', ?_, ?_, ?_⟩
    · show (c.perform >>= fun _ => cs.forM LogCall.perform).runFrom (r, d) = _
      rw [runFrom_bind_ok hrun, hrest]
    · simpa [String.append_assoc] using hh'
    · rw [hp', hp]
      cases c <;>
        simp only [List.filterMap_cons, List.filterMap_nil, LogCall.pulse?, List.length_cons,
          List.length_nil] <;>
        omega

theorem start_holds {name stamp path : String} {r : Recorder} {d : Disk} {s : Recorder × Disk}
    (h : (start name stamp).runFrom (r, d) = (.ok path, s)) :
    path = Disk.normalize (r.dir ++ "/" ++ name ++ ".jsonl") ∧ s.1.pulses = 0 ∧
      ∃ N, HoldsLog path N (logLine (headerEntry stamp)) s := by
  unfold start at h
  simp only [runFrom_bind, runFrom_get] at h
  split at h
  · simp only [runFrom_bind, runFrom_throw] at h
    cases h
  generalize Disk.normalize (r.dir ++ "/" ++ name ++ ".jsonl") = p at h ⊢
  cases hw : d.write p "" with
  | error e =>
    simp only [runFrom_bind, runFrom_set, runFrom_ofOutcome, hw] at h
    cases h
  | ok d₀ =>
    obtain ⟨N, hN, rfl⟩ := Disk.write_eq_ok.mp hw
    simp only [runFrom_bind, runFrom_set, runFrom_ofOutcome, hw] at h
    have hopen : HoldsLog p N "" (⟨r.dir, some p, true, 0, 0⟩, d.put N "") :=
      ⟨rfl, rfl, Disk.target_put hN _, Disk.entry_put_self (Disk.target_not_all_dotdot hN) _⟩
    obtain ⟨hw', hh⟩ := writeEntry_holds hopen (headerEntry stamp)
    rw [show Json.obj [("_type", Json.str "header"), ("schema_version", Json.str schemaVersion),
      ("capture_start", Json.str stamp), ("log_format", Json.str "jsonl")] = headerEntry stamp
      from rfl, hw'] at h
    simp only [runFrom_pure, Prod.mk.injEq, Except.ok.injEq] at h
    obtain ⟨rfl, rfl⟩ := h
    rw [String.empty_append] at hh
    exact ⟨rfl, rfl, N, hh⟩

theorem stop_holds (stamp : String) {r : Recorder} {d : Disk} (h : HoldsLog path N text (r, d)) :
    ∃ j r', (stop stamp).runFrom (r, d) =
      (.ok j, (r', d.put N (text ++ logLine (footerEntry stamp r.pulses)))) := by
  obtain ⟨hw, -⟩ := writeEntry_holds h (footerEntry stamp r.pulses)
  have hrec : r.isRecording = true := h.isOpen
  unfold stop
  simp only [runFrom_bind, runFrom_get, hrec, Bool.not_true, Bool.false_eq_true, ↓reduceIte]
  rw [show Json.obj [("_type", Json.str "footer"), ("capture_end", Json.str stamp),
    ("total_pulses", Json.int r.pulses)] = footerEntry stamp r.pulses from rfl, hw]
  simp only [runFrom_set, runFrom_pure]
  exact ⟨_, _, rfl⟩

/-- A log recorded from a start to a stop, with the calls made on it in between; the path of the
log is returned. -/
def record (name stamp endStamp : String) (calls : List LogCall) :
    Effect (Recorder × Disk) String := do
  let path ← start name stamp
  calls.forM LogCall.perform
  discard (stop endStamp)
  pure path

/-- The entries a recording writes: its header, a line per call, and its footer. -/
def entries (stamp endStamp : String) (calls : List LogCall) : List Json :=
  headerEntry stamp :: calls.map LogCall.entry ++
    [footerEntry endStamp (calls.filterMap LogCall.pulse?).length]

theorem record_holds {name stamp path : String} {r : Recorder} {d : Disk} {s₁ : Recorder × Disk}
    (hstart : (start name stamp).runFrom (r, d) = (.ok path, s₁)) (endStamp : String)
    (calls : List LogCall) :
    path = Disk.normalize (r.dir ++ "/" ++ name ++ ".jsonl") ∧ ∃ N s,
      (record name stamp endStamp calls).runFrom (r, d) = (.ok path, s) ∧
      s.2.target path = .ok N ∧
      s.2.entry N = .file (String.join ((entries stamp endStamp calls).map logLine)) := by
  obtain ⟨hpath, hzero, N, hopen⟩ := start_holds hstart
  obtain ⟨r₁, d₁⟩ := s₁
  obtain ⟨r', d', hcalls, hh, hcount⟩ := forM_perform_holds calls hopen
  obtain ⟨j, r'', hstop⟩ := stop_holds endStamp hh
  have hdisk := writeEntry_holds hh (footerEntry endStamp r'.pulses)
  refine ⟨hpath, N, (r'', d'.put N _), ?_, hdisk.2.target, ?_⟩
  · unfold record
    rw [runFrom_bind_ok hstart, runFrom_bind_ok hcalls, runFrom_bind_ok (runFrom_discard_ok hstop)]
    rfl
  · rw [hdisk.2.file, hcount, hzero, Nat.zero_add]
    simp [entries, String.join_cons, String.append_assoc, Function.comp_def]

end Recorder

/-! ### Reading a log back -/

section Lines

theorem not_mem_logLine {c : Char} (hc : Json.isPrintable c = false) (hn : c ≠ '\n') (e : Json) :
    c ∉ (logLine e).toList := by
  simp only [logLine, String.toList_append, List.mem_append, not_or]
  exact ⟨Json.not_mem_render hc e, by simpa using hn⟩

/-- Lines written one after the other split back into those lines. -/
theorem lines_join (es : List Json) :
    PulseReplay.lines (String.join (es.map logLine)) = es.map logLine := by
  have hsplit : ∀ es : List Json, (String.join (es.map logLine)).toList.splitOn '\n' =
      es.map (fun e => (Json.render e).toList) ++ [[]] := by
    intro es
    induction es with
    | nil => rfl
    | cons e es ih =>
      rw [List.map_cons, String.join_cons, String.toList_append, logLine, String.toList_append,
        List.append_assoc, show "\n".toList = ['\n'] from rfl, List.singleton_append,
        List.splitOn_append_cons_self_of_not_mem (Json.not_mem_render (by decide) e), ih]
      rfl
  unfold PulseReplay.lines
  simp only [hsplit, List.map_append, List.map_map, List.map_cons, List.map_nil,
    List.dropLast_concat, List.getLast?_concat]
  simp [Function.comp_def, logLine]

theorem not_mem_join_logLine (es : List Json) :
    '\r' ∉ (String.join (es.map logLine)).toList := by
  induction es with
  | nil => simp
  | cons e es ih =>
    rw [List.map_cons, String.join_cons, String.toList_append, List.mem_append, not_or]
    exact ⟨not_mem_logLine (by decide) (by decide) e, ih⟩

theorem trimBlank_logLine (e : Json) : (Text.trimBlank (logLine e).toList).isEmpty = false := by
  have hopen := Json.opensValue_writeAt 0 e
  have hprint := List.all_eq_true.mp (Json.all_isPrintable_render e)
  change Json.opensValue (Json.render e).toList = true at hopen
  rcases hr : (Json.render e).toList with _ | ⟨c, t⟩
  · rw [hr] at hopen
    cases hopen
  rw [hr] at hopen
  have hc : Text.isBlank c = false := by
    have hp := hprint c (by rw [hr]; exact List.mem_cons_self)
    simp only [Json.opensValue, Json.isBlank, Bool.and_eq_true, Bool.not_eq_true',
      Bool.or_eq_false_iff, decide_eq_false_iff_not] at hopen
    simp only [Json.isPrintable, Bool.and_eq_true, decide_eq_true_eq] at hp
    have hsp : c.toNat ≠ 0x20 := fun h => hopen.1.2.1.1.1 (Char.toNat_inj.mp h)
    simp only [Text.isBlank, decide_eq_false_iff_not]
    omega
  rw [List.isEmpty_eq_false_iff, logLine, String.toList_append, hr, List.cons_append]
  unfold Text.trimBlank
  rw [List.dropWhile_cons_of_neg (by simp [hc]), ne_eq, List.reverse_eq_nil_iff,
    List.dropWhile_eq_nil_iff]
  intro hall
  have := hall c (by simp)
  simp [hc] at this

/-- The reader takes a written line of a readable document as that document. -/
theorem parse_logLine {room : Nat} {e : Json} (hj : Json.Readable e) (hd : Json.depth e ≤ room) :
    Json.parse room (logLine e) = .ok e :=
  Json.parse_render_append hj hd fun c hc => by
    rw [show "\n".toList = ['\n'] from rfl, List.mem_singleton] at hc
    subst hc
    rfl

end Lines

namespace PulseReplay

theorem add_headerEntry (acc : PulseReplay) (stamp : String) :
    acc.add (Recorder.headerEntry stamp) =
      .ok { acc with header := some ⟨.str schemaVersion, .str stamp, .str "jsonl"⟩ } := rfl

theorem add_footerEntry (acc : PulseReplay) (stamp : String) (n : Nat) :
    acc.add (Recorder.footerEntry stamp n) = .ok { acc with footer := some ⟨.str stamp, n⟩ } := rfl

theorem add_entry (acc : PulseReplay) (c : LogCall) :
    acc.add c.entry = .ok { acc with
      pulses := acc.pulses ++ c.pulse?.toList, events := acc.events ++ c.event?.toList } := by
  cases c <;>
    simp [PulseReplay.add, PulseReplay.pulseOf, LogCall.entry, LogCall.pulse?, LogCall.event?,
      Json.getOr, Json.get?, Json.toFloat, Json.toInt, Json.display, bind, Except.bind, pure,
      Except.pure]

theorem foldlM_add_entries (calls : List LogCall) (acc : PulseReplay) :
    (calls.map LogCall.entry).foldlM PulseReplay.add acc = .ok { acc with
      pulses := acc.pulses ++ calls.filterMap LogCall.pulse?,
      events := acc.events ++ calls.filterMap LogCall.event? } := by
  induction calls generalizing acc with
  | nil => simp; rfl
  | cons c cs ih =>
    rw [List.map_cons, List.foldlM_cons, add_entry]
    dsimp only [bind, Except.bind]
    rw [ih]
    cases c <;> simp [LogCall.pulse?, LogCall.event?, List.filterMap_cons]

theorem trackers_eq (r : PulseReplay) : r.trackers = (r.pulses.map (·.tracker)).eraseDups := by
  have key : ∀ (ps : List PulseEntry) (seen : List String),
      ps.foldl (fun acc p => if acc.contains p.tracker then acc else acc ++ [p.tracker])
        seen.eraseDups = (seen ++ ps.map (·.tracker)).eraseDups := by
    intro ps
    induction ps with
    | nil => simp
    | cons p ps ih =>
      intro seen
      -- one step of the fold is the first occurrences of one more tracker
      have hstep : (if seen.eraseDups.contains p.tracker then seen.eraseDups
          else seen.eraseDups ++ [p.tracker]) = (seen ++ [p.tracker]).eraseDups := by
        rw [eraseDups_append_single]
        simp [List.mem_eraseDups]
      rw [List.foldl_cons, hstep, ih, List.map_cons, List.append_assoc, List.singleton_append]
  unfold PulseReplay.trackers
  simpa using key r.pulses []

theorem foldlM_logLines {step : PulseReplay → String → Outcome PulseReplay} :
    ∀ {es : List Json}, (∀ e ∈ es, ∀ acc, step acc (logLine e) = acc.add e) →
      ∀ acc, (es.map logLine).foldlM step acc = es.foldlM PulseReplay.add acc
  | [], _, acc => rfl
  | e :: es, hstep, acc => by
    rw [List.map_cons, List.foldlM_cons, List.foldlM_cons, hstep e List.mem_cons_self]
    cases acc.add e with
    | error f => rfl
    | ok acc' => exact foldlM_logLines (fun e' he' => hstep e' (List.mem_cons_of_mem _ he')) acc'

theorem load_of_entries {room : Nat} {d : Disk} {path : String} {N : List String} {es : List Json}
    (hpath : Disk.normalize path = path) (ht : d.target path = .ok N)
    (hf : d.entry N = .file (String.join (es.map logLine)))
    (hes : ∀ e ∈ es, Json.Readable e ∧ Json.depth e ≤ room - 2) :
    PulseReplay.load room d path = es.foldlM PulseReplay.add {} := by
  have hl := Disk.target_locate ht
  unfold PulseReplay.load
  rw [hpath, Disk.reaches_of_file hl hf]
  simp only [Bool.not_true, Bool.false_eq_true, ↓reduceIte, bind, Except.bind]
  rw [Disk.read_of_file hl hf (not_mem_join_logLine es)]
  dsimp only
  rw [lines_join]
  refine foldlM_logLines (fun e he acc => ?_) {}
  rw [if_neg (by rw [trimBlank_logLine]; decide), parse_logLine (hes e he).1 (hes e he).2]

end PulseReplay

/-- A log recorded from a start that succeeds, with calls on it whose lines read back, replays as
it was recorded. Its header is of the known schema and its stamp; its pulses and events are
those logged, in the order of the calls, with the times the calls were given; its footer counts
the pulses; its trackers are those of the pulses, each once, in order of first appearance; and
its integrity report finds it valid, with no error and no warning. -/
theorem record_replays {room : Nat} {name stamp path : String} {r : Recorder} {d : Disk}
    {s₁ : Recorder × Disk} (hstart : (Recorder.start name stamp).runFrom (r, d) = (.ok path, s₁))
    (endStamp : String) (calls : List LogCall) (hroom : 3 ≤ room)
    (hstamp : Json.readsBackChars stamp.toList = true)
    (hend : Json.readsBackChars endStamp.toList = true)
    (hcalls : ∀ c ∈ calls, c.Legible room) (hcount : calls.length < 10 ^ Text.integerDigitLimit) :
    ∃ s, (Recorder.record name stamp endStamp calls).runFrom (r, d) = (.ok path, s) ∧
      ∃ replay, PulseReplay.load room s.2 path = .ok replay ∧
        replay.header = some ⟨.str schemaVersion, .str stamp, .str "jsonl"⟩ ∧
        replay.pulses = calls.filterMap LogCall.pulse? ∧
        replay.events = calls.filterMap LogCall.event? ∧
        replay.footer = some ⟨.str endStamp, (calls.filterMap LogCall.pulse?).length⟩ ∧
        replay.trackers = ((calls.filterMap LogCall.pulse?).map (·.tracker)).eraseDups ∧
        ∃ stats, validateLog (room + 1) s.2 path = .ok (.obj [("valid", .bool true),
          ("errors", .arr []), ("warnings", .arr []), ("stats", stats)]) := by
  obtain ⟨hpath, N, s, hrun, ht, hf⟩ := Recorder.record_holds hstart endStamp calls
  have hnorm : Disk.normalize path = path := hpath ▸ Disk.normalize_normalize _
  have hpulses : (calls.filterMap LogCall.pulse?).length < 10 ^ Text.integerDigitLimit :=
    lt_of_le_of_lt (List.length_filterMap_le _ _) hcount
  -- every line written reads back: the header, each call's line and the footer
  have hes : ∀ e ∈ Recorder.entries stamp endStamp calls,
      Json.Readable e ∧ Json.depth e ≤ room - 2 := by
    intro e he
    simp only [Recorder.entries, List.mem_cons, List.mem_append, List.mem_map, List.not_mem_nil,
      or_false] at he
    rcases he with (rfl | ⟨c, hc, rfl⟩) | rfl
    · refine ⟨?_, ?_⟩
      · simp [Recorder.headerEntry, Json.Readable, Json.ReadableFields, hstamp]
        decide
      · simp [Recorder.headerEntry, Json.depth, Json.depthFields]
        omega
    · exact (hcalls c hc).readable hroom
    · refine ⟨?_, ?_⟩
      · simp [Recorder.footerEntry, Json.Readable, Json.ReadableFields, hend, hpulses]
        decide
      · simp [Recorder.footerEntry, Json.depth, Json.depthFields]
        omega
  have hload := PulseReplay.load_of_entries hnorm ht hf hes
  rw [Recorder.entries, List.foldlM_append, List.foldlM_cons, PulseReplay.add_headerEntry] at hload
  dsimp only [bind, Except.bind] at hload
  rw [PulseReplay.foldlM_add_entries] at hload
  dsimp only [bind, Except.bind] at hload
  rw [List.foldlM_cons, PulseReplay.add_footerEntry] at hload
  refine ⟨s, hrun, _, hload, rfl, by simp, by simp, rfl, PulseReplay.trackers_eq _, ?_⟩
  unfold validateLog
  rw [Nat.add_sub_cancel, hload]
  simp

theorem floatReadsBack_half : Json.FloatReadsBack 0.5 := by
  have hscan : (Json.scanValue 0 1 ⟨(Decimal.floatText 0.5).toList, 0⟩).toOption.map
      (fun r => (Json.typeName r.1, (Json.toFloat r.1).toOption.map (·.toModel.toBits), r.2.rest)) =
      some ("float", some (0.5 : Float).toModel.toBits, []) := by
    decide +kernel
  cases hs : Json.scanValue 0 1 ⟨(Decimal.floatText 0.5).toList, 0⟩ with
  | error e => simp [hs, Except.toOption] at hscan
  | ok r =>
    obtain ⟨j, rest, q⟩ := r
    cases j with
    | float y =>
      simp only [hs, Except.toOption, Option.map_some, Json.typeName, Json.toFloat,
        Option.some.injEq, Prod.mk.injEq, true_and] at hscan
      obtain ⟨hbits, rfl⟩ := hscan
      exact ⟨q, by rw [hs, Binary64.float_eq_of_toBits hbits]⟩
    | _ => simp [hs, Except.toOption, Json.typeName] at hscan

/-- A log of one pulse of tracker `T` and one trigger event, recorded in the directory `logs`,
replays with that pulse and that tracker. -/
theorem pulse_and_event_log_replays :
    ∃ s replay, (Recorder.record "rec" "t0" "t1"
        [.pulse 0.5 "T" 1 2 3, .event 0.5 "trigger" (.obj [])]).runFrom
        (⟨"logs", none, false, 0, 0⟩, ⟨[], ["logs"]⟩) = (.ok "logs/rec.jsonl", s) ∧
      PulseReplay.load 10 s.2 "logs/rec.jsonl" = .ok replay ∧
      replay.pulses = [⟨0.5, "T", 1, 2, 3⟩] ∧ replay.trackers = ["T"] := by
  have hopen : ((Recorder.start "rec" "t0").runFrom
      (⟨"logs", none, false, 0, 0⟩, ⟨[], ["logs"]⟩)).1.toOption = some "logs/rec.jsonl" := by
    decide +kernel
  rcases hres : (Recorder.start "rec" "t0").runFrom (⟨"logs", none, false, 0, 0⟩, ⟨[], ["logs"]⟩)
    with ⟨_ | p, s₁⟩
  · rw [hres] at hopen
    cases hopen
  rw [hres] at hopen
  cases Option.some.inj hopen
  have hdigits : ∀ n < 10, n < 10 ^ Text.integerDigitLimit := fun n hn =>
    lt_of_lt_of_le hn (Nat.le_self_pow (by decide) 10)
  obtain ⟨s, hrun, replay, hload, -, hpulses, -, -, htrackers, -⟩ :=
    record_replays hres "t1" [.pulse 0.5 "T" 1 2 3, .event 0.5 "trigger" (.obj [])]
      (by decide : 3 ≤ 10) (by decide) (by decide) (by
        intro c hc
        simp only [List.mem_cons, List.not_mem_nil, or_false] at hc
        rcases hc with rfl | rfl
        · exact ⟨floatReadsBack_half, by decide, hdigits 1 (by decide), hdigits 2 (by decide),
            hdigits 3 (by decide)⟩
        · exact ⟨floatReadsBack_half, by decide, ⟨List.nodup_nil, trivial⟩, by decide⟩)
      (hdigits 2 (by decide))
  exact ⟨s, replay, hrun, hload, by rw [hpulses]; rfl, by rw [htrackers]; rfl⟩

end Lighthouse
