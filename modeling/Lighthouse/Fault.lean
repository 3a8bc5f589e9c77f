/-!
# Faults

Every failing operation of the library ends in a `Fault`: the kind of failure and its message.
Modules with failures of their own keep them as causes (`Calibration.EncodeError`, …) and turn
them into faults where they meet the rest of the library.
-/
namespace Lighthouse

/-- The kinds of failure that callers tell apart. -/
inductive FaultKind where
  /-- A value of the right type but out of its domain. -/
  | value
  /-- A missing key; the message is the quoted key. -/
  | key
  /-- A position outside a sequence. -/
  | index
  /-- A value of the wrong type. -/
  | type
  /-- A number too large for its target. -/
  | overflow
  /-- A division by zero. -/
  | zeroDivision
  /-- A member asked of a value that has none. -/
  | attribute
  /-- A file that does not exist. -/
  | fileNotFound
  /-- A text that is no JSON document. -/
  | decode
  /-- A configuration that cannot be used. -/
  | config
  /-- A calibration file that cannot be read. -/
  | calibrationFile
  /-- An operation asked in the wrong state. -/
  | runtime
  /-- A path that needs a directory where a file is. -/
  | notADirectory
  /-- A path that names a directory where a file is needed. -/
  | isADirectory
  /-- A directory to make where something already is. -/
  | fileExists
  /-- An array operation over element types it has no loop for. -/
  | ufuncType
  /-- Nesting deeper than the interpreter's recursion allows. -/
  | recursion
  deriving DecidableEq, Repr, Inhabited

/-- Whether a kind is an operating-system error. -/
def FaultKind.isOs : FaultKind → Bool
  | .fileNotFound | .notADirectory | .isADirectory | .fileExists => true
  | _ => false

/-- A failure: its kind and message. -/
structure Fault where
  kind : FaultKind
  message : String
  deriving Inhabited

/-- The result of an operation that may fail. -/
abbrev Outcome (α : Type) := Except Fault α

theorem Outcome.bind_eq_ok {α β : Type} {x : Outcome α} {f : α → Outcome β} {b : β}
    (h : x >>= f = .ok b) : ∃ a, x = .ok a ∧ f a = .ok b := by
  cases x with
  | error e => cases h
  | ok a => exact ⟨a, rfl, h⟩

/-- An outcome seen through `toOption` and a map is a success whose image is what was seen. -/
theorem Outcome.ok_of_toOption_map {α β : Type} {x : Outcome α} {f : α → β} {b : β}
    (h : x.toOption.map f = some b) : ∃ a, x = .ok a ∧ f a = b := by
  cases x with
  | error e => cases h
  | ok a => exact ⟨a, rfl, Option.some.inj h⟩

theorem Outcome.ok_of_isOk {α : Type} {x : Outcome α} (h : x.isOk = true) : ∃ a, x = .ok a := by
  cases x with
  | error e => cases h
  | ok a => exact ⟨a, rfl⟩

theorem Outcome.foldlM_invariant {α β : Type} (P : β → Prop) {f : β → α → Outcome β}
    (hf : ∀ b a b', P b → f b a = .ok b' → P b') :
    ∀ {xs : List α} {b b' : β}, P b → xs.foldlM f b = .ok b' → P b'
  | [], _, _, hb, h => by
    cases h
    exact hb
  | x :: xs, b, _, hb, h => by
    rw [List.foldlM_cons] at h
    obtain ⟨c, hc, h⟩ := bind_eq_ok h
    exact foldlM_invariant P hf (hf b x c hb hc) h

/-- An operation on a state that may fail. When it fails, the changes it made before the
failure stay: a caller sees the state it reached. -/
abbrev Effect (σ α : Type) := ExceptT Fault (StateM σ) α

/-- A result taken into an operation on a state: a failure fails the operation and leaves the
state as it is. -/
def Effect.ofOutcome {σ α : Type} : Outcome α → Effect σ α
  | .ok a => pure a
  | .error f => throw f

/-- An operation run from a state: its result and the state it reached. -/
def Effect.runFrom {σ α : Type} (e : Effect σ α) (s : σ) : Outcome α × σ :=
  (e.run.run s)

namespace Fault

def value (msg : String) : Fault := ⟨.value, msg⟩

def type (msg : String) : Fault := ⟨.type, msg⟩

def index (msg : String) : Fault := ⟨.index, msg⟩

def overflow (msg : String) : Fault := ⟨.overflow, msg⟩

end Fault

end Lighthouse
