/-!
# The journal

What the program reports as it works, beside its results: each entry has a severity, the part
of the program it comes from, and a message. A journal is shown from a least severity on: the
entries below it are left out, and every other one is written as one line,
`time SEVERITY source: message`. A message that holds line breaks runs over several lines.
-/
namespace Lighthouse

/-- How much a journal entry matters, from least to most. -/
inductive Severity where
  | debug
  | info
  | warning
  deriving DecidableEq, Repr

namespace Severity

def rank : Severity → Nat
  | .debug => 0
  | .info => 1
  | .warning => 2

def name : Severity → String
  | .debug => "DEBUG"
  | .info => "INFO"
  | .warning => "WARNING"

end Severity

/-- One entry of a journal. -/
structure JournalEntry where
  severity : Severity
  source : String
  message : String

/-- Entries in the order they were made. -/
abbrev Journal := List JournalEntry

namespace Journal

/-- The parts of the program that write to the journal. -/
def sessionSource : String := "sweepcal.session"

/-- The pose estimation part. -/
def poseSource : String := "sweepcal.pose"

/-- The lighthouse registration part. -/
def registrationSource : String := "sweepcal.transforms"

/-- The calibration file part. -/
def calibrationSource : String := "sweepcal.calibration"

/-- The tracker device part. -/
def trackerSource : String := "sweepcal.tracker"

/-- An entry of severity `info`. -/
def info (source message : String) : JournalEntry := ⟨.info, source, message⟩

/-- The entries shown from severity `least` on, each written as a line stamped `time`. -/
def render (time : String) (least : Severity) (j : Journal) : String :=
  String.join ((j.filter fun e => least.rank ≤ e.severity.rank).map fun e =>
    time ++ " " ++ e.severity.name ++ " " ++ e.source ++ ": " ++ e.message ++ "\n")

theorem render_append (time : String) (least : Severity) (a b : Journal) :
    render time least (a ++ b) = render time least a ++ render time least b := by
  simp [render, List.filter_append, String.join_append]

end Journal

end Lighthouse
