import Lighthouse.Cli.Arguments
import Lighthouse.Cli.Commands
/-!
# The command line

The program's arguments: an optional `-v` for verbose logging, then one of the commands with its
own arguments. `runProgram` parses them and runs the command on a working directory. Help goes
to standard output with status 0; a parse error writes the usage line and the message to
standard error with status 2. The journal of a replay is shown from `info` on, or from `debug` on
when verbose, each line stamped with the run's time.
-/
namespace Lighthouse.Cli

/-- The name the program goes by in its messages. -/
def programName : String := "sweepcal"

/-- The help switch of every parser. -/
def helpArg : Arg := { strings := ["-h", "--help"], dest := "help", kind := .help }

def logArg : Arg :=
  { dest := "log", kind := .text, required := true, help := some "Pulse log (JSONL)" }

/-- The arguments of `replay`. -/
def replayParser : Parser :=
  { prog := programName ++ " replay"
    args := [helpArg, logArg,
      { strings := ["--config"], dest := "config", kind := .text, required := true
        help := some "Session configuration (JSON)" },
      { strings := ["--calfile"], dest := "calfile", kind := .text
        help := some "Override calibration output path" }] }

/-- The arguments of `validate`. -/
def validateParser : Parser := { prog := programName ++ " validate", args := [helpArg, logArg] }

/-- The arguments of `simulate`. -/
def simulateParser : Parser :=
  { prog := programName ++ " simulate"
    args := [helpArg,
      { strings := ["--out-dir"], dest := "out_dir", kind := .text, required := true
        help := some "Output directory" },
      { strings := ["--poses"], dest := "poses", kind := .int, default := .int 8
        help := some "Number of tracker poses" },
      { strings := ["--seed"], dest := "seed", kind := .int, default := .int 0
        help := some "RNG seed" }] }

def commands : List (String × String × Parser) :=
  [("replay", "Replay a pulse log through a session and solve", replayParser),
   ("validate", "Check a pulse log for integrity", validateParser),
   ("simulate", "Write a synthetic pulse log and matching config", simulateParser)]

/-- The program's own arguments. -/
def mainParser : Parser :=
  { prog := programName
    args := [helpArg,
      { strings := ["-v", "--verbose"], dest := "verbose", kind := .flag, default := .bool false
        help := some "Verbose logging" },
      { dest := "command", kind := .command (commands.map fun (n, h, _) => (n, h))
        required := true }] }

/-- A command's arguments parsed, keeping the words it does not take. -/
def parseCommand : SubParse := fun name words =>
  match commands.find? (·.1 == name) with
  | some (_, _, p) => p.parseKnown noCommands words
  | none => .ok ([], words)

/-- A text value, empty when absent. -/
def textOf (v : ArgValue) : String :=
  match v with
  | .text s => s
  | _ => ""

/-- An integer value, zero when absent. -/
def intOf (v : ArgValue) : Int :=
  match v with
  | .int n => n
  | _ => 0

/-- The time of a journal line for a run at `stamp`: the date and the time of day to the
millisecond. -/
def journalTime (stamp : String) : String :=
  String.map (fun c => if c = 'T' then ' ' else c) stamp ++ ",000"

/-- The program run with some arguments on a working directory, called with nesting room `room`
(the program and its command take one level each); `stamp` is the time of the run, written into
new logs and journal lines. -/
def runProgram (room : Nat) (disk : Disk) (stamp : String) (argv : List String) : Run :=
  match mainParser.parse parseCommand argv with
  | .error (.help text) => { status := 0, out := text, disk }
  | .error (.error usage msg) => { status := 2, err := usage ++ msg ++ "\n", disk }
  | .ok vals =>
    let least : Severity := if vals.get "verbose" == .bool true then .debug else .info
    match textOf (vals.get "command") with
    | "replay" =>
      let calfile := match vals.get "calfile" with
        | .text c => some c
        | _ => none
      replayCommand (room - 2) (Journal.render (journalTime stamp) least) disk
        (textOf (vals.get "log")) (textOf (vals.get "config")) calfile
    | "validate" => validateCommand (room - 2) disk (textOf (vals.get "log"))
    | _ =>
      simulateCommand disk stamp (textOf (vals.get "out_dir")) (intOf (vals.get "poses"))
        (intOf (vals.get "seed"))

end Lighthouse.Cli
