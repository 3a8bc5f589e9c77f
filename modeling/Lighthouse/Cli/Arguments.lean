import Lighthouse.Text.Quoted
import Lighthouse.Text.Blank
import Lighthouse.Text.Numeral
/-!
# Command-line arguments

A parser is a program name and a list of declared arguments: options, named by option strings
such as `-v` and `--verbose`, and positionals, named by their destination. An option is a help
switch, a flag, or takes one text or integer value; a positional takes one text, or names a
subcommand whose own parser takes every argument after it.

Parsing first classifies every word (an option string, `--name=value`, a unique prefix of a long
option, attached short options, or a value), then consumes the words from the left, values going
to the positionals in order. The help switch stops with the help text, an error with the usage
line and a message, and at the end every required argument must have been seen.
-/
namespace Lighthouse.Cli

/-- The value an argument leaves in the parsed result. -/
inductive ArgValue where
  | none
  | bool (b : Bool)
  | text (s : String)
  | int (n : Int)
  deriving Inhabited, BEq, Repr

/-- How an argument is given. -/
inductive ArgKind where
  /-- Prints the help and stops. -/
  | help
  /-- Sets its destination to true. -/
  | flag
  /-- Takes one text. -/
  | text
  /-- Takes one integer. -/
  | int
  /-- Names one of the subcommands, each with its help line. -/
  | command (choices : List (String × String))

/-- A declared argument: option strings (none for a positional), destination, kind, whether it
must be given, its help line and its value when absent. -/
structure Arg where
  strings : List String := []
  dest : String
  kind : ArgKind
  required : Bool := false
  help : Option String := none
  default : ArgValue := .none

/-- A parser: the program name shown in messages and the arguments in declaration order. -/
structure Parser where
  prog : String
  args : List Arg

/-- How parsing stops early: with the help text, or with a usage line and an error message. -/
inductive Stop where
  | help (text : String)
  | error (usage message : String)

abbrev Parsed := List (String × ArgValue)

/-- The value of a destination, none when absent. -/
def Parsed.get (p : Parsed) (dest : String) : ArgValue :=
  ((p.find? (·.1 == dest)).map Prod.snd).getD .none

namespace Arg

def isOption (a : Arg) : Bool := !a.strings.isEmpty

def arity (a : Arg) : Nat :=
  match a.kind with
  | .help | .flag => 0
  | _ => 1

/-- The placeholder of an option's value: its destination in capitals. -/
def metavar (a : Arg) : String := a.dest.toUpper

/-- The placeholder of a positional: the subcommand names in braces, or its destination. -/
def positionalName (a : Arg) : String :=
  match a.kind with
  | .command cs => "\x7b" ++ ",".intercalate (cs.map (·.1)) ++ "\x7d"
  | _ => a.dest

/-- The name of an argument in error messages. -/
def name (a : Arg) : String := if a.isOption then "/".intercalate a.strings else a.dest

/-- How the argument is written in the usage line. -/
def usagePart (a : Arg) : String :=
  match a.kind, a.isOption with
  | .command _, _ => a.positionalName ++ " ..."
  | _, false => a.positionalName
  | _, true =>
    let first := a.strings.headD ""
    let body := if a.arity = 0 then first else first ++ " " ++ a.metavar
    if a.required then body else "[" ++ body ++ "]"

def invocation (a : Arg) : String :=
  if !a.isOption then a.positionalName
  else if a.arity = 0 then ", ".intercalate a.strings
  else ", ".intercalate (a.strings.map (· ++ " " ++ a.metavar))

end Arg

/-- The help line of the help switch. -/
def helpLine : String := "show this help message and exit"

/-- The width of help text. -/
def helpWidth : Nat := 78

/-- The furthest column at which help lines start. -/
def maxHelpColumn : Nat := 24

namespace Parser

def usageBody (p : Parser) : String :=
  let opts := p.args.filter (·.isOption)
  let pos := p.args.filter (!·.isOption)
  " ".intercalate (p.prog :: (opts ++ pos).map Arg.usagePart)

/-- The usage line as printed. -/
def usage (p : Parser) : String := "usage: " ++ p.usageBody ++ "\n"

def spaces (n : Nat) : String := String.ofList (List.replicate n ' ')

/-- One help entry: the invocation indented, then the help in its column, or on its own line
when the invocation reaches the column. -/
def entry (column indent : Nat) (inv : String) (help : Option String) : String :=
  match help with
  | none => spaces indent ++ inv ++ "\n"
  | some h =>
    let width := column - indent - 2
    if inv.length ≤ width then spaces indent ++ inv ++ spaces (width - inv.length + 2) ++ h ++ "\n"
    else spaces indent ++ inv ++ "\n" ++ spaces column ++ h ++ "\n"

/-- The help lines of an argument, its subcommands indented below it. -/
def argLines (column : Nat) (a : Arg) : String :=
  let help := match a.kind with
    | .help => some helpLine
    | _ => a.help
  let subs := match a.kind with
    | .command cs => String.join (cs.map fun (n, h) => entry column 4 n (some h))
    | _ => ""
  entry column 2 a.invocation help ++ subs

/-- The help text: usage, then the positionals and the options in two sections. -/
def helpText (p : Parser) : String :=
  let lengths := p.args.flatMap fun a =>
    (a.invocation.length + 2) :: match a.kind with
      | .command cs => cs.map (·.1.length + 2)
      | _ => []
  let column := min (lengths.foldl max 0 + 2) maxHelpColumn
  let pos := p.args.filter (!·.isOption)
  let opts := p.args.filter (·.isOption)
  let part (title : String) (as : List Arg) : List String :=
    if as.isEmpty then [] else [title ++ ":\n" ++ String.join (as.map (argLines column))]
  "\n".intercalate (p.usage :: part "positional arguments" pos ++ part "options" opts)

def fail (p : Parser) (msg : String) : Stop := .error p.usage (p.prog ++ ": error: " ++ msg)

def failOn (p : Parser) (a : Arg) (msg : String) : Stop :=
  p.fail ("argument " ++ a.name ++ ": " ++ msg)

/-- Every option string with its argument, in declaration order. -/
def optionStrings (p : Parser) : List (String × Arg) :=
  p.args.flatMap fun a => a.strings.map fun s => (s, a)

def lookup (p : Parser) (s : String) : Option Arg := ((p.optionStrings.find? (·.1 == s)).map (·.2))

end Parser

/-- A word as the parser sees it: a value, the `--` separator, or an option (unknown when no
argument declares it) with the option string and any attached value. -/
inductive Word where
  | value
  | separator
  | option (arg : Option Arg) (str : String) (attached : Option String)

/-- Whether a word reads as a negative number, `-12` or `-1.5`, with decimal digits of any
script and one line feed allowed at the end. -/
def isNegativeNumber (s : String) : Bool :=
  let cs := s.toList
  let cs := if cs.getLast? == some '\n' then cs.dropLast else cs
  let digit := fun (c : Char) => (Text.digitValue c).isSome
  match cs with
  | '-' :: rest =>
    let (ints, more) := rest.span digit
    match more with
    | [] => !ints.isEmpty
    | '.' :: frac => !frac.isEmpty && frac.all digit
    | _ => false
  | _ => false

/-- The text before the first `=` and the text after it. -/
def splitAtEquals (s : String) : Option (String × String) :=
  let cs := s.toList
  match cs.findIdx? (· = '=') with
  | some i => some (String.ofList (cs.take i), String.ofList (cs.drop (i + 1)))
  | none => none

namespace Parser

/-- The options a word may abbreviate: for `--x`, the long options it is a prefix of; for
`-x…`, the short option `-x` with the rest attached, and the options starting with the word. -/
def prefixMatches (p : Parser) (s : String) : List (Arg × String × Option String) :=
  if s.startsWith "--" then
    let (pre, att) := match splitAtEquals s with
      | some (o, v) => (o, some v)
      | none => (s, none)
    (p.optionStrings.filter (·.1.startsWith pre)).map fun (o, a) => (a, o, att)
  else
    let short := String.ofList (s.toList.take 2)
    let rest := String.ofList (s.toList.drop 2)
    p.optionStrings.filterMap fun (o, a) =>
      if o == short then some (a, o, some rest)
      else if o.startsWith s then some (a, o, none)
      else none

/-- How the parser reads one word (outside the part after `--`). -/
def classify (p : Parser) (s : String) : Except Stop Word :=
  if s.isEmpty || s.front != '-' then .ok .value
  else match p.lookup s with
  | some a => .ok (.option (some a) s none)
  | none =>
    if s.length = 1 then .ok .value
    else
      let exact := match splitAtEquals s with
        | some (o, v) => (p.lookup o).map fun a => Word.option (some a) o (some v)
        | none => none
      match exact with
      | some w => .ok w
      | none =>
        match p.prefixMatches s with
        | [(a, o, att)] => .ok (.option (some a) o att)
        | _ :: _ :: _ =>
          .error (p.fail ("ambiguous option: " ++ s ++ " could match " ++
            ", ".intercalate ((p.prefixMatches s).map (·.2.1))))
        | [] =>
          if isNegativeNumber s || s.contains ' ' then .ok .value
          else .ok (.option none s none)

/-- How the parser reads every word: all of them after a `--` are values. -/
def classifyAll (p : Parser) : List String → Except Stop (List Word)
  | [] => .ok []
  | s :: rest =>
    if s == "--" then .ok (.separator :: rest.map fun _ => .value)
    else do
      let w ← p.classify s
      pure (w :: (← p.classifyAll rest))

end Parser

/-- An integer read as a decimal literal (`Text.readInteger`). -/
def readInt (s : String) : Option Int := Text.readIntegerValue s

/-- The work of one parse: values so far, destinations seen, words set aside, positionals not
yet filled, and words set aside by a subcommand. -/
structure ParseState where
  values : Parsed
  seen : List String := []
  extras : List String := []
  positionals : List Arg
  unknown : List String := []

/-- The parse of a subcommand's words: its values and the words it set aside. -/
abbrev SubParse := String → List String → Except Stop (Parsed × List String)

namespace ParseState

/-- A value stored under a destination, replacing an earlier one. -/
def store (st : ParseState) (dest : String) (v : ArgValue) : ParseState :=
  { st with values := (st.values.filter (·.1 != dest)) ++ [(dest, v)] }

end ParseState

/-- An argument applied to the words it took. -/
def takeAction (p : Parser) (sub : SubParse) (st : ParseState) (a : Arg) (ws : List String) :
    Except Stop ParseState := do
  let st := { st with seen := st.seen ++ [a.dest] }
  let ws := match a.kind with
    | .command _ => ws
    | _ => ws.erase "--"
  match a.kind with
  | .help => .error (.help p.helpText)
  | .flag => pure (st.store a.dest (.bool true))
  | .text => pure (st.store a.dest (.text (ws.headD "")))
  | .int =>
    let w := ws.headD ""
    match readInt w with
    | some n => pure (st.store a.dest (.int n))
    | none => .error (p.failOn a ("invalid int value: " ++ Text.quoted w))
  | .command cs =>
    let name := ws.headD ""
    if !cs.any (·.1 == name) then
      .error (p.failOn a ("invalid choice: " ++ Text.quoted name ++ " (choose from " ++
        ", ".intercalate (cs.map fun c => Text.quoted c.1) ++ ")"))
    else
      let (vals, rest) ← sub name (ws.drop 1)
      let st := st.store a.dest (.text name)
      let st := vals.foldl (fun st (k, v) => st.store k v) st
      pure { st with unknown := st.unknown ++ rest }

/-- How many words from a position a positional takes: leading separators, one value, then
trailing separators, or everything for a subcommand. -/
def positionalSpan (words : List Word) (a : Arg) (i : Nat) : Option Nat :=
  let rest := words.drop i
  let lead := (rest.takeWhile fun w => w matches .separator).length
  match rest.drop lead with
  | .value :: more =>
    match a.kind with
    | .command _ => some (rest.length)
    | _ => some (lead + 1 + (more.takeWhile fun w => w matches .separator).length)
  | _ => none

/-- The positionals filled from a position, in order while they match: the state and the
position after them. -/
def consumePositionals (p : Parser) (sub : SubParse) (raw : List String) (words : List Word)
    (st : ParseState) (i : Nat) : Except Stop (ParseState × Nat) :=
  let rec go (st : ParseState) (i : Nat) : List Arg → Except Stop (ParseState × Nat)
    | [] => .ok ({ st with positionals := [] }, i)
    | a :: more =>
      match positionalSpan words a i with
      | none => .ok ({ st with positionals := a :: more }, i)
      | some n => do
        let st ← takeAction p sub st a ((raw.drop i).take n)
        go st (i + n) more
  go st i st.positionals

/-- The option at a position applied, with short flags run together taken one by one: the
state and the position after the option and its value. -/
def consumeOption (p : Parser) (sub : SubParse) (raw : List String) (words : List Word)
    (st : ParseState) (i : Nat) : Except Stop (ParseState × Nat) :=
  match words[i]? with
  | some (.option none _ _) => .ok ({ st with extras := st.extras ++ (raw.drop i).take 1 }, i + 1)
  | some (.option (some a) str att) =>
    let rec collect (a : Arg) (str : String) (att : Option String) (acc : List (Arg × List String)) :
        Nat → Except Stop (List (Arg × List String) × Nat)
      | 0 => .ok (acc, i + 1)
      | fuel + 1 =>
        match att with
        | some v =>
          if a.arity = 0 && str.toList.getD 1 '-' != '-' && !v.isEmpty then
            let next := "-" ++ String.singleton v.front
            let tail := String.ofList (v.toList.drop 1)
            match p.lookup next with
            | some b => collect b next (if tail.isEmpty then none else some tail) (acc ++ [(a, [])]) fuel
            | none => .error (p.failOn a ("ignored explicit argument " ++ Text.quoted v))
          else if a.arity = 1 then .ok (acc ++ [(a, [v])], i + 1)
          else .error (p.failOn a ("ignored explicit argument " ++ Text.quoted v))
        | none =>
          if a.arity = 0 then .ok (acc ++ [(a, [])], i + 1)
          else match words[i + 1]? with
            | some .value => .ok (acc ++ [(a, (raw.drop (i + 1)).take 1)], i + 2)
            | _ => .error (p.failOn a "expected one argument")
    do
      let (acts, stop) ← collect a str att [] (str.length + 1)
      let st ← acts.foldlM (fun st (b, ws) => takeAction p sub st b ws) st
      pure (st, stop)
  | _ => .ok (st, i + 1)

def optionPositions (words : List Word) : List Nat :=
  (words.zipIdx.filter fun (w, _) => w matches .option _ _ _).map (·.2)

/-- The words consumed from a position on, alternating positionals and options, at most `fuel`
steps. -/
def consumeFrom (p : Parser) (sub : SubParse) (raw : List String) (words : List Word) :
    ParseState → Nat → Nat → Except Stop (ParseState × Nat)
  | st, i, 0 => .ok (st, i)
  | st, i, fuel + 1 => do
    let opts := optionPositions words
    match opts.filter (· ≥ i) with
    | [] => .ok (st, i)
    | next :: _ =>
      let (st, j) ← if i != next then consumePositionals p sub raw words st i else pure (st, i)
      if j > i then consumeFrom p sub raw words st j fuel
      else
        let st := if opts.contains j then st
          else { st with extras := st.extras ++ (raw.drop j).take (next - j) }
        let (st, k) ← consumeOption p sub raw words st next
        consumeFrom p sub raw words st k fuel

/-- The values of a parse and the words nobody took, or how it stopped. -/
def Parser.parseKnown (p : Parser) (sub : SubParse) (raw : List String) :
    Except Stop (Parsed × List String) := do
  let words ← p.classifyAll raw
  let st : ParseState :=
    { values := (p.args.filter fun a => !(a.kind matches .help)).map fun a => (a.dest, a.default)
      positionals := p.args.filter (!·.isOption) }
  let (st, i) ← consumeFrom p sub raw words st 0 (2 * raw.length + 2)
  let (st, j) ← consumePositionals p sub raw words st i
  let st := { st with extras := st.extras ++ raw.drop j }
  let missing := p.args.filter fun a => a.required && !st.seen.contains a.dest
  if !missing.isEmpty then
    .error (p.fail ("the following arguments are required: " ++
      ", ".intercalate (missing.map Arg.name)))
  pure (st.values, st.extras ++ st.unknown)

/-- The values of a full parse: words nobody took are an error. -/
def Parser.parse (p : Parser) (sub : SubParse) (raw : List String) : Except Stop Parsed := do
  let (vals, extras) ← p.parseKnown sub raw
  if !extras.isEmpty then .error (p.fail ("unrecognized arguments: " ++ " ".intercalate extras))
  pure vals

def noCommands : SubParse := fun _ _ => .ok ([], [])

end Lighthouse.Cli
