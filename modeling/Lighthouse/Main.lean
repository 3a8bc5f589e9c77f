import Lighthouse.Cli.Program
/-!
# The executable

The executable reads the files its arguments may name from the working directory (every
argument, the value of every `--name=value`, and the calibration file a configuration among them
names), runs the command on them, prints what it printed, writes back every file it created or
changed, and exits with the command's status. New logs are stamped with a fixed capture time.
-/
open Lighthouse Lighthouse.Cli

/-- The nesting room the executable leaves to the program. -/
def programRoom : Nat := 997

/-- The text of a file, or none when it cannot be read. -/
def readIfPresent (path : String) : IO (Option String) := do
  try
    pure (some (← IO.FS.readFile path))
  catch _ =>
    pure none

/-- The calibration file a configuration text names, if it is a JSON object naming one. -/
def namedCalfile (text : String) : Option String :=
  match Json.parse programRoom text with
  | .ok (.obj fs) =>
    match fs.find? (·.1 == "calfile") with
    | some (_, .str c) => some c
    | _ => none
  | _ => none

/-- The files the arguments may name, with their texts. -/
def gatherFiles (args : List String) : IO (List (String × String)) := do
  let words := (args ++ args.filterMap fun a => (splitAtEquals a).map (·.2)).eraseDups
  let mut files : List (String × String) := []
  for w in words do
    if let some t ← readIfPresent w then
      files := files ++ [(w, t)]
  let named := (files.filterMap fun f => namedCalfile f.2).eraseDups
  for c in named do
    if !files.any (·.1 == c) then
      if let some t ← readIfPresent c then
        files := files ++ [(c, t)]
  pure files

/-- Runs the program on the working directory. -/
def main (args : List String) : IO UInt32 := do
  let files ← gatherFiles args
  let r := runProgram programRoom { files } "1970-01-01T00:00:00" args
  IO.print r.out
  IO.eprint r.err
  for d in r.disk.dirs do
    IO.FS.createDirAll d
  for (path, text) in r.disk.files do
    if !files.contains (path, text) then
      if let some dir := (Disk.parents path).getLast? then
        IO.FS.createDirAll dir
      IO.FS.writeFile path text
  pure r.status.toUInt32
