import Lighthouse.Fault
import Lighthouse.Text.Quoted
/-!
# A working directory

Configuration, calibration and log files live in a working directory, modelled as the texts
of its files and the directories made in it, each under its canonical path: the names from the
working directory down, joined by `/`.

A path given to an operation is walked as the operating system walks it. Empty and `.` parts
stay where the walk is, `..` goes up, and every part after the first needs a directory before
it, so that a file there fails the walk with "Not a directory" and a missing entry with "No such
file or directory". A path ending in `/` must name a directory. Reading a directory, or writing
over one, fails with "Is a directory". Messages show the path as it was given. Writing creates or
replaces a file, and text read back has its line ends unified (`\r\n` and `\r` become `\n`).

A path object shows a path without its empty and `.` parts (`normalize`), and the programs
name files through such objects where they do.
-/
namespace Lighthouse

/-- Files and directories under canonical paths. -/
structure Disk where
  files : List (String × String) := []
  dirs : List String := []
  deriving Inhabited

namespace Disk

/-- The operating system's text of an error of a kind. -/
def errorText : FaultKind → String
  | .fileNotFound => "[Errno 2] No such file or directory"
  | .notADirectory => "[Errno 20] Not a directory"
  | .isADirectory => "[Errno 21] Is a directory"
  | .fileExists => "[Errno 17] File exists"
  | _ => "[Errno 5] Input/output error"

/-- The fault of an operating-system error about a path. -/
def osFault (kind : FaultKind) (path : String) : Fault :=
  ⟨kind, errorText kind ++ ": " ++ Text.quoted path⟩

def missing (path : String) : Fault := osFault .fileNotFound path

/-- The fault of a path that needs a directory where a file is. -/
def notDirectory (path : String) : Fault := osFault .notADirectory path

/-- The fault of a path that names a directory where a file is needed. -/
def isDirectory (path : String) : Fault := osFault .isADirectory path

/-- The fault of a directory that cannot be made because something is in its place. -/
def existing (path : String) : Fault := osFault .fileExists path

/-- The parts of a path between its slashes: `a//b/` has the parts `a`, ``, `b` and ``. -/
def parts (path : String) : List String := (path.toList.splitOn '/').map String.ofList

/-- The directories that contain a canonical path, outermost first. -/
def parents (path : String) : List String :=
  let ps := parts path
  (List.range (ps.length - 1)).map fun i => "/".intercalate (ps.take (i + 1))

/-- The text a path object shows for a path: empty and `.` parts dropped, `.` when none is
left. -/
def normalize (path : String) : String :=
  let names := (parts path).filter fun p => p != "" && p != "."
  let body := "/".intercalate names
  if path.toList.head? = some '/' then "/" ++ body else if body.isEmpty then "." else body

/-- The last part of a normalized path, empty for `.`. -/
def baseName (path : String) : String :=
  let n := normalize path
  if n == "." then "" else ((parts n).getLast?.getD "")

/-- What stands at a canonical path. -/
inductive Entry where
  | file (text : String)
  | directory
  | absent

/-- Whether a canonical path is a directory that was made or holds a file. -/
def isDir (d : Disk) (key : String) : Bool :=
  d.dirs.contains key || d.files.any fun f => (parents f.1).contains key

def isFile (d : Disk) (key : String) : Bool := d.files.any (·.1 == key)

/-- What stands at the canonical path of a list of names. The working directory and the
directories above it are directories; above it, nothing but what was stored there is known. -/
def entry (d : Disk) (names : List String) : Entry :=
  if names.all (· == "..") then .directory
  else
    let key := "/".intercalate names
    match d.files.find? (·.1 == key) with
    | some f => .file f.2
    | none => if d.isDir key then .directory else .absent

/-- The parts of a path walked from the names reached so far: each part needs a directory
where the walk stands. Gives the names of what the path reaches. -/
def walk (d : Disk) (shown : String) : List String → List String → Outcome (List String)
  | [], names => .ok names
  | part :: rest, names =>
    match d.entry names with
    | .file _ => .error (notDirectory shown)
    | .absent => .error (missing shown)
    | .directory =>
      if part == "" || part == "." then d.walk shown rest names
      else if part == ".." then
        d.walk shown rest (if names.isEmpty || names.getLast? == some ".." then names ++ [".."]
          else names.dropLast)
      else d.walk shown rest (names ++ [part])

/-- The names of what a path reaches, walked from the working directory. -/
def locate (d : Disk) (path : String) : Outcome (List String) :=
  if path.isEmpty then .error (missing path) else d.walk path (parts path) []

def canonical (path : String) : String :=
  "/".intercalate ((parts path).foldl (fun (names : List String) part =>
    if part == "" || part == "." then names
    else if part == ".." then (if names.isEmpty then names else names.dropLast)
    else names ++ [part]) [])

def reaches (d : Disk) (path : String) : Bool :=
  match d.locate path with
  | .ok names => match d.entry names with
    | .absent => false
    | _ => true
  | .error _ => false

def readRaw (d : Disk) (path : String) : Outcome String := do
  match d.entry (← d.locate path) with
  | .file text => pure text
  | .directory => .error (isDirectory path)
  | .absent => .error (missing path)

/-- Line ends unified to `\n`. -/
def unifyLineEnds : List Char → List Char
  | '\r' :: '\n' :: r => '\n' :: unifyLineEnds r
  | '\r' :: r => '\n' :: unifyLineEnds r
  | c :: r => c :: unifyLineEnds r
  | [] => []

def read (d : Disk) (path : String) : Outcome String :=
  (d.readRaw path).map fun s => String.ofList (unifyLineEnds s.toList)

/-- The names of the file a path would create or replace: its directory must be reachable and
be a directory, and its last part must be a name. -/
def target (d : Disk) (path : String) : Outcome (List String) := do
  if path.isEmpty then .error (missing path)
  let ps := parts path
  let last := ps.getLast?.getD ""
  let holder ← d.walk path ps.dropLast []
  let dotted := last == "" || last == "." || last == ".."
  match d.entry holder with
  | .file _ => .error (notDirectory path)
  | .absent => .error (if dotted then isDirectory path else missing path)
  | .directory =>
    if dotted then .error (isDirectory path)
    else
      match d.entry (holder ++ [last]) with
      | .directory => .error (isDirectory path)
      | _ => pure (holder ++ [last])

/-- The disk with a file stored under canonical names, replacing any earlier text. -/
def put (d : Disk) (names : List String) (text : String) : Disk :=
  let key := "/".intercalate names
  { d with files := (d.files.filter (·.1 != key)) ++ [(key, text)] }

def write (d : Disk) (path text : String) : Outcome Disk := do
  pure (d.put (← d.target path) text)

def append (d : Disk) (path text : String) : Outcome Disk := do
  let names ← d.target path
  match d.entry names with
  | .file old => pure (d.put names (old ++ text))
  | _ => pure (d.put names text)

/-- Makes one directory; its parent must be a directory. -/
def makeDir (d : Disk) (path : String) : Outcome Disk := do
  let names ← d.target path
  match d.entry names with
  | .absent => pure { d with dirs := d.dirs ++ ["/".intercalate names] }
  | _ => .error (existing path)

def reachesDir (d : Disk) (path : String) : Bool :=
  match d.locate path with
  | .ok names => match d.entry names with
    | .directory => true
    | _ => false
  | .error _ => false

/-- The parent a path object gives a normalized relative path: `.` for a single name. -/
def parentOf (path : String) : String :=
  let ps := parts path
  if ps.length ≤ 1 then "." else "/".intercalate ps.dropLast

/-- A directory made with the missing directories above it, at most `fuel` levels up: a
directory that cannot be made for want of its parent is made after the parent; any other
failure is fine when a directory is there. -/
def makeDirsUp (d : Disk) : Nat → String → Outcome Disk
  | 0, path => .error (missing path)
  | fuel + 1, path =>
    match d.makeDir path with
    | .ok d => .ok d
    | .error f =>
      if f.kind == .fileNotFound then
        let parent := parentOf path
        if parent == path then .error f
        else do
          let d ← d.makeDirsUp fuel parent
          match d.makeDir path with
          | .ok d => .ok d
          | .error f => if d.reachesDir path then .ok d else .error f
      else if d.reachesDir path then .ok d else .error f

/-- Makes a directory and the missing directories above it; a directory already there is
fine, a file in the way is not. The path is taken as a path object shows it. -/
def makeDirs (d : Disk) (path : String) : Outcome Disk :=
  let path := normalize path
  d.makeDirsUp ((parts path).length + 1) path

/-- Moves a file to another path, replacing what was there; a failure shows both paths. -/
def rename (d : Disk) (src dst : String) : Outcome Disk :=
  let both := fun (f : Fault) =>
    Fault.mk f.kind (errorText f.kind ++ ": " ++ Text.quoted src ++ " -> " ++ Text.quoted dst)
  match d.locate src, d.readRaw src with
  | .ok from_, .ok text =>
    match d.target dst with
    | .error f => .error (both f)
    | .ok names =>
      let key := "/".intercalate from_
      .ok ({ d with files := d.files.filter (·.1 != key) }.put names text)
  | .error f, _ => .error (both f)
  | _, .error f => .error (both f)

def has (d : Disk) (key : String) : Bool := d.isFile key || d.isDir key

end Disk

end Lighthouse
