/-
The program on a real disk.

What the program does is computed on a value that stands for the disk. So the files and directories
that its arguments and its configuration speak of are surveyed first, the program is asked what it
makes of them, and the files that it changed are written. Nothing is decided here.
-/
import RecordSchema.CommandLine.Invocation

set_option autoImplicit false

namespace RecordSchema.CommandLine

/-! ## The real disk -/

/-- The system's number for an attempt to read a directory. -/
private def directoryCode : UInt32 := 21

/-- A disk with what is at a path, if anything is. -/
private def surveyOne (disk : Disk) (p : Path) : IO Disk := do
  match ← (IO.FS.readBinFile p.text).toBaseIO with
  | .ok data => return (disk.write p (.ofBytes data.toList)).toOption.getD disk
  | .error (.inappropriateType _ code _) =>
    return if code = directoryCode then (disk.ensureDirectory p).toOption.getD disk else disk
  | .error (.noFileOrDirectory ..) => return disk
  | .error e => throw e

/-- A disk with what is at some paths and at the paths above them. -/
private def survey (disk : Disk) (paths : List Path) : IO Disk :=
  (paths.flatMap fun p => (Disk.chain p (p.text.length + 1)).reverse).foldlM surveyOne disk

/-- Writes a file that has changed, beside its place first. -/
private def save (before after : Disk) (p : Path) : IO Unit := do
  match before.readText p, after.readText p with
  | .ok old, .ok new =>
    if old ≠ new then
      replaceText p new
  | _, .ok new => replaceText p new
  | _, .error _ => return
where
  /-- Puts a text over a file in one step. -/
  replaceText (p : Path) (s : String) : IO Unit := do
    let staged := p.text ++ ".tmp"
    IO.FS.writeFile staged s
    IO.FS.rename staged p.text

/-- The paths that some arguments speak of, apart from the configuration. -/
private def Arguments.paths (a : Arguments) (disk : Disk) : List Path :=
  match (a.loadConfig disk).result with
  | .ok config => (a.options config).paths
  | .error _ => []

/-! ## Output -/

/-- Prints what comes out of the program: its exit status. -/
private def deliver (response : Response) : IO UInt32 := do
  match response with
  | .text output =>
    IO.print output
    return 0
  | .usageError cause =>
    IO.eprintln ("error: " ++ cause.message)
    return UInt32.ofNat failureStatus
  | .report report =>
    report.errorLines.forM fun line => IO.eprintln line
    IO.print report.output
    return UInt32.ofNat report.status

/-! ## The program -/

/-- Does what some arguments ask for in a directory. -/
private def execute (arguments : List String) (surroundings : Surroundings) (directory : Place) :
    IO UInt32 := do
  let disk := Disk.new directory
  match Request.ofArguments surroundings.source arguments with
  | .ok (.run a) =>
    let disk ← survey disk [a.configPath]
    let paths := a.paths disk
    let disk ← survey disk paths
    let (after, response) := respond arguments surroundings disk
    paths.forM (save disk after)
    deliver response
  | _ => deliver (respond arguments surroundings disk).2

/-- The program in the working directory and with the variables of its surroundings. -/
def start (arguments : List String) : IO UInt32 := do
  let names := Text.pieces '/' (← IO.currentDir).toString.toList
  let directory := (names.filter (· ≠ [])).map String.ofList
  let surroundings := ⟨← IO.getEnv "SOURCE_FILE", ← IO.getEnv "RUST_LOG"⟩
  try
    execute arguments surroundings directory
  catch e =>
    IO.eprintln ("error: " ++ toString e)
    return UInt32.ofNat failureStatus

end RecordSchema.CommandLine

def main (arguments : List String) : IO UInt32 := RecordSchema.CommandLine.start arguments
