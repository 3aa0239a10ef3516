/-
The disk: files, directories, and what is asked of them.

A disk is a list of entries, each at its place, which is the list of names that leads to it from the
root. A path is followed as a POSIX system follows one: name by name from the root or the working
directory, a dot staying where it is and two dots going up, and every name but the last must be that
of a directory. There are no links, so a place has one list of names.

A new text of a file is first staged and then committed. A staged file has a name that nothing else
can know, so it stands beside the tree and not in it; committing it puts it over its target in one
step or changes nothing. Either step may also be refused for reasons that lie outside the tree,
such as permissions or space: a disk says which of them it refuses.
-/
import RecordSchema.File.Error
import RecordSchema.File.Path

set_option autoImplicit false

namespace RecordSchema

/-! ## What a disk holds -/

/-- Where something is: the names that lead to it from the root. -/
abbrev Place := List String

/-- What is in a file. Bytes are kept only where they are no text. -/
inductive Content where
  | text (s : String)
  | bytes (data : List UInt8)
  deriving Repr, DecidableEq

/-- Bytes as the text that they encode, if they encode one. -/
def Content.ofBytes (data : List UInt8) : Content :=
  match String.fromUTF8? ⟨data.toArray⟩ with
  | some s => .text s
  | none => .bytes data

/-- What is at a place. -/
inductive Entry where
  | file (content : Content)
  | directory
  deriving Repr, DecidableEq

/-- A text that is written but not yet in its place. -/
structure Staged where
  target : Path
  text : String
  deriving Repr, DecidableEq

/-- A step that the surroundings do not allow. -/
inductive Refusal where
  | staging (target : Path)
  | commit (target : Path)
  deriving Repr, DecidableEq

/-- A disk with the directory that relative paths start from. -/
structure Disk where
  workingDirectory : Place
  entries : List (Place × Entry)
  staged : List Staged
  refusals : List Refusal
  deriving Repr, DecidableEq

namespace Disk

/-- A disk with nothing in its working directory. -/
def new (workingDirectory : Place) : Disk :=
  ⟨workingDirectory,
    (List.range workingDirectory.length).map fun depth =>
      (workingDirectory.take (depth + 1), .directory),
    [], []⟩

/-- What is at a place. The root is always a directory. -/
def entry? (disk : Disk) (place : Place) : Option Entry :=
  if place = [] then some .directory else disk.entries.lookup place

/-- The disk without anything at a place. -/
def erase (disk : Disk) (place : Place) : Disk :=
  { disk with entries := disk.entries.filter fun entry => entry.1 ≠ place }

/-- The disk with an entry at a place, in place of what was there. -/
def put (disk : Disk) (place : Place) (entry : Entry) : Disk :=
  { disk with entries := (disk.erase place).entries ++ [(place, entry)] }

/-! ## Following a path -/

/-- The longest name, in bytes. -/
def maxNameSize : Nat := 255

/-- The longest path, in bytes. -/
def maxPathSize : Nat := 4095

/-- The place that a name means in a directory. -/
def child (directory : Place) (name : String) : Place :=
  match name with
  | "." => directory
  | ".." => directory.dropLast
  | _ => directory ++ [name]

/-- Goes from a directory into the one of a name. -/
def enter (disk : Disk) (directory : Place) (name : String) : Except FileError Place :=
  if maxNameSize < name.utf8ByteSize then .error .nameTooLong
  else
    match disk.entry? (child directory name) with
    | some .directory => .ok (child directory name)
    | some (.file _) => .error .notDirectory
    | none => .error .notFound

/-- Where a path ends: its last name, and the directory in which that name is looked up. A path may
end in a slash, and then it can only mean a directory. -/
structure Location where
  directory : Place
  name : String
  endsInSlash : Bool
  deriving Repr, DecidableEq

/-- The place that a location means. -/
def Location.place (location : Location) : Place := child location.directory location.name

/-- Whether a location is reached by its own name, and not by a step back to where one is
already. -/
def Location.isNamed (location : Location) : Bool :=
  location.name != "." && location.name != ".."

/-- Follows a path up to its last name. -/
def locate (disk : Disk) (p : Path) : Except FileError Location :=
  let names := (Text.pieces '/' p.text.toList).filter (· ≠ [])
  let origin := if p.isAbsolute then [] else disk.workingDirectory
  if p.text.toList.contains '\x00' then .error .invalidName
  else if p.text.isEmpty then .error .notFound
  else if maxPathSize < p.text.utf8ByteSize then .error .nameTooLong
  else
    match names.getLast? with
    | none => .ok ⟨[], ".", true⟩
    | some last => do
      let directory ← (names.dropLast.map String.ofList).foldlM disk.enter origin
      let name := String.ofList last
      if maxNameSize < name.utf8ByteSize then
        throw .nameTooLong
      return ⟨directory, name, p.text.toList.getLast? == some '/'⟩

/-- What a path leads to. -/
def find (disk : Disk) (p : Path) : Except FileError (Place × Entry) := do
  let location ← disk.locate p
  match disk.entry? location.place with
  | none => .error .notFound
  | some .directory => .ok (location.place, .directory)
  | some (.file content) =>
    if location.endsInSlash then .error .notDirectory else .ok (location.place, .file content)

/-- Whether a path leads to anything. -/
def contains (disk : Disk) (p : Path) : Bool := (disk.find p).isOk

/-- Whether a path leads to a directory. -/
def isDirectory (disk : Disk) (p : Path) : Bool :=
  match disk.find p with
  | .ok (_, .directory) => true
  | _ => false

/-! ## Files -/

/-- The text of a file. -/
def readText (disk : Disk) (p : Path) : Except FileError String := do
  match ← disk.find p with
  | (_, .file (.text s)) => .ok s
  | (_, .file (.bytes _)) => .error .invalidText
  | (_, .directory) => .error .isDirectory

/-- Writes a file, in place of the one that may be there. -/
def write (disk : Disk) (p : Path) (content : Content) : Except FileError Disk := do
  let location ← disk.locate p
  if location.endsInSlash ∨ disk.entry? location.place = some .directory then
    throw .isDirectory
  return disk.put location.place (.file content)

/-- Removes a file. -/
def remove (disk : Disk) (p : Path) : Except FileError Disk := do
  match ← disk.find p with
  | (place, .file _) => .ok (disk.erase place)
  | (_, .directory) => .error .isDirectory

/-! ## Directories -/

/-- Makes a directory in one that is there. -/
def makeDirectory (disk : Disk) (p : Path) : Except FileError Disk := do
  let location ← disk.locate p
  match disk.entry? location.place with
  | some _ => .error .alreadyExists
  | none => .ok (disk.put location.place .directory)

/-- Makes a directory unless there is one already. -/
def ensureDirectory (disk : Disk) (p : Path) : Except FileError Disk :=
  match disk.makeDirectory p with
  | .error e => if disk.isDirectory p then .ok disk else .error e
  | made => made

/-- Makes the first of some directories, each in the next; the others are made only if they are
missed. -/
def ensureChain (disk : Disk) : List Path → Except FileError Disk
  | [] => .ok disk
  | p :: above =>
    if p.text.isEmpty then .ok disk
    else
      match disk.ensureDirectory p with
      | .error .notFound => do
        let disk ← disk.ensureChain above
        disk.ensureDirectory p
      | result => result

/-- A path and the ones above it, from the longest to the shortest; a path of `n` characters has at
most `n` of them. -/
def chain (p : Path) : Nat → List Path
  | 0 => []
  | n + 1 => p :: p.parent?.elim [] fun above => chain above n

/-- Makes a directory and the ones above it. -/
def ensureDirectories (disk : Disk) (p : Path) : Except FileError Disk :=
  disk.ensureChain (chain p (p.text.length + 1))

/-- The names in a directory, in order. -/
def list (disk : Disk) (p : Path) : Except FileError (List String) := do
  match ← disk.find p with
  | (_, .file _) => .error .notDirectory
  | (place, .directory) =>
    let names := disk.entries.filterMap fun entry =>
      if entry.1 ≠ [] ∧ entry.1.dropLast = place then entry.1.getLast? else none
    return names.mergeSort fun a b => decide (a ≤ b)

/-! ## Staged files -/

/-- Writes a text beside the tree, to be put over its target later. It is written to the target's
own directory, which must be there. -/
def stage (disk : Disk) (target : Path) (text : String) : Except FileError (Disk × Staged) := do
  match ← disk.find target.directory with
  | (_, .file _) => .error .notDirectory
  | (_, .directory) =>
    if .staging target ∈ disk.refusals then
      throw .denied
    let file := ⟨target, text⟩
    return ({ disk with staged := file :: disk.staged }, file)

/-- Gives a staged file up. -/
def discard (disk : Disk) (file : Staged) : Disk :=
  { disk with staged := disk.staged.erase file }

/-- The place that a staged file can be put to. -/
def target (disk : Disk) (file : Staged) : Except FileError Place := do
  let location ← disk.locate file.target
  if !location.isNamed then
    throw .busy
  if location.endsInSlash then
    throw .notDirectory
  if disk.entry? location.place = some .directory then
    throw .isDirectory
  if .commit file.target ∈ disk.refusals then
    throw .denied
  return location.place

/-- Puts a staged file over its target. Where that fails the target keeps what it had, and the
staged file is given up. -/
def commit (disk : Disk) (file : Staged) : Disk × Except FileError Unit :=
  match disk.target file with
  | .error e => (disk.discard file, .error e)
  | .ok place => ((disk.discard file).put place (.file (.text file.text)), .ok ())

end Disk

end RecordSchema
