/-
The model file.

A snapshot is kept in a file of its own as indented JSON. No file is an empty snapshot, so that a
first run needs no preparation; a file that is there must be well formed and consistent, because
identifiers issued against a damaged one could never be taken back.
-/
import RecordSchema.File.Disk
import RecordSchema.Log.Record
import RecordSchema.Snapshot.Consistency
import RecordSchema.Snapshot.Json

set_option autoImplicit false

namespace RecordSchema

/-! ## Refusals -/

/-- Why the content of a model file is no snapshot to go on from. -/
inductive ContentError where
  | format (cause : FormatError)
  | inconsistent (cause : SnapshotError)
  deriving Repr, DecidableEq

/-- The text of a format fault. -/
def FormatError.message : FormatError → String
  | .malformed => "not well formed"
  | .mismatch => "not the form of a snapshot"
  | .idUid cause => cause.message

def ContentError.message : ContentError → String
  | .format cause => "invalid JSON: " ++ cause.message
  | .inconsistent cause => "inconsistent snapshot: " ++ cause.message

/-- Why a model file could not be read or written. -/
inductive StoreError where
  | file (path : Path) (cause : FileError)
  | content (path : Path) (cause : ContentError)
  deriving Repr, DecidableEq

def StoreError.message : StoreError → String
  | .file path cause => path.text ++ ": " ++ cause.message
  | .content path cause => "model file " ++ path.text ++ ": " ++ cause.message

/-! ## Reading -/

/-- What is told while a model file is read. -/
inductive StoreEvent where
  | absent (path : Path)
  | loaded (path : Path) (entities : Nat)
  deriving Repr, DecidableEq

/-- The log record of an event. -/
def StoreEvent.record : StoreEvent → Log.Record
  | .absent path =>
    ⟨.debug, "flatschema_build::store", "no model file yet", [("path", .plain path.text)]⟩
  | .loaded path entities =>
    ⟨.debug, "flatschema_build::store", "loaded model file",
      [("path", .plain path.text), ("entities", .count entities)]⟩

/-- A snapshot with everything told on the way. -/
structure SnapshotLoading where
  events : List StoreEvent
  result : Except StoreError Snapshot

namespace Snapshot

/-- The snapshot that the text of a model file holds. -/
def ofFileText (s : String) : Except ContentError Snapshot := do
  let snapshot ← (read s).mapError .format
  snapshot.validate.mapError .inconsistent
  return snapshot

/-- The snapshot in a model file. -/
def load (disk : Disk) (path : Path) : SnapshotLoading :=
  match disk.readText path with
  | .error .notFound => ⟨[.absent path], .ok empty⟩
  | .error e => ⟨[], .error (.file path e)⟩
  | .ok s =>
    match ofFileText s with
    | .error e => ⟨[], .error (.content path e)⟩
    | .ok snapshot => ⟨[.loaded path snapshot.entities.length], .ok snapshot⟩

end Snapshot

/-! ## Writing -/

namespace Disk

/-- Stages a text for a file. A refusal is one of the directory that the file is made in. -/
def stageText (disk : Disk) (path : Path) (s : String) : Except StoreError (Disk × Staged) :=
  (disk.stage path s).mapError (.file path.directory)

/-- Puts a staged text over its file. -/
def commitText (disk : Disk) (file : Staged) : Disk × Except StoreError Unit :=
  let (disk, result) := disk.commit file
  (disk, result.mapError (.file file.target))

/-- Writes a snapshot to a model file. -/
def store (disk : Disk) (path : Path) (snapshot : Snapshot) : Disk × Except StoreError Unit :=
  match disk.stageText path snapshot.fileText with
  | .error e => (disk, .error e)
  | .ok (disk, file) => disk.commitText file

end Disk

end RecordSchema
