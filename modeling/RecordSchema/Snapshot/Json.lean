/-
The text of a snapshot.

A snapshot is written as JSON with the fields in a fixed order; a field at its default is left out,
except for the lists, which are always there. Reading goes through the value in the order of the
text and stops at the first fault. It accepts the fields in any order, refuses a repeated or unknown
one, and accepts a list of a record's fields in their fixed order in place of the object.
-/
import RecordSchema.Json.Printer
import RecordSchema.Json.Reader
import RecordSchema.Snapshot.Basic

set_option autoImplicit false

namespace RecordSchema

/-! ## Writing -/

/-- A field that is written only when it has a value. -/
def Json.fieldOf (key : String) (value : Option Json) : List (String × Json) :=
  (value.map fun v => (key, v)).toList

/-- The mark of a retired record; a live one has none. -/
def Json.retiredField (retired : Bool) : List (String × Json) :=
  if retired then [("retired", .bool true)] else []

def IdUid.json (x : IdUid) : Json := .text x.render

def PropertyRecord.json (p : PropertyRecord) : Json :=
  .object ([("id", p.id.json), ("name", .text p.name)] ++ Json.retiredField p.retired)

def EntityRecord.json (e : EntityRecord) : Json :=
  .object ([("id", e.id.json), ("name", .text e.name)] ++
    Json.fieldOf "source" (e.source.map .text) ++ Json.retiredField e.retired ++
    Json.fieldOf "lastPropertyId" (e.lastPropertyId.map IdUid.json) ++
    [("properties", .list (e.properties.map PropertyRecord.json))])

def Snapshot.json (s : Snapshot) : Json :=
  .object ([("version", .natural s.version.toNat)] ++
    Json.fieldOf "lastEntityId" (s.lastEntityId.map IdUid.json) ++
    [("entities", .list (s.entities.map EntityRecord.json))])

/-! ## Refusals -/

/-- Why a text is no snapshot. -/
inductive FormatError where
  /-- The text is no JSON. -/
  | malformed
  /-- A value has not the form that its place asks for. -/
  | mismatch
  | idUid (cause : MalformedIdUid)
  deriving Repr, DecidableEq

/-! ## Reading values -/

namespace Json

def toText : Json → Except FormatError String
  | .text s => .ok s
  | _ => .error .mismatch

def toBool : Json → Except FormatError Bool
  | .bool b => .ok b
  | _ => .error .mismatch

/-- A natural number of 32 bits. -/
def toWord : Json → Except FormatError UInt32
  | .natural n => if n < UInt32.size then .ok (UInt32.ofNat n) else .error .mismatch
  | _ => .error .mismatch

def toIdUid : Json → Except FormatError IdUid
  | .text s => (IdUid.parse s).mapError .idUid
  | _ => .error .mismatch

/-- A value that may be null. -/
def toOption {α : Type} (read : Json → Except FormatError α) : Json → Except FormatError (Option α)
  | .null => .ok none
  | value => (read value).map some

/-- The values of list items, up to the first fault. -/
def toListOf {α : Type} (read : Json → Except FormatError α) : Json → Except FormatError (List α)
  | .list items => items.mapM read
  | _ => .error .mismatch

end Json

/-! ## Reading records -/

/-- Fills a place of a draft; a place is filled once. -/
def fillOnce {α : Type} (place : Option α) (value : Except FormatError α) :
    Except FormatError (Option α) :=
  if place.isSome then .error .mismatch else value.map some

/-- Puts fields into a draft one after the other. -/
def putAll {δ : Type} (put : δ → String → Json → Except FormatError δ) (draft : δ) :
    List (String × Json) → Except FormatError δ
  | [] => .ok draft
  | (key, value) :: rest => do
    let draft ← put draft key value
    putAll put draft rest

/-- Reads a record into a draft: an object, or a list of the fields `names` from the first on. -/
def readRecord {δ : Type} (names : List String) (put : δ → String → Json → Except FormatError δ)
    (draft : δ) : Json → Except FormatError δ
  | .object fields => putAll put draft fields
  | .list items => do
    let draft ← putAll put draft (names.zip items)
    if names.length < items.length then throw .mismatch else return draft
  | _ => .error .mismatch

/-- The value of a place that must have been filled. -/
def required {α : Type} (place : Option α) : Except FormatError α :=
  match place with
  | some value => .ok value
  | none => .error .mismatch

/-- A property record of which some fields have been read. -/
structure PropertyDraft where
  id : Option IdUid := none
  name : Option String := none
  retired : Option Bool := none

namespace PropertyDraft

def put (draft : PropertyDraft) (key : String) (value : Json) : Except FormatError PropertyDraft :=
  match key with
  | "id" => do return { draft with id := ← fillOnce draft.id value.toIdUid }
  | "name" => do return { draft with name := ← fillOnce draft.name value.toText }
  | "retired" => do return { draft with retired := ← fillOnce draft.retired value.toBool }
  | _ => .error .mismatch

def finish (draft : PropertyDraft) : Except FormatError PropertyRecord := do
  return ⟨← required draft.id, ← required draft.name, draft.retired.getD false⟩

end PropertyDraft

def PropertyRecord.ofJson (value : Json) : Except FormatError PropertyRecord := do
  (← readRecord ["id", "name", "retired"] PropertyDraft.put {} value).finish

/-- An entity record of which some fields have been read. -/
structure EntityDraft where
  id : Option IdUid := none
  name : Option String := none
  source : Option (Option String) := none
  retired : Option Bool := none
  lastPropertyId : Option (Option IdUid) := none
  properties : Option (List PropertyRecord) := none

namespace EntityDraft

def put (draft : EntityDraft) (key : String) (value : Json) : Except FormatError EntityDraft :=
  match key with
  | "id" => do return { draft with id := ← fillOnce draft.id value.toIdUid }
  | "name" => do return { draft with name := ← fillOnce draft.name value.toText }
  | "source" => do
    return { draft with source := ← fillOnce draft.source (value.toOption Json.toText) }
  | "retired" => do return { draft with retired := ← fillOnce draft.retired value.toBool }
  | "lastPropertyId" => do
    return { draft with
      lastPropertyId := ← fillOnce draft.lastPropertyId (value.toOption Json.toIdUid) }
  | "properties" => do
    return { draft with
      properties := ← fillOnce draft.properties (value.toListOf PropertyRecord.ofJson) }
  | _ => .error .mismatch

def finish (draft : EntityDraft) : Except FormatError EntityRecord := do
  return ⟨← required draft.id, ← required draft.name, draft.source.getD none,
    draft.retired.getD false, draft.lastPropertyId.getD none, draft.properties.getD []⟩

end EntityDraft

def EntityRecord.ofJson (value : Json) : Except FormatError EntityRecord := do
  (← readRecord ["id", "name", "source", "retired", "lastPropertyId", "properties"]
    EntityDraft.put {} value).finish

/-- A snapshot of which some fields have been read. -/
structure SnapshotDraft where
  version : Option UInt32 := none
  lastEntityId : Option (Option IdUid) := none
  entities : Option (List EntityRecord) := none

namespace SnapshotDraft

def put (draft : SnapshotDraft) (key : String) (value : Json) : Except FormatError SnapshotDraft :=
  match key with
  | "version" => do return { draft with version := ← fillOnce draft.version value.toWord }
  | "lastEntityId" => do
    return { draft with
      lastEntityId := ← fillOnce draft.lastEntityId (value.toOption Json.toIdUid) }
  | "entities" => do
    return { draft with
      entities := ← fillOnce draft.entities (value.toListOf EntityRecord.ofJson) }
  | _ => .error .mismatch

def finish (draft : SnapshotDraft) : Except FormatError Snapshot := do
  return ⟨← required draft.version, draft.lastEntityId.getD none, draft.entities.getD []⟩

end SnapshotDraft

namespace Snapshot

def ofJson (value : Json) : Except FormatError Snapshot := do
  (← readRecord ["version", "lastEntityId", "entities"] SnapshotDraft.put {} value).finish

/-- Reads a snapshot from a text. A malformed pair is reported if it stands before the place where
the text breaks off; any other fault before that place is no better known than the break itself. -/
def read (s : String) : Except FormatError Snapshot :=
  let reading := Json.readText s
  match reading.value.elim (.error .malformed) ofJson with
  | .error (.idUid e) => .error (.idUid e)
  | result => if reading.rest.isSome then result else .error .malformed

/-- The text of a model file: the indented layout and a final line end. -/
def fileText (s : Snapshot) : String := s.json.pretty ++ "\n"

end Snapshot

end RecordSchema
