/-
Consistency of a snapshot.

A snapshot read from a file may have been edited by hand, so before anything is derived from it the
conditions that make identifiers unambiguous are checked: names, numeric IDs and UIDs are unique
where they must be, and the recorded maxima are maxima. The entities are checked in order against
those before them, and the first violation is reported.
-/
import RecordSchema.Ledger
import RecordSchema.Snapshot.Basic

set_option autoImplicit false

namespace RecordSchema

/-! ## Violations -/

/-- The condition that a snapshot violates. -/
inductive SnapshotError where
  | duplicateEntity (entity : String)
  | duplicateEntityId (id : UInt32) (first second : String)
  | duplicateProperty (entity property : String)
  | duplicatePropertyId (entity : String) (id : UInt32) (first second : String)
  | duplicateUid (uid : UInt64) (first second : Owner)
  | entityIdOutOfRange (entity : String) (id : UInt32)
  | lastEntityIdBehind (entity : String) (id last : UInt32)
  | missingLastPropertyId (entity : String)
  | propertyIdBeyondLast (entity property : String) (id last : UInt32)
  | unsupportedVersion (found : UInt32)
  deriving Repr, DecidableEq

def SnapshotError.message : SnapshotError → String
  | .duplicateEntity entity => "entity " ++ entity ++ " is recorded more than once"
  | .duplicateEntityId id first second =>
    "entity numeric ID " ++ toString id ++ " is recorded for both " ++ first ++ " and " ++ second
  | .duplicateProperty entity property =>
    "property " ++ property ++ " is recorded more than once on entity " ++ entity
  | .duplicatePropertyId entity id first second =>
    "property ID " ++ toString id ++ " is recorded for both " ++ first ++ " and " ++ second ++
      " on entity " ++ entity
  | .duplicateUid uid first second =>
    "UID " ++ toString uid ++ " is recorded for both " ++ first.label ++ " and " ++ second.label
  | .entityIdOutOfRange entity id =>
    "entity " ++ entity ++ " numeric ID " ++ toString id ++ " exceeds 24 bits"
  | .lastEntityIdBehind entity id last =>
    "lastEntityId " ++ toString last ++ " is lower than entity " ++ entity ++ " ID " ++ toString id
  | .missingLastPropertyId entity =>
    "entity " ++ entity ++ " has properties but no lastPropertyId"
  | .propertyIdBeyondLast entity property id last =>
    "property " ++ property ++ " ID " ++ toString id ++ " exceeds lastPropertyId " ++
      toString last ++ " of entity " ++ entity
  | .unsupportedVersion found =>
    "unsupported snapshot version " ++ toString found ++ " (expected " ++
      toString snapshotVersion ++ ")"

/-! ## The check -/

/-- Enters a UID of a snapshot. -/
def Ledger.record (ledger : Ledger) (uid : UInt64) (owner : Owner) :
    Except SnapshotError Ledger :=
  match ledger.claim uid owner with
  | .ok ledger => .ok ledger
  | .error first => .error (.duplicateUid uid first owner)

/-- Checks a property of `entity` against the properties before it and the highest ID issued. -/
def PropertyRecord.check (entity : String) (last : UInt32) (before : List PropertyRecord)
    (ledger : Ledger) (p : PropertyRecord) : Except SnapshotError Ledger := do
  if before.any (·.name = p.name) then
    throw (.duplicateProperty entity p.name)
  match before.find? (·.id.id = p.id.id) with
  | some first => throw (.duplicatePropertyId entity p.id.id first.name p.name)
  | none => pure ()
  if last < p.id.id then
    throw (.propertyIdBeyondLast entity p.name p.id.id last)
  ledger.record p.id.uid (.property entity p.name)

/-- Checks properties one after the other. -/
def PropertyRecord.checkAll (entity : String) (last : UInt32) (before : List PropertyRecord)
    (ledger : Ledger) : List PropertyRecord → Except SnapshotError Ledger
  | [] => .ok ledger
  | p :: rest => do
    let ledger ← p.check entity last before ledger
    checkAll entity last (before ++ [p]) ledger rest

/-- Checks the properties of an entity. The highest ID may be missing only if there are none. -/
def EntityRecord.checkProperties (e : EntityRecord) (ledger : Ledger) :
    Except SnapshotError Ledger :=
  match e.properties, e.lastPropertyId with
  | [], _ => .ok ledger
  | _ :: _, none => .error (.missingLastPropertyId e.name)
  | properties, some last => PropertyRecord.checkAll e.name last.id [] ledger properties

/-- Checks an entity against the entities before it and the highest ID issued. -/
def EntityRecord.check (last : Option IdUid) (before : List EntityRecord) (ledger : Ledger)
    (e : EntityRecord) : Except SnapshotError Ledger := do
  if before.any (·.name = e.name) then
    throw (.duplicateEntity e.name)
  if maxEntityId < e.id.id.toNat then
    throw (.entityIdOutOfRange e.name e.id.id)
  match before.find? (·.id.id = e.id.id) with
  | some first => throw (.duplicateEntityId e.id.id first.name e.name)
  | none => pure ()
  match last with
  | some last =>
    if last.id < e.id.id then
      throw (.lastEntityIdBehind e.name e.id.id last.id)
  | none => pure ()
  let ledger ← ledger.record e.id.uid (.entity e.name)
  e.checkProperties ledger

/-- Checks entities one after the other. -/
def EntityRecord.checkAll (last : Option IdUid) (before : List EntityRecord) (ledger : Ledger) :
    List EntityRecord → Except SnapshotError Ledger
  | [] => .ok ledger
  | e :: rest => do
    let ledger ← e.check last before ledger
    checkAll last (before ++ [e]) ledger rest

/-- Checks a snapshot. -/
def Snapshot.validate (snapshot : Snapshot) : Except SnapshotError Unit := do
  if snapshot.version ≠ snapshotVersion then
    throw (.unsupportedVersion snapshot.version)
  let _ ← EntityRecord.checkAll snapshot.lastEntityId [] [] snapshot.entities
  return ()

end RecordSchema
