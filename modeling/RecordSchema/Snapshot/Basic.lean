/-
Snapshots: the record of every identifier ever issued.

Nothing is deleted from a snapshot. What is no longer declared is marked retired, so that its
numbers are never given to anything else and come back with its name.
-/
import RecordSchema.Identity

set_option autoImplicit false

namespace RecordSchema

/-- A recorded property. -/
structure PropertyRecord where
  id : IdUid
  name : String
  retired : Bool
  deriving Repr, DecidableEq

/-- A recorded entity. `source` is the unit it was last declared in; `lastPropertyId` is the highest
property identifier ever issued in it. -/
structure EntityRecord where
  id : IdUid
  name : String
  source : Option String
  retired : Bool
  lastPropertyId : Option IdUid
  properties : List PropertyRecord
  deriving Repr, DecidableEq

/-- A snapshot. `lastEntityId` is the highest entity identifier ever issued. -/
structure Snapshot where
  version : UInt32
  lastEntityId : Option IdUid
  entities : List EntityRecord
  deriving Repr, DecidableEq

/-- The version of the format that is written, and the only one accepted. -/
def snapshotVersion : UInt32 := 1

/-- The first recorded property of a name. -/
def EntityRecord.property? (record : EntityRecord) (name : String) : Option PropertyRecord :=
  record.properties.find? (·.name = name)

namespace Snapshot

/-- The snapshot in which nothing has been issued. -/
def empty : Snapshot := ⟨snapshotVersion, none, []⟩

/-- The first recorded entity of a name. -/
def entity? (snapshot : Snapshot) (name : String) : Option EntityRecord :=
  snapshot.entities.find? (·.name = name)

def isEmpty (snapshot : Snapshot) : Bool := snapshot.entities.isEmpty

/-- The entities that are not retired. -/
def live (snapshot : Snapshot) : List EntityRecord := snapshot.entities.filter fun e => !e.retired

end Snapshot

end RecordSchema
