/-
Assigning identifiers.

An assigner holds a working copy of the snapshot and a ledger of every UID that the copy records.
An entity whose name is recorded keeps its identifiers and those of its recorded properties; new
names get new ones, which the ledger must not know yet. Whatever was recorded or claimed before a
refusal stays, so an assigner may be used on after one.
-/
import RecordSchema.Model
import RecordSchema.SchemaError
import RecordSchema.SchemaEvent

set_option autoImplicit false

namespace RecordSchema

/-! ## Small steps -/

/-- Claims a UID for a new owner. -/
def Ledger.mint (ledger : Ledger) (uid : UInt64) (owner : Owner) :
    Except IdentityError Ledger :=
  match ledger.claim uid owner with
  | .ok ledger => .ok ledger
  | .error holder => .error (.uidCollision uid owner.label holder.label)

/-- The property ID after a given one; the highest stays. -/
def nextPropertyId (id : UInt32) : UInt32 := if id.toNat + 1 < UInt32.size then id + 1 else id

/-- The numeric ID of a property by its position in a new entity. -/
def positionalId (position : Nat) : UInt32 := UInt32.ofNat (min position (UInt32.size - 1))

/-- What a step leaves: what it told, the state after it, and its answer. -/
structure Step (σ ε α : Type) where
  events : List SchemaEvent
  state : σ
  result : Except ε α

/-! ## Recorded entities -/

/-- A recorded entity while its properties are gone through. `nextId` is the next new property
ID. -/
structure Renewal where
  record : EntityRecord
  ledger : Ledger
  nextId : UInt32
  deriving Repr, DecidableEq

namespace Renewal

/-- The renewal of a record that is declared again in a unit: live, and recorded under that unit. -/
def start (ledger : Ledger) (source : Option String) (record : EntityRecord) : Renewal where
  record := { record with retired := false, source }
  ledger
  nextId := record.lastPropertyId.elim 0 fun last => nextPropertyId last.id

/-- Takes up the recorded property at a position again. -/
def reuse (r : Renewal) (i : Nat) (existing : PropertyRecord) :
    Step Renewal IdentityError IdUid where
  events :=
    (if existing.retired then [.revivingProperty r.record.name existing.name] else []) ++
      [.reusingPropertyId r.record.name existing.name existing.id]
  state :=
    { r with record.properties := r.record.properties.set i { existing with retired := false } }
  result := .ok existing.id

/-- Records a property that the entity did not have. -/
def mint (r : Renewal) (name : String) : Step Renewal IdentityError IdUid :=
  let after := { r with nextId := nextPropertyId r.nextId }
  match propertyUid? r.record.id.uid r.nextId with
  | none => ⟨[], after, .error (.uidOverflow r.record.name name r.record.id.uid)⟩
  | some uid =>
    match r.ledger.mint uid (.property r.record.name name) with
    | .error e => ⟨[], after, .error e⟩
    | .ok ledger =>
      let id : IdUid := ⟨r.nextId, uid⟩
      let record :=
        { r.record with
          properties := r.record.properties ++ [⟨id, name, false⟩]
          lastPropertyId := some id }
      ⟨[.mintedPropertyId r.record.name name id], { after with record, ledger }, .ok id⟩

/-- Gives a property its identifier: the recorded one of its name, or a new one. -/
def property (r : Renewal) (name : String) : Step Renewal IdentityError IdUid :=
  match r.record.properties.findIdx? (·.name = name), r.record.property? name with
  | some i, some existing => r.reuse i existing
  | _, _ => r.mint name

/-- Gives properties their identifiers in order, up to the first that is refused. -/
def properties (r : Renewal) : List String → Step Renewal IdentityError (List IdUid)
  | [] => ⟨[], r, .ok []⟩
  | name :: rest =>
    let one := r.property name
    match one.result with
    | .error e => ⟨one.events, one.state, .error e⟩
    | .ok id =>
      let more := one.state.properties rest
      ⟨one.events ++ more.events, more.state, more.result.map (id :: ·)⟩

/-- Whether a record is live but no longer among the declared names. -/
def isDropped (declared : List String) (p : PropertyRecord) : Bool :=
  !p.retired && !declared.contains p.name

/-- Retires the live properties that are no longer declared. -/
def retireDropped (r : Renewal) (declared : List String) : List SchemaEvent × Renewal :=
  ((r.record.properties.filter (isDropped declared)).map fun p =>
      .retiringProperty r.record.name p.name,
    { r with
      record.properties := r.record.properties.map fun p =>
        if isDropped declared p then { p with retired := true } else p })

/-- Renews the record of an entity for its declared properties. -/
def run (ledger : Ledger) (source : Option String) (record : EntityRecord)
    (declared : List String) : Step Renewal IdentityError (List IdUid) :=
  let revived := if record.retired then [.revivingEntity record.name record.id] else []
  let listed := (start ledger source record).properties declared
  match listed.result with
  | .error e => ⟨revived ++ listed.events, listed.state, .error e⟩
  | .ok ids =>
    let (retired, state) := listed.state.retireDropped declared
    ⟨revived ++ listed.events ++ retired ++ [.reusingEntityId record.name record.id], state,
      .ok ids⟩

end Renewal

/-! ## New entities -/

/-- Claims UIDs for the properties of a new entity, numbered from `position`. -/
def Ledger.mintProperties (ledger : Ledger) (entity : String) (uid : UInt64) (position : Nat) :
    List String → Ledger × Except IdentityError (List PropertyRecord)
  | [] => (ledger, .ok [])
  | name :: rest =>
    match propertyUid? uid (positionalId position) with
    | none => (ledger, .error (.uidOverflow entity name uid))
    | some propertyUid =>
      match ledger.mint propertyUid (.property entity name) with
      | .error e => (ledger, .error e)
      | .ok ledger =>
        let more := ledger.mintProperties entity uid (position + 1) rest
        (more.1, more.2.map (⟨⟨positionalId position, propertyUid⟩, name, false⟩ :: ·))

/-! ## The assigner -/

/-- The state of one run of identifier assignment. `seen` are the names already declared in it. -/
structure Assigner where
  nameSpace : String
  strategy : IdStrategy
  source : Option String
  snapshot : Snapshot
  ledger : Ledger
  seen : List String
  deriving Repr, DecidableEq

/-- Enters the UIDs of a recorded entity and of its properties. -/
def Ledger.enterRecord (ledger : Ledger) (record : EntityRecord) : Ledger :=
  record.properties.foldl (fun ledger p => ledger.enter p.id.uid (.property record.name p.name))
    (ledger.enter record.id.uid (.entity record.name))

/-- The ledger of everything a snapshot records. -/
def Ledger.ofSnapshot (snapshot : Snapshot) : Ledger := snapshot.entities.foldl enterRecord []

namespace Assigner

/-- The assigner at the start of a run. -/
def start (snapshot : Snapshot) (nameSpace : String) (strategy : IdStrategy)
    (source : Option String) : Assigner :=
  ⟨nameSpace, strategy, source, snapshot, .ofSnapshot snapshot, []⟩

/-- The highest numeric ID ever issued to an entity: recorded as such, or held by a record. -/
def highestEntityId? (a : Assigner) : Option UInt32 :=
  ((a.snapshot.lastEntityId.map (·.id)).toList ++ a.snapshot.entities.map (·.id.id)).max?

/-- The numeric ID after the highest one, from 1. It is the next word, so zero comes after the
highest of all. -/
def nextSequentialId (a : Assigner) : Except IdentityError UInt32 :=
  match a.highestEntityId? with
  | none => .ok 1
  | some last =>
    let next := last + 1
    if next.toNat ≤ maxEntityId then .ok next else .error (.entityIdExhausted last)

/-- The numeric ID of a new entity with a given hash. -/
def freshEntityId (a : Assigner) (hash : UInt64) : Except IdentityError UInt32 :=
  match a.strategy with
  | .hashed => .ok (hashedEntityId hash)
  | .sequential => a.nextSequentialId

/-- The record that holds a numeric ID; the latest counts. -/
def holder? (a : Assigner) (id : UInt32) : Option EntityRecord :=
  a.snapshot.entities.findRev? (·.id.id = id)

/-- Records an entity whose name was never recorded. -/
def mint (a : Assigner) (name : String) (properties : List String) :
    Step Assigner IdentityError (IdUid × List IdUid) :=
  let hash := Hash.entityHash a.nameSpace name
  match a.freshEntityId hash with
  | .error e => ⟨[], a, .error e⟩
  | .ok id =>
    match a.holder? id with
    | some other => ⟨[], a, .error (.entityIdCollision name id other.name)⟩
    | none =>
      let id : IdUid := ⟨id, entityUid hash⟩
      match a.ledger.mint id.uid (.entity name) with
      | .error e => ⟨[], a, .error e⟩
      | .ok ledger =>
        match ledger.mintProperties name id.uid 0 properties with
        | (ledger, .error e) => ⟨[], { a with ledger }, .error e⟩
        | (ledger, .ok records) =>
          let record : EntityRecord :=
            { id, name, source := a.source, retired := false
              lastPropertyId := records.getLast?.map (·.id), properties := records }
          let last :=
            match a.snapshot.lastEntityId with
            | some last => if last.id < id.id then id else last
            | none => id
          let snapshot :=
            { a.snapshot with
              lastEntityId := some last, entities := a.snapshot.entities ++ [record] }
          ⟨[.mintedEntityId name id records.length], { a with ledger, snapshot },
            .ok (id, records.map (·.id))⟩

/-- Renews the record at a position. -/
def reuse (a : Assigner) (i : Nat) (record : EntityRecord) (properties : List String) :
    Step Assigner IdentityError (IdUid × List IdUid) :=
  let renewal := Renewal.run a.ledger a.source record properties
  let after :=
    { a with
      ledger := renewal.state.ledger
      snapshot.entities := a.snapshot.entities.set i renewal.state.record }
  ⟨renewal.events, after, renewal.result.map fun ids => (record.id, ids)⟩

/-- Gives an entity and its properties their identifiers. -/
def identify (a : Assigner) (name : String) (properties : List String) :
    Step Assigner IdentityError (IdUid × List IdUid) :=
  match a.snapshot.entities.findIdx? (·.name = name), a.snapshot.entity? name with
  | some i, some record => a.reuse i record properties
  | _, _ => a.mint name properties

/-- Lays out properties by their identifiers, up to the first that has no slot. -/
def layOut (entity : String) :
    List (PropertyShape × IdUid) → Except SchemaError (List Property)
  | [] => .ok []
  | (shape, id) :: rest => do
    let offset ← (RecordSchema.vtableOffset id.id).mapError fun e =>
      .property entity shape.name (.layout e)
    let more ← layOut entity rest
    return ⟨shape, id, offset⟩ :: more

/-- The entity of a shape once its identifiers are known. -/
def complete (a : Assigner) (shape : EntityShape) (id : IdUid) (ids : List IdUid) :
    Except SchemaError Entity := do
  let recorded := (a.snapshot.entity? shape.name).bind (·.lastPropertyId)
  match recorded.or ids.getLast? with
  | none => throw (.entity (.noProperties shape.name))
  | some lastPropertyId =>
    let properties ← layOut shape.name (shape.properties.zip ids)
    return ⟨shape.name, id, properties, shape.idIndex, lastPropertyId⟩

/-- Identifies one entity and lays out its properties. A shape without properties is refused before
its name counts as declared; a name counts as declared even if what follows is refused. -/
def assign (a : Assigner) (shape : EntityShape) : Step Assigner SchemaError Entity :=
  if shape.properties.isEmpty then
    ⟨[], a, .error (.entity (.noProperties shape.name))⟩
  else if a.seen.contains shape.name then
    ⟨[], a, .error (.identity (.duplicateEntity shape.name))⟩
  else
    let declared : Assigner := { a with seen := shape.name :: a.seen }
    let identified := declared.identify shape.name (shape.properties.map (·.name))
    match identified.result with
    | .error e => ⟨identified.events, identified.state, .error (.identity e)⟩
    | .ok (id, ids) =>
      ⟨identified.events, identified.state, identified.state.complete shape id ids⟩

/-- Assigns shapes in order, up to the first that is refused. -/
def assignAll (a : Assigner) : List EntityShape → Step Assigner SchemaError (List Entity)
  | [] => ⟨[], a, .ok []⟩
  | shape :: rest =>
    let one := a.assign shape
    match one.result with
    | .error e => ⟨one.events, one.state, .error e⟩
    | .ok entity =>
      let more := one.state.assignAll rest
      ⟨one.events ++ more.events, more.state, more.result.map (entity :: ·)⟩

/-- Whether a record is live and belongs to this unit but was not declared. -/
def isDropped (a : Assigner) (e : EntityRecord) : Bool :=
  !e.retired && e.source == a.source && !a.seen.contains e.name

/-- Retires the entities of this unit that were not declared, and gives the merged snapshot. -/
def finish (a : Assigner) : List SchemaEvent × Snapshot :=
  ((a.snapshot.entities.filter a.isDropped).map fun e => .retiringEntity e.name e.id,
    { a.snapshot with
      entities := a.snapshot.entities.map fun e =>
        if a.isDropped e then { e with retired := true } else e })

end Assigner

end RecordSchema
