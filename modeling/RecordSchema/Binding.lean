/-
Bindings: a model as a table of facts for whoever generates code from it.

Every value that generated code needs is worked out here, so its author looks nothing up. The facts
are the model's own: a binding adds no identifier and drops none.
-/
import RecordSchema.Json.Printer
import RecordSchema.Model

set_option autoImplicit false

namespace RecordSchema

/-! ## The table -/

/-- The facts of a property. `slot` is its numeric ID as a position in the table of offsets. -/
structure BindingProperty where
  name : String
  nameInDb : String
  sourceType : String
  id : UInt32
  uid : UInt64
  storageType : StorageType
  wireType : WireType
  isOffset : Bool
  flags : List PropertyFlag
  slot : UInt32
  vtableOffset : UInt16
  deriving Repr, DecidableEq

/-- The facts of an entity. `lastProperty` is the property with the highest numeric ID among those
that are declared; `lastPropertyId` may belong to a retired one. -/
structure BindingEntity where
  name : String
  id : UInt32
  uid : UInt64
  idProperty : String
  lastProperty : String
  lastPropertyId : IdUid
  properties : List BindingProperty
  deriving Repr, DecidableEq

/-- The facts of a model, and the unit it was declared in. -/
structure Binding where
  nameSpace : String
  source : Option String
  entities : List BindingEntity
  deriving Repr, DecidableEq

/-! ## From a model -/

def BindingProperty.ofProperty (p : Property) : BindingProperty where
  name := p.shape.name
  nameInDb := p.shape.storageName
  sourceType := p.shape.typeName
  id := p.id.id
  uid := p.id.uid
  storageType := p.shape.mapping.storage
  wireType := p.shape.mapping.wire
  isOffset := p.shape.mapping.wire.isOffset
  flags := p.shape.flags
  slot := p.id.id
  vtableOffset := p.vtableOffset

/-- The facts of an entity. An entity that was derived has an identifying and a last property. -/
def BindingEntity.ofEntity (e : Entity) : BindingEntity where
  name := e.name
  id := e.id.id
  uid := e.id.uid
  idProperty := e.idProperty?.elim "" Property.name
  lastProperty := e.lastProperty?.elim "" Property.name
  lastPropertyId := e.lastPropertyId
  properties := e.properties.map .ofProperty

def Binding.ofModel (model : Model) (source : Option String) : Binding :=
  ⟨model.nameSpace, source, model.entities.map .ofEntity⟩

/-- The first entity of a name. -/
def Binding.entity? (binding : Binding) (name : String) : Option BindingEntity :=
  binding.entities.find? (·.name = name)

/-! ## As JSON -/

def BindingProperty.json (p : BindingProperty) : Json :=
  .object [("name", .text p.name), ("nameInDb", .text p.nameInDb),
    ("sourceType", .text p.sourceType), ("id", .natural p.id.toNat), ("uid", .natural p.uid.toNat),
    ("storageType", .text p.storageType.name), ("wireType", .text p.wireType.name),
    ("isOffset", .bool p.isOffset), ("flags", Json.texts (p.flags.map PropertyFlag.name)),
    ("slot", .natural p.slot.toNat), ("vtableOffset", .natural p.vtableOffset.toNat)]

def BindingEntity.json (e : BindingEntity) : Json :=
  .object [("name", .text e.name), ("id", .natural e.id.toNat), ("uid", .natural e.uid.toNat),
    ("idProperty", .text e.idProperty), ("lastProperty", .text e.lastProperty),
    ("lastPropertyId", .text e.lastPropertyId.render),
    ("properties", .list (e.properties.map BindingProperty.json))]

/-- The binding as JSON; an unknown unit is left out. -/
def Binding.json (b : Binding) : Json :=
  .object ([("namespace", .text b.nameSpace)] ++
    (b.source.map fun s => ("source", Json.text s)).toList ++
    [("entities", .list (b.entities.map BindingEntity.json))])

/-- The text of a binding file: the indented layout and a final line end. -/
def Binding.fileText (b : Binding) : String := b.json.pretty ++ "\n"

end RecordSchema
