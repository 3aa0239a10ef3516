/-
Models: entities whose identifiers and slots are settled.
-/
import RecordSchema.Entity.Shape
import RecordSchema.Identity

set_option autoImplicit false

namespace RecordSchema

/-- A property with its identifier and the offset of its slot. -/
structure Property where
  shape : PropertyShape
  id : IdUid
  vtableOffset : UInt16
  deriving Repr, DecidableEq

def Property.name (p : Property) : String := p.shape.name

/-- An entity with its identifier. `lastPropertyId` is the highest property identifier ever issued
in it, retired properties included. -/
structure Entity where
  name : String
  id : IdUid
  properties : List Property
  idIndex : Nat
  lastPropertyId : IdUid
  deriving Repr, DecidableEq

namespace Entity

/-- The identifying property. -/
def idProperty? (entity : Entity) : Option Property := entity.properties[entity.idIndex]?

/-- The property with the highest numeric ID; of several the last. -/
def lastProperty? (entity : Entity) : Option Property :=
  entity.properties.foldl
    (fun best p =>
      match best with
      | some b => if p.id.id < b.id.id then some b else some p
      | none => some p)
    none

/-- The first property of a name. -/
def property? (entity : Entity) (name : String) : Option Property :=
  entity.properties.find? (·.name = name)

end Entity

/-- The entities derived in one run, under the namespace that their hashes were mixed with. -/
structure Model where
  nameSpace : String
  entities : List Entity
  deriving Repr, DecidableEq

end RecordSchema
