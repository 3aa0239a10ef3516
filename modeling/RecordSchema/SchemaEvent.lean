/-
What happens while a schema is derived.

Events are data, one constructor for each thing worth telling, so that a statement about them need
not look into text. Their log records are computed here.
-/
import RecordSchema.Column
import RecordSchema.Identity
import RecordSchema.Log.Record

set_option autoImplicit false

namespace RecordSchema

open Log

/-- An event of a derivation. -/
inductive SchemaEvent where
  | skippingTransientField (entity property : String)
  | resolvedProperty (entity property : String) (mapping : TypeMapping)
  | revivingEntity (entity : String) (id : IdUid)
  | revivingProperty (entity property : String)
  | reusingPropertyId (entity property : String) (id : IdUid)
  | mintedPropertyId (entity property : String) (id : IdUid)
  | retiringProperty (entity property : String)
  | reusingEntityId (entity : String) (id : IdUid)
  | mintedEntityId (entity : String) (id : IdUid) (properties : Nat)
  | derivedModel (nameSpace : String) (entities : Nat)
  | retiringEntity (entity : String) (id : IdUid)
  deriving Repr, DecidableEq

/-- The part of the program that builds entities from declarations. -/
private def buildTarget : String := "flatschema_schema::build"

/-- The part of the program that assigns identifiers. -/
private def assignTarget : String := "flatschema_schema::identity::assign"

/-- The log record of an event. -/
def SchemaEvent.record : SchemaEvent → Record
  | .skippingTransientField entity property =>
    ⟨.debug, buildTarget, "skipping transient field",
      [("entity", .quoted entity), ("property", .plain property)]⟩
  | .resolvedProperty entity property mapping =>
    ⟨.debug, buildTarget, "resolved property",
      [("entity", .quoted entity), ("property", .plain property),
        ("storage", .plain mapping.storage.name), ("wire", .plain mapping.wire.name)]⟩
  | .revivingEntity entity id =>
    ⟨.info, assignTarget, "reviving retired entity",
      [("entity", .plain entity), ("id", .plain id.render)]⟩
  | .revivingProperty entity property =>
    ⟨.info, assignTarget, "reviving retired property",
      [("entity", .plain entity), ("property", .plain property)]⟩
  | .reusingPropertyId entity property id =>
    ⟨.debug, assignTarget, "reusing property id",
      [("entity", .plain entity), ("property", .plain property), ("id", .plain id.render)]⟩
  | .mintedPropertyId entity property id =>
    ⟨.debug, assignTarget, "minted property id",
      [("entity", .plain entity), ("property", .plain property), ("id", .plain id.render)]⟩
  | .retiringProperty entity property =>
    ⟨.warn, assignTarget, "retiring property",
      [("entity", .plain entity), ("property", .plain property)]⟩
  | .reusingEntityId entity id =>
    ⟨.debug, assignTarget, "reusing entity id",
      [("entity", .plain entity), ("id", .plain id.render)]⟩
  | .mintedEntityId entity id properties =>
    ⟨.debug, assignTarget, "minted entity id",
      [("entity", .plain entity), ("id", .plain id.render), ("properties", .count properties)]⟩
  | .derivedModel nameSpace entities =>
    ⟨.info, buildTarget, "derived model",
      [("namespace", .quoted nameSpace), ("entities", .count entities)]⟩
  | .retiringEntity entity id =>
    ⟨.warn, assignTarget, "retiring entity",
      [("entity", .plain entity), ("id", .plain id.render)]⟩

end RecordSchema
