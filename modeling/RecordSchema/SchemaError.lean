/-
Why a schema could not be derived.

An error names its cause as data. The wording is one function, and the coarse kind another, so that
a caller can tell the causes apart without reading text.
-/
import RecordSchema.Column
import RecordSchema.Layout
import RecordSchema.Snapshot.Consistency

set_option autoImplicit false

namespace RecordSchema

open Tag

/-- What is wrong with a declared entity as a whole. -/
inductive EntityError where
  | duplicateId (entity first second : String)
  | duplicateStorageName (entity name first second : String)
  | emptyStorageName (entity property : String)
  | missingId (entity : String)
  | noProperties (entity : String)
  deriving Repr, DecidableEq

def EntityError.message : EntityError → String
  | .duplicateId entity first second =>
    "struct " ++ entity ++ " has multiple ID properties - " ++ first ++ " and " ++ second
  | .duplicateStorageName entity name first second =>
    "storage name " ++ name ++ " is used by both " ++ first ++ " and " ++ second ++
      " in entity " ++ entity
  | .emptyStorageName entity property =>
    "nameInDb annotation value must not be empty on property " ++ property ++ ", entity " ++ entity
  | .missingId entity => "field annotated `id` is missing on entity " ++ entity
  | .noProperties entity => "there are no properties in the entity " ++ entity

/-- What is wrong with one property. -/
inductive PropertyError where
  | layout (cause : LayoutError)
  | tag (cause : TagError)
  | type (cause : TypeError)
  deriving Repr, DecidableEq

def PropertyError.message : PropertyError → String
  | .layout cause => cause.message
  | .tag cause => cause.message
  | .type cause => cause.message

/-- Why a schema could not be derived. -/
inductive SchemaError where
  | entity (cause : EntityError)
  | identity (cause : IdentityError)
  | property (within name : String) (cause : PropertyError)
  | snapshot (cause : SnapshotError)
  deriving Repr, DecidableEq

def SchemaError.message : SchemaError → String
  | .entity cause => cause.message
  | .identity cause => cause.message
  | .property within name cause => cause.message ++ " on property " ++ name ++ ", entity " ++ within
  | .snapshot cause => cause.message

/-- The coarse kind of an error. -/
inductive ErrorKind where
  | entityShape
  | identifierCollision
  | layoutOverflow
  | snapshot
  | tagFormat
  | typeResolution
  deriving Repr, DecidableEq

/-- The kind of an error. An entity declared twice is a fault of the declarations, not a collision
of identifiers. -/
def SchemaError.kind : SchemaError → ErrorKind
  | .entity _ => .entityShape
  | .identity (.duplicateEntity _) => .entityShape
  | .identity _ => .identifierCollision
  | .property _ _ (.layout _) => .layoutOverflow
  | .property _ _ (.tag _) => .tagFormat
  | .property _ _ (.type _) => .typeResolution
  | .snapshot _ => .snapshot

end RecordSchema
