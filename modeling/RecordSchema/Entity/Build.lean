/-
Building an entity from its declaration.

The fields are taken in order, each against the properties that came before it, and the first field
that fails ends the build. Within a field the checks have a fixed order: tag, type, empty storage
name, storage name already used, second identifier. A transient field is dropped as soon as its tag
has been read, so neither its type nor its other capabilities can matter.
-/
import RecordSchema.Entity.Shape
import RecordSchema.SchemaError
import RecordSchema.SchemaEvent

set_option autoImplicit false

namespace RecordSchema

open Tag

/-! ## One field -/

/-- The storage name of a field: the override if there is one, else the field's own name. An empty
override is refused. -/
def Field.storageName (entity : String) (field : Field) (caps : Capabilities) :
    Except SchemaError String :=
  match caps.nameInDb? with
  | some name =>
    if name = "" then .error (.entity (.emptyStorageName entity field.name)) else .ok name
  | none => .ok field.name

/-- The property a field becomes after the properties `before`, or nothing for a transient field. -/
def Field.resolve (entity : String) (before : List PropertyShape) (field : Field) :
    Except SchemaError (Option PropertyShape) := do
  let caps ← (Capabilities.parse field.tag).mapError fun e => .property entity field.name (.tag e)
  if caps.isTransient then
    return none
  let mapping ← (resolveType field.typeName caps).mapError fun e =>
    .property entity field.name (.type e)
  let storageName ← field.storageName entity caps
  match before.find? (·.storageName = storageName) with
  | some other =>
    throw (.entity (.duplicateStorageName entity storageName other.name field.name))
  | none => pure ()
  if caps.isId then
    match before.find? (·.isId) with
    | some first => throw (.entity (.duplicateId entity first.name field.name))
    | none => pure ()
  return some ⟨field.name, storageName, field.typeName, caps, mapping⟩

/-- What is told of a field that did not fail. -/
def Field.event (entity : String) (field : Field) : Option PropertyShape → SchemaEvent
  | none => .skippingTransientField entity field.name
  | some p => .resolvedProperty entity field.name p.mapping

/-! ## All fields -/

/-- The properties that fields become after the properties `before`, with what is told on the
way. -/
def Field.resolveAll (entity : String) (before : List PropertyShape) :
    List Field → List SchemaEvent × Except SchemaError (List PropertyShape)
  | [] => ([], .ok before)
  | field :: rest =>
    match field.resolve entity before with
    | .error e => ([], .error e)
    | .ok property =>
      let more := resolveAll entity (before ++ property.toList) rest
      (field.event entity property :: more.1, more.2)

/-- The shape of an entity with given properties. There must be one, and one must be the
identifier. -/
def EntityShape.ofProperties (name : String) (properties : List PropertyShape) :
    Except SchemaError EntityShape :=
  if properties.isEmpty then
    .error (.entity (.noProperties name))
  else
    match properties.findIdx? (·.isId) with
    | none => .error (.entity (.missingId name))
    | some i => .ok ⟨name, properties, i⟩

namespace Declaration

/-- The shape of a declared entity. -/
def build (declaration : Declaration) : Except SchemaError EntityShape := do
  let properties ← (Field.resolveAll declaration.name [] declaration.fields).2
  EntityShape.ofProperties declaration.name properties

/-- What is told while the shape is built, up to the field that fails. -/
def buildEvents (declaration : Declaration) : List SchemaEvent :=
  (Field.resolveAll declaration.name [] declaration.fields).1

/-- The shapes of declared entities, up to the first that has none. -/
def buildAll : List Declaration → Except SchemaError (List EntityShape)
  | [] => .ok []
  | declaration :: rest => do
    let shape ← declaration.build
    let shapes ← buildAll rest
    return shape :: shapes

/-- What is told while shapes are built, up to the declaration that fails. -/
def buildAllEvents : List Declaration → List SchemaEvent
  | [] => []
  | declaration :: rest =>
    declaration.buildEvents ++
      match declaration.build with
      | .ok _ => buildAllEvents rest
      | .error _ => []

end Declaration

end RecordSchema
