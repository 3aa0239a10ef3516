/-
Shapes of entities: what a declaration says before any identifier is given.

Flags are never set by hand. They are computed from the capabilities, in one fixed order, so a
property's flags and its capabilities cannot disagree.
-/
import RecordSchema.Column

set_option autoImplicit false

namespace RecordSchema

open Tag

/-! ## Declarations -/

/-- A field as it was declared: its name, the text of its type and its tag, and its position. -/
structure Field where
  index : Nat
  name : String
  typeName : String
  tag : String
  deriving Repr, DecidableEq

/-- A declared entity. -/
structure Declaration where
  name : String
  fields : List Field
  deriving Repr, DecidableEq

/-- The declaration of fields given as name, type and tag, numbered from zero. -/
def Declaration.ofParts (name : String) (parts : List (String × String × String)) : Declaration :=
  ⟨name, parts.mapIdx fun i part => ⟨i, part.1, part.2.1, part.2.2⟩⟩

/-! ## Flags -/

/-- What generated code is told about a property. -/
inductive PropertyFlag where
  | id
  | indexed
  | indexValue
  | indexHash
  | indexHash64
  | unique
  deriving Repr, DecidableEq

def PropertyFlag.name : PropertyFlag → String
  | .id => "ID"
  | .indexed => "INDEXED"
  | .indexValue => "INDEX_VALUE"
  | .indexHash => "INDEX_HASH"
  | .indexHash64 => "INDEX_HASH64"
  | .unique => "UNIQUE"

/-- The flags of an index: that there is one, and its kind unless that is the default. -/
def PropertyFlag.ofIndex : IndexKind → List PropertyFlag
  | .default => [.indexed]
  | .value => [.indexed, .indexValue]
  | .hash => [.indexed, .indexHash]
  | .hash64 => [.indexed, .indexHash64]

/-- The flags that a set of capabilities implies. -/
def PropertyFlag.ofCapabilities (caps : Capabilities) : List PropertyFlag :=
  (if caps.isId then [.id] else []) ++ caps.index?.elim [] PropertyFlag.ofIndex ++
    (if caps.isUnique then [.unique] else [])

/-! ## Shapes -/

/-- A field whose type and tag have been resolved. -/
structure PropertyShape where
  name : String
  storageName : String
  typeName : String
  capabilities : Capabilities
  mapping : TypeMapping
  deriving Repr, DecidableEq

def PropertyShape.flags (p : PropertyShape) : List PropertyFlag :=
  PropertyFlag.ofCapabilities p.capabilities

def PropertyShape.isId (p : PropertyShape) : Bool := p.flags.contains .id

/-- An entity whose properties have been resolved, transient fields left out. `idIndex` is the
position of the identifying property. -/
structure EntityShape where
  name : String
  properties : List PropertyShape
  idIndex : Nat
  deriving Repr, DecidableEq

/-- The identifying property. -/
def EntityShape.idProperty? (shape : EntityShape) : Option PropertyShape :=
  shape.properties[shape.idIndex]?

end RecordSchema
