/-
Column types.

A field's type text stands for a pair: the storage type recorded in the model and the wire type of
the slot. The table is fixed and deliberately uneven (a signed byte is widened to a short, an
unsigned one stays a byte), because models in use depend on it. Two capabilities bear on the pair:
`date` turns a long into a date, `id` insists on a long.
-/
import RecordSchema.Tag.Capability

set_option autoImplicit false

namespace RecordSchema

open Text Tag

/-! ## The two kinds of type -/

/-- The type of a column in the model. -/
inductive StorageType where
  | bool
  | byte
  | byteVector
  | date
  | double
  | float
  | int
  | long
  | short
  | string
  deriving Repr, DecidableEq

def StorageType.all : List StorageType :=
  [.bool, .byte, .byteVector, .date, .double, .float, .int, .long, .short, .string]

def StorageType.name : StorageType → String
  | .bool => "Bool"
  | .byte => "Byte"
  | .byteVector => "ByteVector"
  | .date => "Date"
  | .double => "Double"
  | .float => "Float"
  | .int => "Int"
  | .long => "Long"
  | .short => "Short"
  | .string => "String"

/-- The encoding of a slot. `uOffsetT` marks a value stored out of line behind an offset. -/
inductive WireType where
  | bool
  | byte
  | float32
  | float64
  | int8
  | int16
  | int32
  | int64
  | uint16
  | uint32
  | uint64
  | uOffsetT
  deriving Repr, DecidableEq

def WireType.all : List WireType :=
  [.bool, .byte, .float32, .float64, .int8, .int16, .int32, .int64, .uint16, .uint32, .uint64,
    .uOffsetT]

def WireType.name : WireType → String
  | .bool => "Bool"
  | .byte => "Byte"
  | .float32 => "Float32"
  | .float64 => "Float64"
  | .int8 => "Int8"
  | .int16 => "Int16"
  | .int32 => "Int32"
  | .int64 => "Int64"
  | .uint16 => "Uint16"
  | .uint32 => "Uint32"
  | .uint64 => "Uint64"
  | .uOffsetT => "UOffsetT"

/-- Whether the slot holds an offset to data stored elsewhere. -/
def WireType.isOffset : WireType → Bool
  | .uOffsetT => true
  | _ => false

/-! ## Names -/

/-- The storage type of a name written exactly. -/
def StorageType.ofName? (s : String) : Option StorageType := all.find? (·.name = s)

/-- The storage type of a name in any letter case. -/
def StorageType.read? (s : String) : Option StorageType :=
  all.find? fun t => lowerCase t.name.toList = lowerCase s.toList

/-- The wire type of a name written exactly. -/
def WireType.ofName? (s : String) : Option WireType := all.find? (·.name = s)

/-- The wire type of a name in any letter case. -/
def WireType.read? (s : String) : Option WireType :=
  all.find? fun t => lowerCase t.name.toList = lowerCase s.toList

/-! ## From type texts to columns -/

/-- How a field is stored. -/
structure TypeMapping where
  storage : StorageType
  wire : WireType
  deriving Repr, DecidableEq

/-- The types a field may have, each by its text without blanks. -/
def typeTable : List (String × TypeMapping) :=
  [("String", ⟨.string, .uOffsetT⟩), ("i64", ⟨.long, .int64⟩), ("u64", ⟨.long, .uint64⟩),
    ("i32", ⟨.int, .int32⟩), ("u32", ⟨.int, .uint32⟩), ("char", ⟨.int, .uint32⟩),
    ("i8", ⟨.short, .int8⟩), ("u8", ⟨.byte, .byte⟩), ("i16", ⟨.short, .int16⟩),
    ("u16", ⟨.short, .uint16⟩), ("f32", ⟨.float, .float32⟩), ("f64", ⟨.double, .float64⟩),
    ("Vec<u8>", ⟨.byteVector, .uOffsetT⟩), ("bool", ⟨.bool, .bool⟩)]

/-- Why a field has no column. -/
inductive TypeError where
  | dateRequiresLong (storage : StorageType)
  | idRequiresLong (storage : StorageType)
  | unknown (typeName : String)
  deriving Repr, DecidableEq

def TypeError.message : TypeError → String
  | .dateRequiresLong storage =>
    "invalid underlying type (" ++ storage.name ++ ") for date field"
  | .idRequiresLong storage => "invalid underlying type (" ++ storage.name ++ ") for id field"
  | .unknown typeName => "unknown type " ++ typeName

/-- The mapping of a type text. -/
def mapType (typeName : String) : Except TypeError TypeMapping :=
  match typeTable.lookup typeName with
  | some mapping => .ok mapping
  | none => .error (.unknown typeName)

/-- A date is a long with the same wire type; any other storage type refuses to be one. -/
def TypeMapping.asDate (mapping : TypeMapping) : Except TypeError TypeMapping :=
  if mapping.storage = .long then .ok { mapping with storage := .date }
  else .error (.dateRequiresLong mapping.storage)

/-- An identifier must be a long, which a date no longer is. -/
def TypeMapping.asId (mapping : TypeMapping) : Except TypeError TypeMapping :=
  if mapping.storage = .long then .ok mapping else .error (.idRequiresLong mapping.storage)

/-- The mapping of a type text under a field's capabilities; `date` is applied before `id`. -/
def resolveType (typeName : String) (caps : Capabilities) : Except TypeError TypeMapping := do
  let mapping ← mapType typeName
  let mapping ← if caps.isDate then mapping.asDate else .ok mapping
  if caps.isId then mapping.asId else .ok mapping

end RecordSchema
