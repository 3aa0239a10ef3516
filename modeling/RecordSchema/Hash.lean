/-
The 64-bit FNV-1a hash of entity names.

Every identifier of a new entity descends from this hash and is written to the model file, so its
two constants are part of the file format and may never change. A step of the hash is a permutation
of the 64-bit states: an exclusive or with a byte, then a product with an odd number. That is why
texts with a common end collide only if their beginnings do.
-/

set_option autoImplicit false

namespace RecordSchema

/-! ## Bytes of a text -/

/-- The bytes of a text in UTF-8. -/
def utf8Bytes (s : String) : List UInt8 := s.toList.flatMap String.utf8EncodeChar

namespace Hash

/-! ## One byte string -/

/-- The state before the first byte. -/
def offsetBasis : UInt64 := 0xcbf29ce484222325

/-- The multiplier of a step. -/
def prime : UInt64 := 0x100000001b3

/-- The state after one more byte. -/
def absorb (state : UInt64) (byte : UInt8) : UInt64 := (state ^^^ byte.toUInt64) * prime

/-- The hash of a byte string. -/
def fnv1a (bytes : List UInt8) : UInt64 := bytes.foldl absorb offsetBasis

/-! ## A byte string that arrives in chunks -/

/-- A hash in progress: the state after everything written so far. -/
structure Hasher where
  state : UInt64
  deriving Repr, DecidableEq

/-- The hasher that nothing was written to. -/
def Hasher.new : Hasher := ⟨offsetBasis⟩

/-- The hasher after one more chunk. -/
def Hasher.write (hasher : Hasher) : List UInt8 → Hasher
  | [] => hasher
  | byte :: rest => Hasher.write ⟨absorb hasher.state byte⟩ rest

/-- The states after each of a list of chunks. -/
def Hasher.states (hasher : Hasher) : List (List UInt8) → List UInt64
  | [] => []
  | chunk :: rest => (hasher.write chunk).state :: (hasher.write chunk).states rest

/-! ## Entities -/

/-- The raw hash of an entity: namespace and name with one space between them, which keeps the two
apart. -/
def entityHash (modelNamespace name : String) : UInt64 :=
  let seeded := (Hasher.new.write (utf8Bytes modelNamespace)).write (utf8Bytes " ")
  (seeded.write (utf8Bytes name)).state

end Hash

end RecordSchema
