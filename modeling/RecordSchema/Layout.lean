/-
Slot offsets.

A stored record starts with a table of offsets: a header of four bytes, then one slot of two bytes
for each property, addressed by its numeric ID. An offset has 16 bits, so an ID above 32765 has no
slot.
-/
import RecordSchema.Identity

set_option autoImplicit false

namespace RecordSchema

/-- Bytes before the first slot. -/
def vtableHeaderBytes : Nat := 4

/-- Bytes of one slot. -/
def vtableSlotBytes : Nat := 2

/-- The highest property ID that has a slot. -/
def maxPropertyId : Nat := (UInt16.size - 1 - vtableHeaderBytes) / vtableSlotBytes

/-- Why a property has no slot. -/
inductive LayoutError where
  | overflow (id : UInt32)
  deriving Repr, DecidableEq

def LayoutError.message : LayoutError → String
  | .overflow id =>
    "can't calculate vtable offset: property ID " ++ toString id ++ " is too large (max " ++
      toString maxPropertyId ++ ")"

/-- The offset of a slot: the slots before it and the header are added up in 32 bits, and the sum
has to fit 16. -/
def vtableOffset? (id : UInt32) : Option UInt16 := do
  let slots ← checked? UInt32.size (id.toNat * vtableSlotBytes)
  let sum ← checked? UInt32.size (slots + vtableHeaderBytes)
  let offset ← checked? UInt16.size sum
  return UInt16.ofNat offset

/-- The offset of the slot of a property. -/
def vtableOffset (id : UInt32) : Except LayoutError UInt16 :=
  match vtableOffset? id with
  | some offset => .ok offset
  | none => .error (.overflow id)

end RecordSchema
