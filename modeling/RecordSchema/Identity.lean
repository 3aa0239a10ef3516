/-
Numeric IDs and UIDs.

An entity has a numeric ID of 24 bits and a UID of 64; a property has a numeric ID that is small
within its entity and a UID that is its entity's UID scaled up by ten thousand plus that ID. A pair
is written `id:uid`.

A UID of a property is computed in checked steps: each is taken as a number, and one that does not
fit its word ends the computation.
-/
import RecordSchema.Hash
import RecordSchema.Text.Decimal
import RecordSchema.Text.LowerCase

set_option autoImplicit false

namespace RecordSchema

open Text

/-! ## Pairs -/

/-- A numeric ID with its UID. -/
structure IdUid where
  id : UInt32
  uid : UInt64
  deriving Repr, DecidableEq, Inhabited

/-- A text that is no `id:uid` pair. -/
structure MalformedIdUid where
  text : String
  deriving Repr, DecidableEq

def MalformedIdUid.message (e : MalformedIdUid) : String :=
  "invalid id:uid pair '" ++ e.text ++ "'"

/-- The written form: both numbers in decimal with a colon between them. -/
def IdUid.render (x : IdUid) : String :=
  String.ofList (Decimal.render x.id.toNat ++ ':' :: Decimal.render x.uid.toNat)

/-- The two parts of a text around its first colon. -/
def splitColon? (cs : List Char) : Option (List Char × List Char) :=
  match cs.dropWhile (· ≠ ':') with
  | _ :: after => some (cs.takeWhile (· ≠ ':'), after)
  | [] => none

/-- The pair a text writes, if both of its numbers are numerals that fit their words. -/
def IdUid.read? (s : String) : Option IdUid := do
  let (id, uid) ← splitColon? s.toList
  let id ← Decimal.read? UInt32.size id
  let uid ← Decimal.read? UInt64.size uid
  return ⟨UInt32.ofNat id, UInt64.ofNat uid⟩

/-- Reading with the offending text in the refusal. -/
def IdUid.parse (s : String) : Except MalformedIdUid IdUid :=
  match IdUid.read? s with
  | some x => .ok x
  | none => .error ⟨s⟩

/-! ## Strategies -/

/-- How an entity that was never recorded gets its numeric ID: from the high bits of its hash, or as
the successor of the highest ID ever issued. -/
inductive IdStrategy where
  | hashed
  | sequential
  deriving Repr, DecidableEq, Inhabited

def IdStrategy.all : List IdStrategy := [.hashed, .sequential]

/-- The name in configuration files and on the command line. -/
def IdStrategy.name : IdStrategy → String
  | .hashed => "hashed"
  | .sequential => "sequential"

/-- The strategy of a name written exactly. -/
def IdStrategy.ofName? (s : String) : Option IdStrategy := all.find? (·.name = s)

/-- The strategy of a name in any ASCII case. -/
def IdStrategy.read? (s : String) : Option IdStrategy :=
  all.find? (·.name.toList = lowerAscii s.toList)

/-! ## Ranges -/

/-- The highest numeric ID of an entity: 24 bits. -/
def maxEntityId : Nat := 0xFFFFFF

/-- The room that a UID of an entity leaves for the UIDs of its properties. -/
def uidScale : Nat := 10000

/-- The numeric ID that the hash of an entity gives it: its high 24 bits. -/
def hashedEntityId (hash : UInt64) : UInt32 := (hash >>> 40).toUInt32

/-- The UID of an entity: its hash, scaled down to leave room for the properties. -/
def entityUid (hash : UInt64) : UInt64 := hash / UInt64.ofNat uidScale

/-- What a checked step on words of a given size answers: its result as a number, if there is a
word for it. -/
def checked? (size n : Nat) : Option Nat := if n < size then some n else none

/-- The UID of a property: the UID of its entity scaled up, and its number added to that. -/
def propertyUid? (entity : UInt64) (property : UInt32) : Option UInt64 := do
  let scaled ← checked? UInt64.size (entity.toNat * uidScale)
  let uid ← checked? UInt64.size (scaled + property.toNat)
  return UInt64.ofNat uid

/-! ## Refusals -/

/-- Why identifiers could not be given. -/
inductive IdentityError where
  | duplicateEntity (entity : String)
  | entityIdCollision (entity : String) (id : UInt32) (other : String)
  | entityIdExhausted (last : UInt32)
  | uidCollision (uid : UInt64) (owner other : String)
  | uidOverflow (entity property : String) (entityUid : UInt64)
  deriving Repr, DecidableEq

def IdentityError.message : IdentityError → String
  | .duplicateEntity entity => "entity " ++ entity ++ " is declared more than once"
  | .entityIdCollision entity id other =>
    "entity " ++ entity ++ " numeric ID " ++ toString id ++ " collides with entity " ++ other
  | .entityIdExhausted last => "no free entity numeric ID left after " ++ toString last
  | .uidCollision uid owner other =>
    "UID " ++ toString uid ++ " of " ++ owner ++ " collides with " ++ other
  | .uidOverflow entity property uid =>
    "property " ++ property ++ " of entity " ++ entity ++
      " has no room for a UID below entity UID " ++ toString uid

end RecordSchema
