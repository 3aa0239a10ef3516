/-
The ledger of UIDs.

A UID names one entity or one property for ever, so everything that holds one is entered here, and
a second owner for a UID already held is refused with the name of the first.
-/

set_option autoImplicit false

namespace RecordSchema

/-- What can hold a UID. -/
inductive Owner where
  | entity (name : String)
  | property (within name : String)
  deriving Repr, DecidableEq

/-- The owner as messages name it. -/
def Owner.label : Owner → String
  | .entity name => "entity " ++ name
  | .property within name => "property " ++ within ++ "." ++ name

/-- The UIDs that are held and by whom, the latest entry first. -/
abbrev Ledger := List (UInt64 × Owner)

namespace Ledger

/-- The owner of a UID; the latest entry counts. -/
def owner? (ledger : Ledger) (uid : UInt64) : Option Owner := ledger.lookup uid

/-- The ledger with one more entry, whatever was entered before. -/
def enter (ledger : Ledger) (uid : UInt64) (owner : Owner) : Ledger := (uid, owner) :: ledger

/-- The ledger with a new entry, or the owner that has the UID already. -/
def claim (ledger : Ledger) (uid : UInt64) (owner : Owner) : Except Owner Ledger :=
  match ledger.owner? uid with
  | some holder => .error holder
  | none => .ok (ledger.enter uid owner)

/-- A claim succeeds exactly when nobody holds the UID, and then enters it. -/
theorem claim_eq_ok_iff {ledger : Ledger} {uid : UInt64} {owner : Owner} {after : Ledger} :
    ledger.claim uid owner = .ok after ↔
      ledger.owner? uid = none ∧ after = ledger.enter uid owner := by
  unfold claim
  split <;> rename_i h
  · simp [h]
  · simp [h, eq_comm]

end Ledger

end RecordSchema
