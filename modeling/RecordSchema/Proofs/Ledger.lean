/-
What a ledger holds.

Whether a claim succeeds does not depend on who owns a UID: only on which UIDs are held. So a ledger
is read here through the list of its UIDs alone, and a claim is a key that is new to that list.
-/
import RecordSchema.Assigner
import RecordSchema.Proofs.Keys

set_option autoImplicit false

namespace RecordSchema

/-! ## The UIDs of records -/

/-- The UIDs that an entity and its properties hold, retired ones included. -/
def EntityRecord.uids (e : EntityRecord) : List UInt64 := e.id.uid :: e.properties.map (·.id.uid)

/-- Every UID that a snapshot records. -/
def Snapshot.uids (s : Snapshot) : List UInt64 := s.entities.flatMap EntityRecord.uids

/-- The owners of a record with their identifiers. -/
def EntityRecord.owned (e : EntityRecord) : List (Owner × IdUid) :=
  (.entity e.name, e.id) :: e.properties.map fun p => (.property e.name p.name, p.id)

/-- All owners of a snapshot with their identifiers, retired ones included. -/
def Snapshot.owned (s : Snapshot) : List (Owner × IdUid) := s.entities.flatMap EntityRecord.owned

/-- The UIDs of the owners are those of the record, in the same order. -/
theorem EntityRecord.map_uid_owned (e : EntityRecord) : e.owned.map (·.2.uid) = e.uids := by
  simp [EntityRecord.owned, EntityRecord.uids]

/-- The UIDs of the owners are those of the snapshot, in the same order. -/
theorem Snapshot.map_uid_owned (s : Snapshot) : s.owned.map (·.2.uid) = s.uids := by
  rw [Snapshot.owned, Snapshot.uids, List.map_flatMap]
  exact List.flatMap_congr fun e _ => e.map_uid_owned

namespace Ledger

/-! ## The UIDs of a ledger -/

/-- The UIDs that a ledger holds, the latest first. -/
def uids (ledger : Ledger) : List UInt64 := ledger.map (·.1)

@[simp] theorem uids_enter (ledger : Ledger) (uid : UInt64) (owner : Owner) :
    (ledger.enter uid owner).uids = uid :: ledger.uids := rfl

theorem owner?_eq_none_iff {ledger : Ledger} {uid : UInt64} :
    ledger.owner? uid = none ↔ uid ∉ ledger.uids :=
  lookup_eq_none_iff_notMem

/-! ## Claims -/

/-- A run can mint exactly the UIDs that its ledger does not hold. -/
theorem mint_eq_ok_iff {ledger after : Ledger} {uid : UInt64} {owner : Owner} :
    ledger.mint uid owner = .ok after ↔ uid ∉ ledger.uids ∧ after = ledger.enter uid owner := by
  rw [← owner?_eq_none_iff, ← claim_eq_ok_iff, mint]
  cases ledger.claim uid owner <;> simp

/-- The check of a snapshot accepts exactly the UIDs that no record before held. -/
theorem record_eq_ok_iff {ledger after : Ledger} {uid : UInt64} {owner : Owner} :
    ledger.record uid owner = .ok after ↔ uid ∉ ledger.uids ∧ after = ledger.enter uid owner := by
  rw [← owner?_eq_none_iff, ← claim_eq_ok_iff, record]
  cases ledger.claim uid owner <;> simp

/-! ## Entering records -/

/-- Enters the UIDs of properties of one entity. -/
def enterProperties (ledger : Ledger) (entity : String) (ps : List PropertyRecord) : Ledger :=
  ps.foldl (fun ledger p => ledger.enter p.id.uid (.property entity p.name)) ledger

@[simp] theorem enterProperties_nil (ledger : Ledger) (entity : String) :
    ledger.enterProperties entity [] = ledger := rfl

@[simp] theorem enterProperties_cons (ledger : Ledger) (entity : String) (p : PropertyRecord)
    (ps : List PropertyRecord) :
    ledger.enterProperties entity (p :: ps) =
      (ledger.enter p.id.uid (.property entity p.name)).enterProperties entity ps := rfl

theorem uids_enterProperties (ledger : Ledger) (entity : String) (ps : List PropertyRecord) :
    (ledger.enterProperties entity ps).uids = (ps.map (·.id.uid)).reverse ++ ledger.uids := by
  induction ps generalizing ledger with
  | nil => rfl
  | cons p ps ih => rw [enterProperties_cons, ih]; simp

theorem enterRecord_eq (ledger : Ledger) (e : EntityRecord) :
    ledger.enterRecord e =
      (ledger.enter e.id.uid (.entity e.name)).enterProperties e.name e.properties := rfl

theorem uids_enterRecord (ledger : Ledger) (e : EntityRecord) :
    (ledger.enterRecord e).uids = e.uids.reverse ++ ledger.uids := by
  rw [enterRecord_eq, uids_enterProperties, EntityRecord.uids]
  simp

theorem uids_foldl_enterRecord (ledger : Ledger) (es : List EntityRecord) :
    (es.foldl enterRecord ledger).uids = (es.flatMap EntityRecord.uids).reverse ++ ledger.uids := by
  induction es generalizing ledger with
  | nil => rfl
  | cons e es ih => rw [List.foldl_cons, ih, uids_enterRecord]; simp

/-- The ledger of a snapshot holds the UIDs that it records. -/
theorem uids_ofSnapshot (s : Snapshot) : (ofSnapshot s).uids = s.uids.reverse := by
  rw [ofSnapshot, uids_foldl_enterRecord]
  exact List.append_nil _

end Ledger

end RecordSchema
