/-
What the minting of a new entity comes to.

`mint_of_ok` says that an entity which was never recorded and is not refused has got the identifier
that the merge issues to it, is recorded as `EntityRecord.fresh`, and holds a numeric ID and UIDs
that nothing held before.
-/
import RecordSchema.Proofs.Extension

set_option autoImplicit false

namespace RecordSchema

/-! ## Properties of a new entity -/

namespace Ledger

theorem mintProperties_cons_of_ok {ledger after : Ledger} {entity name : String} {uid : UInt64}
    {position : Nat} {names : List String} {records : List PropertyRecord}
    (h : ledger.mintProperties entity uid position (name :: names) = (after, .ok records)) :
    ∃ id : UInt64, ∃ more, id.toNat = uid.toNat * uidScale + (positionalId position).toNat ∧
      id ∉ ledger.uids ∧
      (ledger.enter id (.property entity name)).mintProperties entity uid (position + 1) names =
        (after, .ok more) ∧
      records = ⟨⟨positionalId position, id⟩, name, false⟩ :: more := by
  rw [mintProperties] at h
  cases huid : propertyUid? uid (positionalId position) with
  | none =>
      rw [huid] at h
      cases h
  | some id =>
      rw [huid] at h
      dsimp only at h
      cases hledger : ledger.mint id (.property entity name) with
      | error e =>
          rw [hledger] at h
          cases h
      | ok next =>
          rw [hledger] at h
          dsimp only at h
          obtain ⟨hfree, rfl⟩ := mint_eq_ok_iff.mp hledger
          obtain ⟨hafter, hrecords⟩ := Prod.mk.inj h
          refine ⟨id, ?_⟩
          cases hmore : (mintProperties (ledger.enter id (.property entity name)) entity uid
              (position + 1) names).2 with
          | error e =>
              rw [hmore] at hrecords
              cases hrecords
          | ok more =>
              rw [hmore] at hrecords
              cases hrecords
              exact ⟨more, propertyUid?_eq_some_iff.mp huid, hfree, Prod.ext hafter hmore, rfl⟩

/-- What minting properties without a refusal has done. -/
structure MintsProperties (ledger : Ledger) (entity : String) (uid : UInt64) (position : Nat)
    (names : List String) (records : List PropertyRecord) (after : Ledger) : Prop where
  numberable : Numberable uid position names.length
  numbered : records = PropertyRecord.numbered uid position names
  newTo : NewTo ledger.uids (records.map (·.id.uid))
  entered : after = ledger.enterProperties entity records

theorem mintsProperties_nil (ledger : Ledger) (entity : String) (uid : UInt64) (position : Nat) :
    MintsProperties ledger entity uid position [] [] ledger :=
  ⟨fun k hk => absurd hk (Nat.not_lt_zero k), rfl, newTo_nil _, rfl⟩

/-- At the highest word a further property would claim the same UID again, so there is none. -/
private theorem names_eq_nil_of_highest {ledger after : Ledger} {entity : String} {uid : UInt64}
    {position : Nat} {id : UInt64} {names : List String} {records : List PropertyRecord}
    (hposition : position + 1 = UInt32.size) (hid : id.toNat = uid.toNat * uidScale + position)
    (hheld : id ∈ ledger.uids)
    (h : ledger.mintProperties entity uid (position + 1) names = (after, .ok records)) :
    names = [] := by
  cases names with
  | nil => rfl
  | cons n ns =>
      obtain ⟨id', _, hid', hfree, -, -⟩ := mintProperties_cons_of_ok h
      have hsame : id' = id := by
        rw [← UInt64.toNat_inj, hid', hid, positionalId_toNat]
        omega
      rw [hsame] at hfree
      exact absurd hheld hfree

/-- Minting properties without a refusal numbers them from the position on, under UIDs that were
new. -/
theorem mintProperties_of_ok {ledger after : Ledger} {entity : String} {uid : UInt64}
    {position : Nat} {names : List String} {records : List PropertyRecord}
    (hposition : position < UInt32.size)
    (h : ledger.mintProperties entity uid position names = (after, .ok records)) :
    MintsProperties ledger entity uid position names records after := by
  induction names generalizing ledger position records with
  | nil =>
      rw [mintProperties] at h
      cases h
      exact mintsProperties_nil _ entity uid position
  | cons name names ih =>
      obtain ⟨id, more, hid, hfree, hmore, rfl⟩ := mintProperties_cons_of_ok h
      have hnumber : (positionalId position).toNat = position := by
        rw [positionalId_toNat]
        omega
      rw [hnumber] at hid
      have hrecord : (⟨⟨positionalId position, id⟩, name, false⟩ : PropertyRecord) =
          ⟨⟨UInt32.ofNat position, UInt64.ofNat (uid.toNat * uidScale + position)⟩, name,
            false⟩ := by
        rw [← hid, UInt64.ofNat_toNat, ← hnumber, UInt32.ofNat_toNat, hnumber]
      -- past the highest word positions would repeat, so the induction ends there
      have hrest : MintsProperties (ledger.enter id (.property entity name)) entity uid
          (position + 1) names more after := by
        by_cases hlt : position + 1 < UInt32.size
        · exact ih hlt hmore
        · have hnil := names_eq_nil_of_highest (by omega) hid List.mem_cons_self hmore
          subst hnil
          rw [mintProperties] at hmore
          cases hmore
          exact mintsProperties_nil _ entity uid (position + 1)
      obtain ⟨hnum, hmores, hnew, hafter⟩ := hrest
      refine ⟨?_, ?_, ?_, hafter⟩
      · rw [List.length_cons, numberable_succ_iff]
        exact ⟨⟨hposition, hid ▸ id.toNat_lt_size⟩, hnum⟩
      · rw [PropertyRecord.numbered_cons, hrecord, hmores]
      · rw [List.map_cons, newTo_cons_iff]
        exact ⟨hfree, hnew⟩

end Ledger

/-! ## Numeric IDs of new entities -/

namespace Assigner

/-- The settings that an assigner runs under. -/
def options (a : Assigner) : DeriveOptions := ⟨a.strategy, a.source⟩

private theorem toNat_max (x y : UInt32) : (max x y).toNat = max x.toNat y.toNat := by
  change (if x ≤ y then y else x).toNat = _
  by_cases h : x ≤ y
  · rw [if_pos h]
    rw [UInt32.le_iff_toNat_le] at h
    omega
  · rw [if_neg h]
    rw [UInt32.le_iff_toNat_le] at h
    omega

private theorem toNat_foldl_max (x : UInt32) (xs : List UInt32) :
    (xs.foldl max x).toNat = max x.toNat ((xs.map UInt32.toNat).foldr max 0) := by
  induction xs generalizing x with
  | nil => simp
  | cons y ys ih =>
      rw [List.foldl_cons, ih, toNat_max, List.map_cons, List.foldr_cons, Nat.max_assoc]

/-- The highest ID that the assigner sees is that of its snapshot. -/
theorem highestEntityId?_toNat (a : Assigner) :
    a.highestEntityId?.elim 0 UInt32.toNat = a.snapshot.highestId := by
  have hids : (a.snapshot.lastEntityId.map (·.id)).toList ++ a.snapshot.entities.map (·.id.id) =
      (a.snapshot.lastEntityId.toList ++ a.snapshot.entities.map (·.id)).map (·.id) := by
    cases a.snapshot.lastEntityId <;> simp
  rw [highestEntityId?, hids, Snapshot.highestId, highestNumber]
  cases a.snapshot.lastEntityId.toList ++ a.snapshot.entities.map (·.id) with
  | nil => rfl
  | cons x xs =>
      rw [List.map_cons, List.max?_cons', Option.elim_some, toNat_foldl_max, List.map_map]
      rfl

/-- The word after the highest one is what the merge counts to first. -/
theorem countedId_zero_eq (a : Assigner) :
    a.snapshot.countedId 0 = a.highestEntityId?.elim 1 (· + 1) := by
  have hhighest := a.highestEntityId?_toNat
  rw [← UInt32.toNat_inj, Snapshot.countedId_zero_toNat, ← hhighest]
  cases a.highestEntityId? with
  | none => rfl
  | some last => exact (UInt32.toNat_add last 1).symm

/-- Counting gives the word after the highest one, if it has 24 bits. -/
theorem nextSequentialId_eq (a : Assigner) :
    a.nextSequentialId =
      if (a.snapshot.countedId 0).toNat ≤ maxEntityId then .ok (a.snapshot.countedId 0)
      else .error (.entityIdExhausted (a.highestEntityId?.getD 0)) := by
  rw [countedId_zero_eq, nextSequentialId]
  cases a.highestEntityId? <;> rfl

theorem nextSequentialId_eq_ok_iff {a : Assigner} {id : UInt32} :
    a.nextSequentialId = .ok id ↔ id = a.snapshot.countedId 0 ∧ id.toNat ≤ maxEntityId := by
  rw [nextSequentialId_eq]
  by_cases h : (a.snapshot.countedId 0).toNat ≤ maxEntityId
  · rw [if_pos h, Except.ok.injEq, eq_comm, iff_self_and]
    rintro rfl
    exact h
  · rw [if_neg h]
    refine iff_of_false (by simp) ?_
    rintro ⟨rfl, hle⟩
    exact h hle

/-- No record holds an ID exactly when it is none of the recorded ones. -/
theorem holder?_eq_none_iff {a : Assigner} {id : UInt32} :
    a.holder? id = none ↔ id ∉ a.snapshot.entities.map (·.id.id) := by
  rw [holder?, List.findRev?_eq_find?_reverse,
    find?_key_eq_none_iff (fun e : EntityRecord => e.id.id), List.map_reverse, List.mem_reverse]

/-- A fresh ID is the one that the merge issues next, and has 24 bits. -/
theorem freshEntityId_eq_ok {a : Assigner} {name : String} {id : UInt32}
    (h : a.freshEntityId (Hash.entityHash a.nameSpace name) = .ok id) :
    (⟨id, entityUid (Hash.entityHash a.nameSpace name)⟩ : IdUid) =
        a.snapshot.issuedId a.nameSpace a.strategy 0 name ∧
      id.toNat ≤ maxEntityId := by
  unfold freshEntityId at h
  unfold Snapshot.issuedId
  cases hstrategy : a.strategy with
  | hashed =>
      rw [hstrategy] at h
      cases h
      exact ⟨rfl, hashedEntityId_le _⟩
  | sequential =>
      rw [hstrategy] at h
      obtain ⟨rfl, hmax⟩ := nextSequentialId_eq_ok_iff.mp h
      exact ⟨rfl, hmax⟩

/-! ## A new entity -/

/-- What the minting of an entity without a refusal has done. -/
structure Mints (a : Assigner) (outline : Outline) (id : IdUid) (ids : List IdUid)
    (after : Assigner) : Prop where
  issued : id = a.snapshot.issuedId a.nameSpace a.strategy 0 outline.name
  range : id.id.toNat ≤ maxEntityId
  newId : id.id ∉ a.snapshot.entities.map (·.id.id)
  numberable : Numberable id.uid 0 outline.properties.length
  newTo : NewTo a.ledger.uids (EntityRecord.fresh a.source outline id).uids
  ids : ids = (PropertyRecord.numbered id.uid 0 outline.properties).map (·.id)
  state : after = { a with
    ledger := a.ledger.enterRecord (.fresh a.source outline id)
    snapshot := { a.snapshot with
      lastEntityId := highestOf (a.snapshot.lastEntityId.toList ++ [id])
      entities := a.snapshot.entities ++ [.fresh a.source outline id] } }

/-- The later of two identifiers wins only if it is higher. -/
private theorem highestOf_concat (last : Option IdUid) (id : IdUid) :
    highestOf (last.toList ++ [id]) =
      some (match last with
        | some last => if last.id < id.id then id else last
        | none => id) := by
  rw [highestOf, List.argmax_concat, ← highestOf, highestOf_toList]
  cases last with
  | none => rfl
  | some last =>
      dsimp only
      by_cases h : last.id < id.id
      · rw [if_pos h, if_pos (UInt32.lt_iff_toNat_lt.mp h)]
      · rw [if_neg h, if_neg (mt UInt32.lt_iff_toNat_lt.mpr h)]

/-- An entity that is minted has the identifier that the merge issues to it, and nothing held its
numeric ID or one of its UIDs before. -/
theorem mint_of_ok {a : Assigner} {outline : Outline} {id : IdUid} {ids : List IdUid}
    (h : (a.mint outline.name outline.properties).result = .ok (id, ids)) :
    Mints a outline id ids (a.mint outline.name outline.properties).state := by
  -- every step but the last leaves the assigner as it was when it refuses
  unfold mint at h ⊢
  dsimp only at h ⊢
  cases hfresh : a.freshEntityId (Hash.entityHash a.nameSpace outline.name) with
  | error e =>
      rw [hfresh] at h
      cases h
  | ok n =>
      rw [hfresh] at h
      dsimp only at h ⊢
      cases hholder : a.holder? n with
      | some other =>
          rw [hholder] at h
          cases h
      | none =>
          rw [hholder] at h
          dsimp only at h ⊢
          cases hledger : a.ledger.mint (entityUid (Hash.entityHash a.nameSpace outline.name))
              (.entity outline.name) with
          | error e =>
              rw [hledger] at h
              cases h
          | ok ledger =>
              rw [hledger] at h
              dsimp only at h ⊢
              obtain ⟨hfree, rfl⟩ := Ledger.mint_eq_ok_iff.mp hledger
              rcases hprops : (Ledger.mintProperties _ _ _ _ _) with ⟨after, _ | records⟩
              · rw [hprops] at h
                cases h
              · rw [hprops] at h
                cases h
                obtain ⟨hid, hrange⟩ := freshEntityId_eq_ok hfresh
                -- nothing was refused: each step has said what it went by
                obtain ⟨hnum, hrecords, hnew, hafter⟩ :=
                  Ledger.mintProperties_of_ok (by decide) hprops
                subst hrecords
                refine ⟨hid, hrange, holder?_eq_none_iff.mp hholder, hnum, ?_, rfl, ?_⟩
                · rw [EntityRecord.uids, newTo_cons_iff]
                  exact ⟨hfree, hnew⟩
                · rw [highestOf_concat, hafter]
                  rfl

end Assigner

end RecordSchema
