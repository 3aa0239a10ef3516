/-
What the check of a snapshot reports.

A refusal names entities, properties, identifiers and owners, and somebody will look them up in the
file and mend what is wrong there. So what it names must be in the snapshot and must break the very
condition that the refusal stands for. `Snapshot.Violates` says which facts about a snapshot each
refusal claims; nothing in it speaks of the order of the check. Where two things are in conflict they
are two entries of one list, the first named before the second, and not one thing named twice.

The check goes through the snapshot with a ledger of the UIDs that it has met. What the ledger says of
a UID must be true of what was passed (`Ledger.Records`); with that the refusals of every part of the
check are violations of the whole snapshot.
-/
import RecordSchema.Proofs.Snapshot.Consistency

set_option autoImplicit false

namespace RecordSchema

/-! ## Violations -/

/-- The facts about a snapshot that a refusal claims. -/
inductive Snapshot.Violates (s : Snapshot) : SnapshotError → Prop where
  | version (h : s.version ≠ snapshotVersion) : s.Violates (.unsupportedVersion s.version)
  | entityName {first second : EntityRecord} (hpair : [first, second].Sublist s.entities)
      (h : first.name = second.name) : s.Violates (.duplicateEntity second.name)
  | entityRange {e : EntityRecord} (he : e ∈ s.entities) (h : maxEntityId < e.id.id.toNat) :
      s.Violates (.entityIdOutOfRange e.name e.id.id)
  | entityId {first second : EntityRecord} (hpair : [first, second].Sublist s.entities)
      (h : first.id.id = second.id.id) :
      s.Violates (.duplicateEntityId second.id.id first.name second.name)
  | lastEntity {e : EntityRecord} {last : IdUid} (he : e ∈ s.entities)
      (hlast : s.lastEntityId = some last) (h : last.id < e.id.id) :
      s.Violates (.lastEntityIdBehind e.name e.id.id last.id)
  | uid {first second : Owner × IdUid} (hpair : [first, second].Sublist s.owned)
      (h : first.2.uid = second.2.uid) :
      s.Violates (.duplicateUid second.2.uid first.1 second.1)
  | missingLast {e : EntityRecord} (he : e ∈ s.entities) (hne : e.properties ≠ [])
      (h : e.lastPropertyId = none) : s.Violates (.missingLastPropertyId e.name)
  | propertyName {e : EntityRecord} {first second : PropertyRecord} (he : e ∈ s.entities)
      (hpair : [first, second].Sublist e.properties) (h : first.name = second.name) :
      s.Violates (.duplicateProperty e.name second.name)
  | propertyId {e : EntityRecord} {first second : PropertyRecord} (he : e ∈ s.entities)
      (hpair : [first, second].Sublist e.properties) (h : first.id.id = second.id.id) :
      s.Violates (.duplicatePropertyId e.name second.id.id first.name second.name)
  | lastProperty {e : EntityRecord} {p : PropertyRecord} {last : IdUid} (he : e ∈ s.entities)
      (hp : p ∈ e.properties) (hlast : e.lastPropertyId = some last) (h : last.id < p.id.id) :
      s.Violates (.propertyIdBeyondLast e.name p.name p.id.id last.id)

/-! ## Two entries of one list -/

section Pairs

variable {α β : Type} {x y : α}

/-- What stands before a place and what stands there are two entries of the list. -/
theorem pair_sublist_of_mem {before rest : List α} (hx : x ∈ before) :
    [x, y].Sublist (before ++ y :: rest) := by
  have hfirst : [x].Sublist before := List.singleton_sublist.mpr hx
  have hsecond : [y].Sublist (y :: rest) := List.singleton_sublist.mpr List.mem_cons_self
  exact hfirst.append hsecond

/-- Two entries of a list have different keys where keys are distinct. -/
theorem ne_of_pair_sublist {key : α → β} {xs : List α} (h : (xs.map key).Nodup)
    (hpair : [x, y].Sublist xs) : key x ≠ key y := by
  have hnodup : [key x, key y].Nodup := h.sublist (hpair.map key)
  intro heq
  rw [heq] at hnodup
  simp at hnodup

end Pairs

/-! ## An accepted snapshot violates nothing -/

namespace Snapshot

/-- No refusal could be justified by a consistent snapshot. -/
theorem Consistent.not_violates {s : Snapshot} (h : s.Consistent) {error : SnapshotError} :
    ¬s.Violates error := by
  intro hviolates
  cases hviolates with
  | version hversion => exact hversion h.version
  | entityName hpair hname => exact ne_of_pair_sublist h.names hpair hname
  | entityRange he hrange => exact Nat.not_lt.mpr (h.range _ he) hrange
  | entityId hpair hid => exact ne_of_pair_sublist h.ids hpair hid
  | lastEntity he hlast hlt => exact UInt32.not_lt.mpr (h.last _ hlast _ he) hlt
  | uid hpair huid =>
      have huids : (s.owned.map (·.2.uid)).Nodup := by
        rw [s.map_uid_owned]
        exact h.uids
      exact ne_of_pair_sublist huids hpair huid
  | missingLast he hne hnone =>
      obtain ⟨p, hp⟩ := List.exists_mem_of_ne_nil _ hne
      obtain ⟨last, hlast, -⟩ := (h.entities _ he).last p hp
      rw [hnone] at hlast
      cases hlast
  | propertyName he hpair hname => exact ne_of_pair_sublist (h.entities _ he).names hpair hname
  | propertyId he hpair hid => exact ne_of_pair_sublist (h.entities _ he).ids hpair hid
  | lastProperty he hp hlast hlt =>
      obtain ⟨last, hsome, hle⟩ := (h.entities _ he).last _ hp
      rw [hlast, Option.some.injEq] at hsome
      rw [← hsome] at hle
      exact UInt32.not_lt.mpr hle hlt

end Snapshot

/-! ## The owners in a ledger -/

namespace Ledger

/-- The owner that a ledger gives for a UID is one of those passed, with that UID. -/
def Records (ledger : Ledger) (passed : List (Owner × IdUid)) : Prop :=
  ∀ uid owner, ledger.owner? uid = some owner → ∃ x ∈ passed, x.1 = owner ∧ x.2.uid = uid

variable {ledger : Ledger} {passed : List (Owner × IdUid)}

theorem records_nil : Records [] [] := by
  intro uid owner h
  cases h

/-- Entering an owner under its UID is passing it. -/
theorem Records.enter (h : ledger.Records passed) (owner : Owner) (id : IdUid) :
    (ledger.enter id.uid owner).Records (passed ++ [(owner, id)]) := by
  intro uid holder hholder
  by_cases huid : uid = id.uid
  · rw [huid, owner?, Ledger.enter, List.lookup_cons_self, Option.some.injEq] at hholder
    exact ⟨(owner, id), List.mem_append_right _ (List.mem_singleton_self _), hholder, huid.symm⟩
  · have hother : (uid == id.uid) = false := by simpa using huid
    rw [owner?, Ledger.enter, List.lookup_cons, hother] at hholder
    obtain ⟨x, hx, hxs⟩ := h uid holder hholder
    exact ⟨x, List.mem_append_left _ hx, hxs⟩

theorem Records.enterProperties (h : ledger.Records passed) (entity : String)
    (ps : List PropertyRecord) : (ledger.enterProperties entity ps).Records
      (passed ++ ps.map fun p => (.property entity p.name, p.id)) := by
  induction ps generalizing ledger passed with
  | nil =>
      rw [enterProperties_nil, List.map_nil, List.append_nil]
      exact h
  | cons p ps ih =>
      rw [enterProperties_cons, List.map_cons, List.append_cons]
      exact ih (h.enter _ _)

/-- Entering a record is passing all its owners. -/
theorem Records.enterRecord (h : ledger.Records passed) (e : EntityRecord) :
    (ledger.enterRecord e).Records (passed ++ e.owned) := by
  rw [enterRecord_eq, EntityRecord.owned, List.append_cons]
  exact (h.enter _ _).enterProperties _ _

/-- A UID is refused because an owner that was passed has it. -/
theorem violates_of_record {s : Snapshot} {owner : Owner} {id : IdUid}
    {more : List (Owner × IdUid)} {error : SnapshotError} (hledger : ledger.Records passed)
    (howned : s.owned = passed ++ (owner, id) :: more)
    (h : ledger.record id.uid owner = .error error) : s.Violates error := by
  unfold record claim at h
  cases hholder : ledger.owner? id.uid with
  | none =>
      rw [hholder] at h
      cases h
  | some holder =>
      rw [hholder] at h
      cases h
      obtain ⟨x, hx, rfl, huid⟩ := hledger _ _ hholder
      have hpair : [x, (owner, id)].Sublist s.owned := howned ▸ pair_sublist_of_mem hx
      exact .uid hpair huid

end Ledger

/-! ## One check after the other -/

section Checks

variable {s : Snapshot} {ledger : Ledger} {passed more : List (Owner × IdUid)}
  {error : SnapshotError}

/-- What a guard found among the things before is one of them. -/
private theorem exists_mem_of_any {α β : Type} [DecidableEq β] {f : α → β} {xs : List α} {k : β}
    (h : xs.any (fun x => f x = k) = true) : ∃ x ∈ xs, f x = k := by
  simpa using h

/-- A property is refused for a violation. -/
theorem PropertyRecord.violates_of_check {e : EntityRecord} {last : IdUid} {p : PropertyRecord}
    {before rest : List PropertyRecord} (he : e ∈ s.entities) (hlast : e.lastPropertyId = some last)
    (hproperties : e.properties = before ++ p :: rest) (hledger : ledger.Records passed)
    (howned : s.owned = passed ++ (.property e.name p.name, p.id) :: more)
    (h : p.check e.name last.id before ledger = .error error) : s.Violates error := by
  have hp : p ∈ e.properties := by simp [hproperties]
  have hpair : ∀ first ∈ before, [first, p].Sublist e.properties := by
    intro first hfirst
    rw [hproperties]
    exact pair_sublist_of_mem hfirst
  unfold check at h
  rw [guard_eq_error_iff] at h
  rcases h with ⟨hname, rfl⟩ | ⟨-, h⟩
  · obtain ⟨first, hfirst, heq⟩ := exists_mem_of_any hname
    exact .propertyName he (hpair first hfirst) heq
  cases hid : before.find? (fun x => x.id.id = p.id.id) with
  | some first =>
      rw [hid] at h
      cases h
      have heq : first.id.id = p.id.id := by simpa using List.find?_some hid
      exact .propertyId he (hpair first (List.mem_of_find?_eq_some hid)) heq
  | none =>
      rw [hid] at h
      dsimp only [pure_bind] at h
      rw [guard_eq_error_iff] at h
      rcases h with ⟨hlt, rfl⟩ | ⟨-, h⟩
      · exact .lastProperty he hp hlast hlt
      · exact Ledger.violates_of_record hledger howned h

/-- Properties are refused for a violation. -/
theorem PropertyRecord.violates_of_checkAll {e : EntityRecord} {last : IdUid}
    {before ps : List PropertyRecord} (he : e ∈ s.entities) (hlast : e.lastPropertyId = some last)
    (hproperties : e.properties = before ++ ps) (hledger : ledger.Records passed)
    (howned : s.owned = passed ++ ps.map (fun p => (.property e.name p.name, p.id)) ++ more)
    (h : checkAll e.name last.id before ledger ps = .error error) : s.Violates error := by
  induction ps generalizing before ledger passed with
  | nil => cases h
  | cons p ps ih =>
      rw [List.map_cons, List.append_assoc, List.cons_append] at howned
      rw [checkAll, bind_eq_error_iff] at h
      rcases h with h | ⟨after, hone, h⟩
      · exact violates_of_check he hlast hproperties hledger howned h
      · obtain ⟨-, -, -, -, rfl⟩ := check_eq_ok_iff.mp hone
        apply ih _ (hledger.enter _ _) _ h
        · rw [hproperties, List.append_assoc, List.singleton_append]
        · rw [howned, List.append_assoc, List.append_assoc, List.singleton_append]

/-- The properties of an entity are refused for a violation. -/
theorem EntityRecord.violates_of_checkProperties {e : EntityRecord} (he : e ∈ s.entities)
    (hledger : ledger.Records passed)
    (howned : s.owned = passed ++ e.properties.map (fun p => (.property e.name p.name, p.id)) ++ more)
    (h : e.checkProperties ledger = .error error) : s.Violates error := by
  unfold checkProperties at h
  split at h
  · cases h
  · rename_i p ps hproperties hnone
    cases h
    exact .missingLast he (hproperties ▸ List.cons_ne_nil p ps) hnone
  · rename_i last hlast _
    exact PropertyRecord.violates_of_checkAll he hlast (List.nil_append _).symm hledger howned h

/-- The UIDs of an entity and its properties are refused for a violation. -/
theorem EntityRecord.violates_of_recordAll {e : EntityRecord} (he : e ∈ s.entities)
    (hledger : ledger.Records passed) (howned : s.owned = passed ++ e.owned ++ more)
    (h : (ledger.record e.id.uid (.entity e.name) >>= fun l => e.checkProperties l) =
      .error error) : s.Violates error := by
  rw [EntityRecord.owned, List.append_assoc, List.cons_append] at howned
  rw [bind_eq_error_iff] at h
  rcases h with h | ⟨after, hone, h⟩
  · exact Ledger.violates_of_record hledger howned h
  · obtain ⟨-, rfl⟩ := Ledger.record_eq_ok_iff.mp hone
    have hbehind : s.owned = passed ++ [(.entity e.name, e.id)] ++
        e.properties.map (fun p => (.property e.name p.name, p.id)) ++ more := by
      rw [howned, List.append_assoc, List.append_assoc, List.singleton_append]
    exact violates_of_checkProperties he (hledger.enter _ _) hbehind h

/-- An entity is refused for a violation. -/
theorem EntityRecord.violates_of_check {before rest : List EntityRecord} {e : EntityRecord}
    (hentities : s.entities = before ++ e :: rest) (hledger : ledger.Records passed)
    (howned : s.owned = passed ++ e.owned ++ more)
    (h : e.check s.lastEntityId before ledger = .error error) : s.Violates error := by
  have he : e ∈ s.entities := by simp [hentities]
  have hpair : ∀ first ∈ before, [first, e].Sublist s.entities := by
    intro first hfirst
    rw [hentities]
    exact pair_sublist_of_mem hfirst
  unfold check at h
  rw [guard_eq_error_iff] at h
  rcases h with ⟨hname, rfl⟩ | ⟨-, h⟩
  · obtain ⟨first, hfirst, heq⟩ := exists_mem_of_any hname
    exact .entityName (hpair first hfirst) heq
  dsimp only at h
  rw [guard_eq_error_iff] at h
  rcases h with ⟨hrange, rfl⟩ | ⟨-, h⟩
  · exact .entityRange he hrange
  cases hid : before.find? (fun x => x.id.id = e.id.id) with
  | some first =>
      rw [hid] at h
      cases h
      have heq : first.id.id = e.id.id := by simpa using List.find?_some hid
      exact .entityId (hpair first (List.mem_of_find?_eq_some hid)) heq
  | none =>
      rw [hid] at h
      cases hlast : s.lastEntityId with
      | none =>
          rw [hlast] at h
          exact violates_of_recordAll he hledger howned h
      | some last =>
          rw [hlast] at h
          dsimp only [pure_bind] at h
          rw [guard_eq_error_iff] at h
          rcases h with ⟨hlt, rfl⟩ | ⟨-, h⟩
          · exact .lastEntity he hlast hlt
          · exact violates_of_recordAll he hledger howned h

/-- Entities are refused for a violation. -/
theorem EntityRecord.violates_of_checkAll {before es : List EntityRecord}
    (hentities : s.entities = before ++ es)
    (hledger : ledger.Records (before.flatMap EntityRecord.owned))
    (h : checkAll s.lastEntityId before ledger es = .error error) : s.Violates error := by
  induction es generalizing before ledger with
  | nil => cases h
  | cons e es ih =>
      have howned : s.owned = before.flatMap EntityRecord.owned ++ e.owned ++
          es.flatMap EntityRecord.owned := by
        rw [Snapshot.owned, hentities, List.flatMap_append, List.flatMap_cons, List.append_assoc]
      rw [checkAll, bind_eq_error_iff] at h
      rcases h with h | ⟨after, hone, h⟩
      · exact violates_of_check hentities hledger howned h
      · obtain ⟨-, -, -, -, -, -, rfl⟩ := check_eq_ok_iff.mp hone
        apply ih _ _ h
        · rw [hentities, List.append_assoc, List.singleton_append]
        · rw [List.flatMap_append, List.flatMap_singleton]
          exact hledger.enterRecord e

end Checks

/-! ## The whole check -/

/-- A snapshot is refused for a violation. -/
theorem Snapshot.violates_of_validate {s : Snapshot} {error : SnapshotError}
    (h : s.validate = .error error) : s.Violates error := by
  unfold validate at h
  rw [guard_eq_error_iff] at h
  rcases h with ⟨hversion, rfl⟩ | ⟨-, h⟩
  · exact .version hversion
  · dsimp only at h
    rw [bind_eq_error_iff] at h
    rcases h with h | ⟨ledger, -, h⟩
    · exact EntityRecord.violates_of_checkAll rfl Ledger.records_nil h
    · cases h

/-- A snapshot is accepted exactly if its names, numeric IDs and UIDs are distinct where they must be,
entities and properties sharing one space of UIDs, and no ID exceeds its limit or the highest one on
record. Where it is refused, the refusal is a violation that the snapshot has, and a snapshot that has
any violation is not accepted. -/
theorem Snapshot.validate_exact (s : Snapshot) :
    (s.validate = .ok () ↔
      s.version = 1 ∧ (s.entities.map (·.name)).Nodup ∧
        (∀ e ∈ s.entities, e.id.id.toNat ≤ 0xFFFFFF) ∧ (s.entities.map (·.id.id)).Nodup ∧
        (∀ last, s.lastEntityId = some last → ∀ e ∈ s.entities, e.id.id ≤ last.id) ∧
        s.uids.Nodup ∧
        ∀ e ∈ s.entities, e.properties ≠ [] → ∃ last, e.lastPropertyId = some last ∧
          (e.properties.map (·.name)).Nodup ∧ (e.properties.map (·.id.id)).Nodup ∧
          ∀ p ∈ e.properties, p.id.id ≤ last.id) ∧
    (∀ error, s.validate = .error error → s.Violates error) ∧
    ∀ error, s.Violates error → s.validate ≠ .ok () := by
  refine ⟨?_, fun error h => violates_of_validate h, fun error hviolates haccepted => ?_⟩
  · rw [validate_eq_ok_iff]
    constructor
    · intro h
      refine ⟨h.version, h.names, h.range, h.ids, h.last, h.uids, fun e he hne => ?_⟩
      have hconsistent := h.entities e he
      obtain ⟨p, hp⟩ := List.exists_mem_of_ne_nil _ hne
      obtain ⟨last, hlast, -⟩ := hconsistent.last p hp
      refine ⟨last, hlast, hconsistent.names, hconsistent.ids, fun q hq => ?_⟩
      obtain ⟨last', hlast', hle⟩ := hconsistent.last q hq
      rw [hlast, Option.some.injEq] at hlast'
      rwa [← hlast'] at hle
    · rintro ⟨version, names, range, ids, last, uids, hproperties⟩
      refine ⟨⟨version, names, ids, range, uids, fun e he => ?_⟩, last⟩
      by_cases hne : e.properties = []
      · -- without properties there is nothing to tell apart
        constructor <;> simp [hne]
      · obtain ⟨last, hlast, hnames, hids, hle⟩ := hproperties e he hne
        exact ⟨hnames, hids, fun p hp => ⟨last, hlast, hle p hp⟩⟩
  · exact (validate_eq_ok_iff.mp haccepted).not_violates hviolates

/-- An entity whose UID is that of a retired property of another. -/
def crossedSnapshot : Snapshot :=
  ⟨snapshotVersion, some ⟨9, 12⟩,
    [⟨⟨7, 11⟩, "User", none, false, some ⟨4, 12⟩, [⟨⟨4, 12⟩, "email", true⟩]⟩,
      ⟨⟨9, 12⟩, "Note", none, false, none, []⟩]⟩

/-- The refusal names the property and the entity, and they are recorded with that UID. -/
theorem Snapshot.validate_exact_crossed :
    crossedSnapshot.validate =
        .error (.duplicateUid 12 (.property "User" "email") (.entity "Note")) ∧
      crossedSnapshot.Violates (.duplicateUid 12 (.property "User" "email") (.entity "Note")) := by
  have h : crossedSnapshot.validate =
      .error (.duplicateUid 12 (.property "User" "email") (.entity "Note")) := by decide +kernel
  exact ⟨h, (validate_exact crossedSnapshot).2.1 _ h⟩

end RecordSchema
