/-
What the check of a snapshot accepts.

`Snapshot.validate` goes through a snapshot once, in order, and stops at the first violation.
`Snapshot.Consistent` says the same without an order: names, numeric IDs and UIDs are pairwise
distinct where they must be, and the recorded maxima are maxima. `validate_eq_ok_iff` is the bridge,
and everything after this module argues about `Consistent` alone.

The condition on the highest entity ID is kept apart from the others (`Unambiguous`): it is the only
one that an assignment of identifiers has no means to establish from what a snapshot must record.
-/
import RecordSchema.Proofs.Ledger
import RecordSchema.Proofs.Result

set_option autoImplicit false

namespace RecordSchema

/-! ## The condition -/

/-- The properties of an entity can be told apart, and the highest ID issued is recorded if there
are any. -/
structure EntityRecord.Consistent (e : EntityRecord) : Prop where
  names : (e.properties.map (·.name)).Nodup
  ids : (e.properties.map (·.id.id)).Nodup
  last : ∀ p ∈ e.properties, ∃ last, e.lastPropertyId = some last ∧ p.id.id ≤ last.id

/-- Every name, numeric ID and UID of a snapshot stands for one thing. -/
structure Snapshot.Unambiguous (s : Snapshot) : Prop where
  version : s.version = snapshotVersion
  names : (s.entities.map (·.name)).Nodup
  ids : (s.entities.map (·.id.id)).Nodup
  range : ∀ e ∈ s.entities, e.id.id.toNat ≤ maxEntityId
  uids : s.uids.Nodup
  entities : ∀ e ∈ s.entities, e.Consistent

/-- The highest entity ID, where it is recorded, is not below that of an entity. -/
def Snapshot.LastCovers (s : Snapshot) : Prop :=
  ∀ last, s.lastEntityId = some last → ∀ e ∈ s.entities, e.id.id ≤ last.id

/-- What a snapshot must be like for identifiers to be derived from it. -/
structure Snapshot.Consistent (s : Snapshot) : Prop extends s.Unambiguous where
  last : s.LastCovers

/-! ## Properties -/

/-- The guard against a key that was seen before. -/
private theorem not_any_iff {α β : Type} [DecidableEq β] (f : α → β) (xs : List α) (k : β) :
    ¬xs.any (fun x => f x = k) = true ↔ k ∉ xs.map f := by
  simp

namespace PropertyRecord

variable {entity : String} {last : UInt32} {ledger after : Ledger}

/-- One property passes exactly when its name, numeric ID and UID are new and its ID is no higher
than the highest one issued. -/
theorem check_eq_ok_iff {before : List PropertyRecord} {p : PropertyRecord} :
    p.check entity last before ledger = .ok after ↔
      p.name ∉ before.map (·.name) ∧ p.id.id ∉ before.map (·.id.id) ∧ p.id.id ≤ last ∧
        p.id.uid ∉ ledger.uids ∧ after = ledger.enter p.id.uid (.property entity p.name) := by
  rw [← Ledger.record_eq_ok_iff, ← find?_key_eq_none_iff (·.id.id) before, ← UInt32.not_lt,
    ← not_any_iff (·.name) before p.name]
  unfold check
  dsimp only
  rw [guard_eq_ok_iff]
  refine and_congr_right fun _ => ?_
  cases before.find? (fun x => x.id.id = p.id.id) with
  | some first => simp [bind, Except.bind, throw, throwThe, MonadExceptOf.throw]
  | none =>
      dsimp only
      rw [guard_eq_ok_iff]
      simp

/-- Properties pass one after the other exactly when their names, numeric IDs and UIDs are new and
no ID is higher than the highest one issued. -/
theorem checkAll_eq_ok_iff {before ps : List PropertyRecord} :
    checkAll entity last before ledger ps = .ok after ↔
      NewTo (before.map (·.name)) (ps.map (·.name)) ∧
        NewTo (before.map (·.id.id)) (ps.map (·.id.id)) ∧ (∀ p ∈ ps, p.id.id ≤ last) ∧
        NewTo ledger.uids (ps.map (·.id.uid)) ∧ after = ledger.enterProperties entity ps := by
  induction ps generalizing before ledger with
  | nil => simp [checkAll, eq_comm]
  | cons p ps ih =>
      have hcons : ∀ {γ : Type} (f : PropertyRecord → γ),
          NewTo ((before ++ [p]).map f) (ps.map f) ↔ NewTo (f p :: before.map f) (ps.map f) :=
        fun f => NewTo.congr fun k => by simp [or_comm]
      simp only [checkAll, bind_eq_ok_iff, check_eq_ok_iff, ih, List.map_cons, newTo_cons_iff,
        List.forall_mem_cons, Ledger.enterProperties_cons, hcons]
      constructor
      · rintro ⟨ledger', ⟨hname, hid, hlast, huid, rfl⟩, hnames, hids, hlasts, huids, hafter⟩
        exact ⟨⟨hname, hnames⟩, ⟨hid, hids⟩, ⟨hlast, hlasts⟩, ⟨huid, huids⟩, hafter⟩
      · rintro ⟨⟨hname, hnames⟩, ⟨hid, hids⟩, ⟨hlast, hlasts⟩, ⟨huid, huids⟩, hafter⟩
        exact ⟨_, ⟨hname, hid, hlast, huid, rfl⟩, hnames, hids, hlasts, huids, hafter⟩

end PropertyRecord

/-! ## Entities -/

namespace EntityRecord

variable {ledger after : Ledger}

/-- The properties of an entity pass exactly when the entity is consistent and their UIDs are
new. -/
theorem checkProperties_eq_ok_iff {e : EntityRecord} :
    e.checkProperties ledger = .ok after ↔
      e.Consistent ∧ NewTo ledger.uids (e.properties.map (·.id.uid)) ∧
        after = ledger.enterProperties e.name e.properties := by
  have hcons : e.Consistent ↔ (e.properties.map (·.name)).Nodup ∧
      (e.properties.map (·.id.id)).Nodup ∧
      ∀ p ∈ e.properties, ∃ last, e.lastPropertyId = some last ∧ p.id.id ≤ last.id :=
    ⟨fun h => ⟨h.names, h.ids, h.last⟩, fun h => ⟨h.1, h.2.1, h.2.2⟩⟩
  rw [hcons]
  unfold checkProperties
  cases hps : e.properties with
  | nil => simp [eq_comm]
  | cons p ps =>
      cases hlast : e.lastPropertyId with
      | none =>
          refine iff_of_false (by simp) ?_
          rintro ⟨⟨_, _, h⟩, _⟩
          obtain ⟨_, hl, _⟩ := h p List.mem_cons_self
          cases hl
      | some last =>
          dsimp only
          rw [PropertyRecord.checkAll_eq_ok_iff]
          simp only [List.map_nil, newTo_empty_iff, Option.some.injEq, exists_eq_left', and_assoc]

/-- One entity passes exactly when its name, numeric ID and UIDs are new, its ID is in range and no
higher than the highest one issued, and its properties can be told apart. -/
theorem check_eq_ok_iff {last : Option IdUid} {before : List EntityRecord} {e : EntityRecord} :
    e.check last before ledger = .ok after ↔
      e.name ∉ before.map (·.name) ∧ e.id.id.toNat ≤ maxEntityId ∧
        e.id.id ∉ before.map (·.id.id) ∧ (∀ l, last = some l → e.id.id ≤ l.id) ∧
        e.Consistent ∧ NewTo ledger.uids e.uids ∧ after = ledger.enterRecord e := by
  have htail : (ledger.record e.id.uid (.entity e.name) >>= fun l => e.checkProperties l) =
      .ok after ↔ e.Consistent ∧ NewTo ledger.uids e.uids ∧ after = ledger.enterRecord e := by
    simp only [bind_eq_ok_iff, Ledger.record_eq_ok_iff, checkProperties_eq_ok_iff, uids,
      newTo_cons_iff, Ledger.enterRecord_eq]
    constructor
    · rintro ⟨l, ⟨huid, rfl⟩, hcons, huids, hafter⟩
      exact ⟨hcons, ⟨huid, huids⟩, hafter⟩
    · rintro ⟨hcons, ⟨huid, huids⟩, hafter⟩
      exact ⟨_, ⟨huid, rfl⟩, hcons, huids, hafter⟩
  -- the rest are the guards in their order, each the negation of what it asks for
  rw [← htail, ← find?_key_eq_none_iff (·.id.id) before, ← Nat.not_lt,
    ← not_any_iff (·.name) before e.name]
  unfold check
  dsimp only
  rw [guard_eq_ok_iff]
  refine and_congr_right fun _ => ?_
  rw [guard_eq_ok_iff]
  refine and_congr_right fun _ => ?_
  cases before.find? (fun x => x.id.id = e.id.id) with
  | some first => simp [bind, Except.bind, throw, throwThe, MonadExceptOf.throw]
  | none =>
      cases last with
      | none => simp
      | some last =>
          dsimp only
          rw [guard_eq_ok_iff]
          simp

/-- Entities pass one after the other exactly when everything that identifies them is new. -/
theorem checkAll_eq_ok_iff {last : Option IdUid} {before es : List EntityRecord} :
    checkAll last before ledger es = .ok after ↔
      NewTo (before.map (·.name)) (es.map (·.name)) ∧
        NewTo (before.map (·.id.id)) (es.map (·.id.id)) ∧
        (∀ e ∈ es, e.id.id.toNat ≤ maxEntityId) ∧
        (∀ e ∈ es, ∀ l, last = some l → e.id.id ≤ l.id) ∧ (∀ e ∈ es, e.Consistent) ∧
        NewTo ledger.uids (es.flatMap uids) ∧ after = es.foldl Ledger.enterRecord ledger := by
  induction es generalizing before ledger with
  | nil => simp [checkAll, eq_comm]
  | cons e es ih =>
      have hcons : ∀ {γ : Type} (f : EntityRecord → γ),
          NewTo ((before ++ [e]).map f) (es.map f) ↔ NewTo (f e :: before.map f) (es.map f) :=
        fun f => NewTo.congr fun k => by simp [or_comm]
      -- the ledger has the UIDs of the first entity in another order than its record
      have huids : NewTo (ledger.enterRecord e).uids (es.flatMap uids) ↔
          NewTo (e.uids ++ ledger.uids) (es.flatMap uids) :=
        NewTo.congr fun k => by simp [Ledger.uids_enterRecord]
      simp only [checkAll, bind_eq_ok_iff, check_eq_ok_iff, ih, List.map_cons, newTo_cons_iff,
        List.forall_mem_cons, List.flatMap_cons, newTo_append_iff, List.foldl_cons, hcons]
      constructor
      · rintro ⟨_, ⟨hname, hrange, hid, hlast, hcons, huid, rfl⟩, hs⟩
        rw [huids] at hs
        exact ⟨⟨hname, hs.1⟩, ⟨hid, hs.2.1⟩, ⟨hrange, hs.2.2.1⟩, ⟨hlast, hs.2.2.2.1⟩,
          ⟨hcons, hs.2.2.2.2.1⟩, ⟨huid, hs.2.2.2.2.2.1⟩, hs.2.2.2.2.2.2⟩
      · rintro ⟨⟨hname, h₁⟩, ⟨hid, h₂⟩, ⟨hrange, h₃⟩, ⟨hlast, h₄⟩, ⟨hcons, h₅⟩, ⟨huid, h₆⟩, h₇⟩
        exact ⟨_, ⟨hname, hrange, hid, hlast, hcons, huid, rfl⟩, h₁, h₂, h₃, h₄, h₅,
          huids.mpr h₆, h₇⟩

end EntityRecord

/-! ## Snapshots -/

/-- A snapshot is accepted exactly when it is consistent. -/
theorem Snapshot.validate_eq_ok_iff {s : Snapshot} : s.validate = .ok () ↔ s.Consistent := by
  have hall : (∃ l, EntityRecord.checkAll s.lastEntityId [] [] s.entities = .ok l) ↔
      (s.entities.map (·.name)).Nodup ∧ (s.entities.map (·.id.id)).Nodup ∧
        (∀ e ∈ s.entities, e.id.id.toNat ≤ maxEntityId) ∧ s.LastCovers ∧
        (∀ e ∈ s.entities, e.Consistent) ∧ s.uids.Nodup := by
    have hlast : s.LastCovers ↔
        ∀ e ∈ s.entities, ∀ l, s.lastEntityId = some l → e.id.id ≤ l.id :=
      ⟨fun h e he l hl => h l hl e he, fun h l hl e he => h e he l hl⟩
    rw [hlast]
    simp only [EntityRecord.checkAll_eq_ok_iff, List.map_nil, newTo_empty_iff, uids, Ledger.uids,
      exists_and_left, exists_eq, and_true]
  unfold validate
  dsimp only
  rw [guard_eq_ok_iff, Decidable.not_not]
  simp only [bind_eq_ok_iff, pure, Except.pure, and_true]
  rw [hall]
  constructor
  · rintro ⟨version, names, ids, range, last, entities, uids⟩
    exact ⟨⟨version, names, ids, range, uids, entities⟩, last⟩
  · rintro ⟨⟨version, names, ids, range, uids, entities⟩, last⟩
    exact ⟨version, names, ids, range, last, entities, uids⟩

end RecordSchema
