/-
Using an assigner on after refusals.

An assigner that has refused a shape may be given the next one. What it holds then is not what a run
without refusals would have left: a recorded entity may have gained some of the properties that were
asked for, UIDs may be held that nothing is recorded under, and an entity may be recorded although
its layout was refused. Two things are true of every such state. What is recorded is told apart, and
all of it is held in the ledger. A UID that the ledger lets through is therefore new to the
snapshot, and that is what carries both from each shape to the next.

The converse of the second, which the soundness of a run has in addition, is lost with the first
refusal.
-/
import RecordSchema.Proofs.Assigner.Frame
import RecordSchema.Proofs.History.Stability

set_option autoImplicit false

namespace RecordSchema

namespace Snapshot

/-! ## Snapshots that are kept -/

/-- The records of a snapshot are kept in the first ones of a later snapshot, in order. -/
def KeptIn (s after : Snapshot) : Prop :=
  ∃ kept new, after.entities = kept ++ new ∧ List.Forall₂ EntityRecord.KeptIn s.entities kept

/-- The entities of a snapshot can be told apart by name and by numeric ID, which has 24 bits, and
its UIDs belong to one thing each. -/
structure Apart (s : Snapshot) : Prop where
  names : s.entityNames.Nodup
  ids : (s.entities.map (·.id.id)).Nodup
  range : ∀ e ∈ s.entities, e.id.id.toNat ≤ maxEntityId
  uids : s.uids.Nodup

/-- Marking records and adding properties to them leaves the entities apart. -/
theorem Apart.of_same {s t : Snapshot} (h : s.Apart) (hnames : t.entityNames = s.entityNames)
    (hids : t.entities.map (·.id) = s.entities.map (·.id)) (huids : t.uids.Nodup) : t.Apart where
  names := hnames ▸ h.names
  ids := by
    have hnumbers := congrArg (List.map IdUid.id) hids
    rw [List.map_map, List.map_map] at hnumbers
    exact hnumbers ▸ h.ids
  range := by
    intro e he
    have hmem : e.id ∈ s.entities.map (·.id) := hids ▸ List.mem_map_of_mem he
    obtain ⟨r, hr, hid⟩ := List.mem_map.mp hmem
    exact hid ▸ h.range r hr
  uids := huids

theorem Unambiguous.apart {s : Snapshot} (h : s.Unambiguous) : s.Apart :=
  ⟨h.names, h.ids, h.range, h.uids⟩

section KeptIn

variable {s t u : Snapshot}

theorem KeptIn.refl (s : Snapshot) : s.KeptIn s := by
  refine ⟨s.entities, [], (List.append_nil _).symm, List.forall₂_same.mpr fun e _ => ?_⟩
  exact .refl e

theorem KeptIn.trans (h : s.KeptIn t) (h' : t.KeptIn u) : s.KeptIn u := by
  obtain ⟨kept, new, ht, hkept⟩ := h
  obtain ⟨kept', new', hu, hkept'⟩ := h'
  rw [ht] at hkept'
  -- what was kept of the first snapshot stands in front of what came to it
  obtain ⟨front, back, rfl, hfront, -⟩ :
      ∃ front back, kept' = front ++ back ∧ List.Forall₂ EntityRecord.KeptIn kept front ∧
        List.Forall₂ EntityRecord.KeptIn new back := by
    refine ⟨kept'.take kept.length, kept'.drop kept.length, (List.take_append_drop _ _).symm, ?_, ?_⟩
    · exact (List.forall₂_take_append _ kept new hkept'.flip).flip
    · exact (List.forall₂_drop_append _ kept new hkept'.flip).flip
  refine ⟨front, back ++ new', by rw [hu, List.append_assoc], ?_⟩
  refine (forall₂_trans hkept hfront).imp ?_
  rintro e e' ⟨_, h, h'⟩
  exact h.trans h'

/-- What was recorded in a snapshot is recorded in a later one that keeps it. -/
theorem KeptIn.owned_subset (h : s.KeptIn t) : s.owned ⊆ t.owned := by
  obtain ⟨kept, new, ht, hkept⟩ := h
  rintro ⟨owner, id⟩ howned
  obtain ⟨e, he, hmem⟩ := List.mem_flatMap.mp howned
  obtain ⟨e', he', hkeptIn⟩ := exists_mem_of_forall₂ hkept he
  rw [owned, ht]
  exact List.mem_flatMap.mpr ⟨e', List.mem_append_left _ he', hkeptIn.subset hmem⟩

end KeptIn

end Snapshot

namespace Assigner

/-! ## What holds between two shapes -/

/-- What an assigner has recorded is told apart and held, whatever it has refused before. -/
structure Guarded (a : Assigner) : Prop where
  apart : a.snapshot.Apart
  held : a.snapshot.uids ⊆ a.ledger.uids

/-- UIDs that are new to the ledger are new to what is recorded. -/
theorem Guarded.nodup_append {a : Assigner} (ha : a.Guarded) {uids : List UInt64}
    (h : NewTo a.ledger.uids uids) : (a.snapshot.uids ++ uids).Nodup :=
  nodup_append_iff_newTo.mpr ⟨ha.apart.uids, h.mono ha.held⟩

section Outcome

variable {a after : Assigner} {outline : Outline}

/-- Whatever identifying an entity comes to, what was recorded is kept. -/
theorem Outcome.keptIn (h : a.Outcome outline after) : a.snapshot.KeptIn after.snapshot := by
  cases h with
  | @renewed before rest r after ledger claims split name owned newTo held =>
      refine ⟨before ++ after :: rest, [], (List.append_nil _).symm, ?_⟩
      rw [split]
      have hkept := EntityRecord.keptIn_of_owned owned
      have hsame : ∀ es : List EntityRecord, List.Forall₂ EntityRecord.KeptIn es es := fun es =>
        List.forall₂_same.mpr fun e _ => .refl e
      exact List.rel_append (hsame before) (.cons hkept (hsame rest))
  | spent unrecorded held => exact .refl _
  | @minted id ids after unrecorded mints =>
      refine ⟨a.snapshot.entities, [.fresh a.source outline id], ?_, ?_⟩
      · rw [mints.state]
      · exact List.forall₂_same.mpr fun e _ => .refl e

/-- Whatever identifying an entity comes to, what is recorded is told apart and held. -/
theorem Outcome.guarded (h : a.Outcome outline after) (ha : a.Guarded) : after.Guarded := by
  cases h with
  | @renewed before rest r after ledger claims split name owned newTo held =>
      have hkept := EntityRecord.keptIn_of_owned owned
      -- what came to the record was claimed, and so was new
      have hperm : ((before ++ after :: rest).flatMap EntityRecord.uids).Perm
          (a.snapshot.uids ++ claims.map (·.2.uid)) := by
        rw [Snapshot.uids, split, List.flatMap_append, List.flatMap_append, List.flatMap_cons,
          List.flatMap_cons, EntityRecord.uids_of_owned owned]
        simp only [List.append_assoc]
        exact (List.perm_append_comm.append_left r.uids).append_left _
      refine ⟨ha.apart.of_same ?_ ?_ (hperm.nodup_iff.mpr (ha.nodup_append newTo)), ?_⟩
      · simp [Snapshot.entityNames, split, hkept.name]
      · simp [split, hkept.id]
      · intro uid huid
        refine held ?_
        rcases List.mem_append.mp (hperm.mem_iff.mp huid) with huid | huid
        · exact List.mem_append_left _ (ha.held huid)
        · exact List.mem_append_right _ huid
  | spent unrecorded held =>
      exact ⟨ha.apart, List.Subset.trans ha.held held⟩
  | @minted id ids after unrecorded mints =>
      have huids : (a.snapshot.entities ++ [EntityRecord.fresh a.source outline id]).flatMap
          EntityRecord.uids = a.snapshot.uids ++ (EntityRecord.fresh a.source outline id).uids := by
        rw [List.flatMap_append, List.flatMap_singleton]
        rfl
      rw [mints.state]
      refine ⟨⟨?_, ?_, ?_, ?_⟩, ?_⟩
      · simp only [Snapshot.entityNames, List.map_append, List.map_singleton]
        exact nodup_append_iff_newTo.mpr ⟨ha.apart.names, newTo_singleton_iff.mpr unrecorded⟩
      · dsimp only
        rw [List.map_append, List.map_singleton]
        exact nodup_append_iff_newTo.mpr ⟨ha.apart.ids, newTo_singleton_iff.mpr mints.newId⟩
      · dsimp only
        rw [List.forall_mem_append, List.forall_mem_singleton]
        exact ⟨ha.apart.range, mints.range⟩
      · rw [Snapshot.uids, huids]
        exact ha.nodup_append mints.newTo
      · rw [Snapshot.uids, huids, Ledger.uids_enterRecord]
        intro uid huid
        rcases List.mem_append.mp huid with huid | huid
        · exact List.mem_append_right _ (ha.held huid)
        · exact List.mem_append_left _ (List.mem_reverse.mpr huid)

end Outcome

/-! ## One shape after the other -/

/-- Assigning a shape leaves the assigner as it was, or with the outcome of its entity. -/
theorem outcome_assign (a : Assigner) (shape : EntityShape) :
    (a.assign shape).state = a ∨
      ({ a with seen := shape.name :: a.seen } : Assigner).Outcome shape.outline
        (a.assign shape).state := by
  rcases a.state_assign shape with hsame | ⟨-, hstate⟩
  · exact Or.inl hsame
  · right
    rw [hstate]
    exact outcome_identify _ shape.outline

theorem Guarded.assign {a : Assigner} (ha : a.Guarded) (shape : EntityShape) :
    (a.assign shape).state.Guarded := by
  rcases a.outcome_assign shape with hsame | houtcome
  · rwa [hsame]
  · exact houtcome.guarded ⟨ha.apart, ha.held⟩

theorem keptIn_assign (a : Assigner) (shape : EntityShape) :
    a.snapshot.KeptIn (a.assign shape).state.snapshot := by
  rcases a.outcome_assign shape with hsame | houtcome
  · rw [hsame]
    exact .refl _
  · exact houtcome.keptIn

/-- Assigning a shape leaves the records of other names as they were, in their order. -/
theorem others_assign (a : Assigner) (shape : EntityShape) :
    (a.assign shape).state.snapshot.entities.filter (·.name ≠ shape.name) =
      a.snapshot.entities.filter (·.name ≠ shape.name) := by
  rcases a.outcome_assign shape with hsame | houtcome
  · rw [hsame]
  · exact houtcome.spares.others

/-- An entity that is assigned is recorded under its identifiers, and so are its properties. -/
theorem owned_subset_of_assign {a : Assigner} {shape : EntityShape} {entity : Entity}
    (h : (a.assign shape).result = .ok entity) :
    entity.owned ⊆ (a.assign shape).state.snapshot.owned := by
  obtain ⟨-, -, id, ids, hidentify, hcomplete, hstate⟩ := assign_eq_ok h
  obtain ⟨id', ids', hidentify', hshapes, hids, -, -⟩ := laidOut_of_assign h
  obtain ⟨rfl, rfl⟩ : id = id' ∧ ids = ids' := by
    rw [hidentify, Except.ok.injEq, Prod.mk.injEq] at hidentify'
    exact hidentify'
  obtain ⟨hname, hid, -⟩ := complete_of_ok hcomplete
  obtain ⟨r, hr, hrname, hrid, hall⟩ := recorded_of_identify hidentify
  -- the properties of the entity go with the names that were asked for and with the answer
  rw [← hshapes, ← hids, List.map_map, List.forall₂_map_left_iff, List.forall₂_map_right_iff,
    List.forall₂_same] at hall
  have howned : entity.owned ⊆ r.owned := by
    rw [Entity.owned, hname, hid, ← hrname, ← hrid, List.cons_subset]
    refine ⟨List.mem_cons_self, ?_⟩
    intro pair hpair
    obtain ⟨p, hp, rfl⟩ := List.mem_map.mp hpair
    rw [hrname]
    exact hall p hp
  rw [hstate]
  intro pair hpair
  exact List.mem_flatMap.mpr ⟨r, hr, howned hpair⟩

/-! ## All shapes -/

/-- The assigner after some shapes, used on after each one that it refuses. -/
def assignEach (a : Assigner) (shapes : List EntityShape) : Assigner :=
  shapes.foldl (fun b shape => (b.assign shape).state) a

theorem assignEach_append (a : Assigner) (shapes more : List EntityShape) :
    a.assignEach (shapes ++ more) = (a.assignEach shapes).assignEach more :=
  List.foldl_append

theorem Guarded.assignEach {a : Assigner} (ha : a.Guarded) (shapes : List EntityShape) :
    (a.assignEach shapes).Guarded := by
  induction shapes generalizing a with
  | nil => exact ha
  | cons shape shapes ih => exact ih (ha.assign shape)

theorem keptIn_assignEach (a : Assigner) (shapes : List EntityShape) :
    a.snapshot.KeptIn (a.assignEach shapes).snapshot := by
  induction shapes generalizing a with
  | nil => exact .refl _
  | cons shape shapes ih => exact (a.keptIn_assign shape).trans (ih _)

/-- The end of a run only marks records, so it keeps them all and leaves them apart. -/
theorem Guarded.finish {a : Assigner} (ha : a.Guarded) :
    a.snapshot.KeptIn a.finish.2 ∧ a.finish.2.Apart := by
  have howned : ∀ e : EntityRecord,
      (if a.isDropped e then { e with retired := true } else e).owned = e.owned ++ [] := by
    intro e
    rw [List.append_nil]
    split <;> rfl
  have hkept := fun e => EntityRecord.keptIn_of_owned (howned e)
  have huids : a.finish.2.uids = a.snapshot.uids := by
    rw [Snapshot.uids, Assigner.finish, List.flatMap_map]
    refine List.flatMap_congr fun e _ => ?_
    simpa using EntityRecord.uids_of_owned (howned e)
  constructor
  · refine ⟨_, [], (List.append_nil _).symm, ?_⟩
    exact List.forall₂_map_right_iff.mpr (List.forall₂_same.mpr fun e _ => hkept e)
  · refine ha.apart.of_same ?_ ?_ (huids ▸ ha.apart.uids)
    · rw [Snapshot.entityNames, Assigner.finish, List.map_map]
      exact List.map_congr_left fun e _ => (hkept e).name
    · rw [Assigner.finish, List.map_map]
      exact List.map_congr_left fun e _ => (hkept e).id

/-- An assigner that started from an accepted snapshot may be given any shapes, and be used on after
each one that it refuses. Whatever it has been given, everything that was recorded is recorded in the
end, with what came to it behind, and can be told apart. Every entity that was returned on the way is
recorded as it was returned, and no shape, refused or not, has touched a record of another name. -/
theorem assignEach_keeps {previous : Snapshot} (hvalid : previous.validate = .ok ())
    (nameSpace : String) (strategy : IdStrategy) (source : Option String)
    (shapes : List EntityShape) :
    let a := start previous nameSpace strategy source
    let final := (a.assignEach shapes).finish.2
    previous.KeptIn final ∧ final.Apart ∧
      ∀ before shape after, shapes = before ++ shape :: after →
        let b := a.assignEach before
        (∀ entity, (b.assign shape).result = .ok entity → entity.owned ⊆ final.owned) ∧
          (b.assign shape).state.snapshot.entities.filter (·.name ≠ shape.name) =
            b.snapshot.entities.filter (·.name ≠ shape.name) := by
  intro a final
  have hsound := sound_start (Snapshot.validate_eq_ok_iff.mp hvalid).toUnambiguous nameSpace
    strategy source
  have hstart : a.Guarded := ⟨hsound.unambiguous.apart, fun uid => (hsound.ledger uid).mpr⟩
  obtain ⟨hkept, hapart⟩ := (hstart.assignEach shapes).finish
  refine ⟨(a.keptIn_assignEach shapes).trans hkept, hapart, ?_⟩
  rintro before shape after rfl b
  refine ⟨fun entity hentity => ?_, b.others_assign shape⟩
  -- it was recorded when it was returned, and the shapes after it have kept it
  have hrest : (b.assign shape).state.snapshot.KeptIn
      (a.assignEach (before ++ shape :: after)).snapshot := by
    rw [assignEach_append]
    exact keptIn_assignEach _ after
  exact List.Subset.trans (owned_subset_of_assign hentity) (hrest.trans hkept).owned_subset

/-- Two entities of which the second has the UID that a second property of the first would get. -/
def barredSnapshot : Snapshot :=
  ⟨snapshotVersion, none,
    [⟨⟨5, 11⟩, "User", none, false, none, []⟩, ⟨⟨3, 110001⟩, "Note", none, false, none, []⟩]⟩

/-- A shape that asks for properties of given names. -/
def shapeOf (name : String) (properties : List String) : EntityShape :=
  ⟨name, properties.map fun p => ⟨p, p, "i64", ⟨[.id]⟩, ⟨.long, .int64⟩⟩, 0⟩

/-- The first shape is refused its second property, the next two are refused because the name was
declared and because they ask for nothing, and the last one is assigned two properties of one
name. -/
def barredShapes : List EntityShape :=
  [shapeOf "User" ["id", "name"], shapeOf "User" ["id"], shapeOf "Empty" [],
    shapeOf "Tag" ["id", "id"]]

/-- The property in front of the refused one stays, the names declared by refused shapes are not
retired, and the last shape gets what it would have got alone. -/
theorem assignEach_keeps_barred :
    let a := start barredSnapshot "app" .sequential none
    let final := (a.assignEach barredShapes).finish.2
    final.entities.map (fun e => (e.name, e.retired, e.id.id.toNat)) =
        [("User", false, 5), ("Note", true, 3), ("Tag", false, 6)] ∧
      final.entities.map (fun e => e.properties.map fun p => (p.name, p.id.id.toNat)) =
        [[("id", 0)], [], [("id", 0), ("id", 1)]] ∧
      barredSnapshot.KeptIn final ∧ final.Apart := by
  intro a final
  have hvalid : barredSnapshot.validate = .ok () := by decide +kernel
  obtain ⟨hkept, hapart, -⟩ := assignEach_keeps hvalid "app" .sequential none barredShapes
  refine ⟨?_, ?_, hkept, hapart⟩ <;> decide +kernel

end Assigner

end RecordSchema
