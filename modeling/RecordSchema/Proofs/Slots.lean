/-
Which properties of an entity share a place in storage.

A property is stored under its numeric ID, its UID and its slot, and none of the three may belong to
a second property of the entity. What decides is the name. A recorded entity looks its properties up
by name, so two of one name come out as one and the same place; a new entity numbers its properties
by position, so that no two meet. Hence an entity is free of overlaps exactly if its stored fields
have different names. The building of a shape does not see to that: it compares storage names only.

Nothing is assumed of the declarations here, so the invariant of a run is not available: after two
properties of one name its snapshot is ambiguous. What is used instead is that a record of a name
not yet declared is still the one that the run started from.
-/
import RecordSchema.Proofs.Assigner.Frame

set_option autoImplicit false

namespace RecordSchema

/-! ## Places -/

/-- Equality of one key and equality of another agree on a list, so one repeats where the other
does. -/
theorem nodup_map_congr {α β γ : Type} {xs : List α} {f : α → β} {g : α → γ}
    (h : ∀ x ∈ xs, ∀ y ∈ xs, f x = f y ↔ g x = g y) : (xs.map f).Nodup ↔ (xs.map g).Nodup := by
  rw [List.Nodup, List.Nodup, List.pairwise_map, List.pairwise_map]
  refine List.Pairwise.iff_of_mem ?_
  intro x y hx hy
  exact not_congr (h x hx y hy)

/-- Slots are different exactly if the numeric IDs are. -/
theorem Property.HasSlot.vtableOffset_eq_iff {p q : Property} (hp : p.HasSlot) (hq : q.HasSlot) :
    p.vtableOffset = q.vtableOffset ↔ p.id.id = q.id.id := by
  have hpo := hp.2
  have hqo := hq.2
  rw [← UInt16.toNat_inj, ← UInt32.toNat_inj, hpo, hqo]
  simp only [vtableHeaderBytes, vtableSlotBytes]
  omega

namespace Entity

/-- Names, numeric IDs, UIDs and slots of the properties are each pairwise distinct. -/
structure Distinct (e : Entity) : Prop where
  names : (e.properties.map (·.name)).Nodup
  ids : (e.properties.map (·.id.id)).Nodup
  uids : (e.properties.map (·.id.uid)).Nodup
  offsets : (e.properties.map (·.vtableOffset)).Nodup

theorem distinct_iff {e : Entity} : e.Distinct ↔ (e.properties.map (·.name)).Nodup ∧
    (e.properties.map (·.id.id)).Nodup ∧ (e.properties.map (·.id.uid)).Nodup ∧
    (e.properties.map (·.vtableOffset)).Nodup :=
  ⟨fun h => ⟨h.names, h.ids, h.uids, h.offsets⟩, fun ⟨h₁, h₂, h₃, h₄⟩ => ⟨h₁, h₂, h₃, h₄⟩⟩

instance (e : Entity) : Decidable e.Distinct := decidable_of_iff _ distinct_iff.symm

/-- Two properties have a place in common exactly if they have their name in common, and then all
of it. -/
structure PlacedByName (e : Entity) : Prop where
  ids : ∀ p ∈ e.properties, ∀ q ∈ e.properties, p.id.id = q.id.id ↔ p.name = q.name
  uids : ∀ p ∈ e.properties, ∀ q ∈ e.properties, p.id.uid = q.id.uid ↔ p.name = q.name
  offsets : ∀ p ∈ e.properties, ∀ q ∈ e.properties, p.vtableOffset = q.vtableOffset ↔ p.name = q.name

/-- No two properties have a place in common, whatever their names. -/
structure PlacedApart (e : Entity) : Prop where
  ids : (e.properties.map (·.id.id)).Nodup
  uids : (e.properties.map (·.id.uid)).Nodup
  offsets : (e.properties.map (·.vtableOffset)).Nodup

/-- Where names decide, different names are all that is needed. -/
theorem PlacedByName.distinct_iff {e : Entity} (h : e.PlacedByName) :
    e.Distinct ↔ (e.properties.map (·.name)).Nodup := by
  refine ⟨Distinct.names, fun hnames => ⟨hnames, ?_, ?_, ?_⟩⟩
  · exact (nodup_map_congr h.ids).mpr hnames
  · exact (nodup_map_congr h.uids).mpr hnames
  · exact (nodup_map_congr h.offsets).mpr hnames

theorem PlacedApart.distinct_iff {e : Entity} (h : e.PlacedApart) :
    e.Distinct ↔ (e.properties.map (·.name)).Nodup :=
  ⟨Distinct.names, fun hnames => ⟨hnames, h.ids, h.uids, h.offsets⟩⟩

/-- Properties that are looked up by name in a record agree on a part of their identifiers exactly if
they have one name, where no two properties of the record agree on it. -/
private theorem key_eq_iff_of_record {γ : Type} {e : Entity} {r : EntityRecord}
    (hfound : ∀ p ∈ e.properties, (r.property? p.name).map (·.id) = some p.id) (key : IdUid → γ)
    (hkeys : (r.properties.map fun p => key p.id).Nodup) :
    ∀ p ∈ e.properties, ∀ q ∈ e.properties, key p.id = key q.id ↔ p.name = q.name := by
  have hlookup : ∀ p ∈ e.properties, ∃ q ∈ r.properties, q.name = p.name ∧ q.id = p.id :=
    fun p hp => EntityRecord.exists_of_map_id_property? (hfound p hp)
  intro p hp q hq
  constructor
  · -- the two are looked up to properties with one key, and that is one property
    intro hkey
    obtain ⟨p', hp', hpn, hpid⟩ := hlookup p hp
    obtain ⟨q', hq', hqn, hqid⟩ := hlookup q hq
    have heq : p' = q' := List.inj_on_of_nodup_map hkeys hp' hq' (by rw [hpid, hqid, hkey])
    rw [← hpn, ← hqn, heq]
  · intro hname
    have hid := hfound p hp
    rw [hname, hfound q hq, Option.some.injEq] at hid
    rw [hid]

/-- Properties that are looked up by name in a consistent record are placed by name. -/
theorem placedByName_of_record {e : Entity} {r : EntityRecord} (hr : r.Consistent)
    (huids : (r.properties.map (·.id.uid)).Nodup)
    (hfound : ∀ p ∈ e.properties, (r.property? p.name).map (·.id) = some p.id)
    (hslots : ∀ p ∈ e.properties, p.HasSlot) : e.PlacedByName := by
  have hids := key_eq_iff_of_record hfound IdUid.id hr.ids
  refine ⟨hids, key_eq_iff_of_record hfound IdUid.uid huids, fun p hp q hq => ?_⟩
  rw [(hslots p hp).vtableOffset_eq_iff (hslots q hq)]
  exact hids p hp q hq

end Entity

/-! ## One shape of a run -/

namespace Assigner

section OneShape

variable {s : Snapshot} {nameSpace : String} {strategy : IdStrategy} {source : Option String}
  {b : Assigner} {shape : EntityShape} {entity : Entity}

/-- A record of a name that was not declared yet is one of the start. -/
theorem mem_of_reaches_start (hb : (start s nameSpace strategy source).Reaches b)
    (hnew : shape.name ∉ b.seen) {r : EntityRecord} (hr : r ∈ b.snapshot.entities)
    (hname : r.name = shape.name) : r ∈ s.entities :=
  (hb.unseen r (hname ▸ hnew)).mp hr

/-- A name that was not declared yet is recorded exactly if it was at the start. -/
theorem mem_entityNames_of_reaches_start (hb : (start s nameSpace strategy source).Reaches b)
    (hnew : shape.name ∉ b.seen) :
    shape.name ∈ b.snapshot.entityNames ↔ shape.name ∈ s.entityNames := by
  rw [Snapshot.entityNames, Snapshot.entityNames, List.mem_map, List.mem_map]
  refine exists_congr fun r => and_congr_left fun hname => ?_
  exact hb.unseen r (hname ▸ hnew)

/-- What the ledger of a run holds at the start it holds ever after. -/
theorem uids_subset_of_reaches_start (hb : (start s nameSpace strategy source).Reaches b) :
    s.uids ⊆ b.ledger.uids := by
  refine List.Subset.trans ?_ hb.held
  intro uid huid
  change uid ∈ (Ledger.ofSnapshot s).uids
  rw [Ledger.uids_ofSnapshot, List.mem_reverse]
  exact huid

/-- An entity that was recorded has its properties placed by name. -/
theorem placedByName_of_assign (hs : s.Unambiguous)
    (hb : (start s nameSpace strategy source).Reaches b)
    (h : (b.assign shape).result = .ok entity) (hrecorded : shape.name ∈ s.entityNames) :
    entity.PlacedByName := by
  have hnew : shape.name ∉ b.seen := (assign_eq_ok h).2.1
  -- its record is still that of the accepted snapshot, whatever the run did to others
  have hstart : ∀ r ∈ b.snapshot.entities, r.name = shape.name → r ∈ s.entities :=
    fun r hr hname => mem_of_reaches_start hb hnew hr hname
  obtain ⟨id, ids, hidentify, hshapes, hids, hslots, hbound⟩ := laidOut_of_assign h
  have hmem : shape.name ∈ b.snapshot.entityNames :=
    (mem_entityNames_of_reaches_start hb hnew).mpr hrecorded
  obtain ⟨i, r, hr, -, heq⟩ := identify_of_mem (a := { b with seen := shape.name :: b.seen }) hmem
    (shape.properties.map (·.name))
  rw [heq] at hidentify
  obtain ⟨rfl, hrun⟩ := reuse_of_ok hidentify
  have hold : r ∈ s.entities := by
    refine hstart r (List.mem_of_find?_eq_some hr) ?_
    simpa using List.find?_some hr
  have hcons := hs.entities r hold
  have hroom := Renewal.hasRoom_of_run hcons.names hrun hbound
  have hrenews := Renewal.run_of_ok hcons.names hroom hrun
  -- the UIDs of the record were held, and those it gained were not
  have hruids : r.uids ⊆ s.uids := fun uid huid => List.mem_flatMap.mpr ⟨r, hold, huid⟩
  have huids : (r.declared b.source (shape.properties.map (·.name))).uids.Nodup := by
    rw [EntityRecord.uids_declared, nodup_append_iff_newTo]
    refine ⟨(List.nodup_flatMap.mp hs.uids).1 r hold, hrenews.newTo.mono ?_⟩
    exact List.Subset.trans hruids (uids_subset_of_reaches_start (b := b) hb)
  refine Entity.placedByName_of_record (hcons.declared hrenews.numberable)
    (List.nodup_cons.mp huids).2 ?_ hslots
  exact map_id_property?_of_laidOut hshapes hids hrenews.ids

/-- An entity that was not recorded has its properties placed apart, and its record has a property
for each of them, in order. -/
theorem placedApart_of_assign (hb : (start s nameSpace strategy source).Reaches b)
    (h : (b.assign shape).result = .ok entity) (hrecorded : shape.name ∉ s.entityNames) :
    entity.PlacedApart ∧ ∃ r ∈ (b.assign shape).state.snapshot.entities,
      r.name = shape.name ∧ r.propertyNames = shape.outline.properties := by
  have hnew : shape.name ∉ b.seen := (assign_eq_ok h).2.1
  have hmem : shape.name ∉ b.snapshot.entityNames :=
    mt (mem_entityNames_of_reaches_start hb hnew).mp hrecorded
  obtain ⟨-, -, -, -, -, -, hstate⟩ := assign_eq_ok h
  obtain ⟨id, ids, hidentify, hshapes, hids, hslots, -⟩ := laidOut_of_assign h
  rw [identify_of_notMem (a := { b with seen := shape.name :: b.seen }) hmem] at hidentify hstate
  have hmints : Mints { b with seen := shape.name :: b.seen } shape.outline id ids
      (b.assign shape).state := by
    rw [hstate]
    exact mint_of_ok hidentify
  -- numbered by position, however often a name comes
  have hnumbers : entity.properties.map (·.id) =
      (PropertyRecord.numbered id.uid 0 shape.outline.properties).map (·.id) :=
    hids.trans hmints.ids
  have hidNodup : (entity.properties.map (·.id.id)).Nodup := by
    have hsame := congrArg (List.map IdUid.id) hnumbers
    rw [List.map_map, List.map_map] at hsame
    exact hsame ▸ PropertyRecord.nodup_id_numbered hmints.numberable
  have huidNodup : (entity.properties.map (·.id.uid)).Nodup := by
    have hsame := congrArg (List.map IdUid.uid) hnumbers
    rw [List.map_map, List.map_map] at hsame
    exact hsame ▸ (newTo_cons_iff.mp hmints.newTo).2.1
  refine ⟨⟨hidNodup, huidNodup, ?_⟩, .fresh b.source shape.outline id, ?_, rfl, ?_⟩
  · refine (nodup_map_congr fun p hp q hq => ?_).mpr hidNodup
    exact (hslots p hp).vtableOffset_eq_iff (hslots q hq)
  · rw [hmints.state]
    exact List.mem_append_right _ (List.mem_singleton_self _)
  · exact EntityRecord.propertyNames_fresh _ _ _

/-- An entity has the name of its shape and the names of its properties, in order. -/
theorem names_of_assign (h : (b.assign shape).result = .ok entity) :
    entity.name = shape.name ∧ entity.properties.map (·.name) = shape.outline.properties := by
  obtain ⟨-, -, id, ids, -, hcomplete, -⟩ := assign_eq_ok h
  obtain ⟨-, -, -, hshapes, -⟩ := laidOut_of_assign h
  refine ⟨(complete_of_ok hcomplete).1, ?_⟩
  change entity.properties.map ((·.name) ∘ Property.shape) = shape.properties.map (·.name)
  rw [← List.map_map, hshapes]

end OneShape

end Assigner

/-! ## A whole derivation -/

section Derivation

variable {nameSpace : String} {declarations : List Declaration} {previous merged : Snapshot}
  {options : DeriveOptions} {model : Model}

/-- The stored fields of a declaration become the properties of its entity, by name and in order. An
entity that was recorded before has two of them in one place exactly if they have one name, and a
new entity never has. So nothing of an entity overlaps exactly if its stored fields have different
names. -/
theorem deriveModel_distinct_iff
    (h : (deriveModel nameSpace declarations previous options).result = .ok (model, merged)) :
    List.Forall₂ (fun d entity => entity.name = d.name ∧
        entity.properties.map (·.name) = d.storedNames ∧
        (entity.Distinct ↔ d.storedNames.Nodup) ∧
        (d.name ∈ previous.entityNames → entity.PlacedByName) ∧
        (d.name ∉ previous.entityNames → entity.PlacedApart))
      declarations model.entities := by
  obtain ⟨hvalid, -⟩ := deriveModel_eq_ok h
  have hprevious := (Snapshot.validate_eq_ok_iff.mp hvalid).toUnambiguous
  refine forall₂_of_deriveModel (P := fun outline entity => entity.name = outline.name ∧
    entity.properties.map (·.name) = outline.properties ∧
    (entity.Distinct ↔ outline.properties.Nodup) ∧
    (outline.name ∈ previous.entityNames → entity.PlacedByName) ∧
    (outline.name ∉ previous.entityNames → entity.PlacedApart)) h ?_
  intro b shape entity hb hassign _
  obtain ⟨hname, hnames⟩ := Assigner.names_of_assign hassign
  have hrecorded : shape.name ∈ previous.entityNames → entity.PlacedByName :=
    Assigner.placedByName_of_assign hprevious hb hassign
  have hfresh : shape.name ∉ previous.entityNames → entity.PlacedApart :=
    fun hnew => (Assigner.placedApart_of_assign hb hassign hnew).1
  refine ⟨hname, hnames, ?_, hrecorded, hfresh⟩
  rw [← hnames]
  by_cases hmem : shape.name ∈ previous.entityNames
  · exact (hrecorded hmem).distinct_iff
  · exact (hfresh hmem).distinct_iff

end Derivation

/-! ## Two fields in one place -/

/-- An entity that is recorded with an identifier and one more property. -/
def recordedSnapshot : Snapshot :=
  ⟨snapshotVersion, some ⟨7, 11⟩,
    [⟨⟨7, 11⟩, "User", none, false, some ⟨1, 110001⟩,
      [⟨⟨0, 110000⟩, "id", false⟩, ⟨⟨1, 110001⟩, "x", false⟩]⟩]⟩

/-- The entity with a second field of the same name, stored under another. -/
def overlaidDeclarations : List Declaration :=
  [.ofParts "User" [("id", "i64", "id"), ("x", "String", ""), ("x", "i32", "nameInDb:\"y\"")]]

/-- The entity overlaps where it was recorded, since its fields have one name, and has all of it
apart where it was not. -/
theorem deriveModel_distinct_iff_overlaid :
    (∃ model merged, (deriveModel "app" overlaidDeclarations recordedSnapshot
        ⟨.hashed, none⟩).result = .ok (model, merged) ∧
      ∀ e ∈ model.entities, e.PlacedByName ∧ ¬e.Distinct) ∧
    ∃ model merged, (deriveModel "app" overlaidDeclarations .empty
        ⟨.hashed, none⟩).result = .ok (model, merged) ∧
      ∀ e ∈ model.entities, e.PlacedApart ∧ ¬e.Distinct := by
  have hrepeat : ∀ d ∈ overlaidDeclarations, ¬d.storedNames.Nodup := by decide +kernel
  constructor
  · obtain ⟨⟨model, merged⟩, h⟩ := exists_eq_ok (x := (deriveModel "app" overlaidDeclarations
      recordedSnapshot ⟨.hashed, none⟩).result) (by decide +kernel)
    refine ⟨model, merged, h, fun e he => ?_⟩
    obtain ⟨d, hd, -, -, hiff, hrecorded, -⟩ :=
      exists_mem_of_forall₂ (deriveModel_distinct_iff h).flip he
    refine ⟨hrecorded ?_, fun hdistinct => hrepeat d hd (hiff.mp hdistinct)⟩
    rw [List.mem_singleton.mp hd]
    decide
  · obtain ⟨⟨model, merged⟩, h⟩ := exists_eq_ok (x := (deriveModel "app" overlaidDeclarations
      .empty ⟨.hashed, none⟩).result) (by decide +kernel)
    refine ⟨model, merged, h, fun e he => ?_⟩
    obtain ⟨d, hd, -, -, hiff, -, hfresh⟩ :=
      exists_mem_of_forall₂ (deriveModel_distinct_iff h).flip he
    exact ⟨hfresh List.not_mem_nil, fun hdistinct => hrepeat d hd (hiff.mp hdistinct)⟩

/-- The snapshot is accepted, and two properties of the entity come out with one numeric ID, one UID
and one slot. -/
theorem deriveModel_overlaid :
    recordedSnapshot.validate = .ok () ∧
      ((deriveModel "app" overlaidDeclarations recordedSnapshot
        ⟨.hashed, none⟩).result.toOption.map fun out => out.1.entities.map fun e =>
          (decide e.Distinct, e.properties.map fun p => (p.name, p.id, p.vtableOffset))) =
        some [(false, [("id", ⟨0, 110000⟩, 4), ("x", ⟨1, 110001⟩, 6), ("x", ⟨1, 110001⟩, 6)])] := by
  decide +kernel

end RecordSchema
