/-
What a derivation comes to.

A derivation that is not refused has started from a consistent snapshot, has declared every entity
once, and leaves the merge of its outlines: `deriveModel_of_ok` collects what holds then. All that
is said of runs elsewhere is concluded from `Derives` alone, without looking at the assigner again.

The merged snapshot is always unambiguous. Whether it is consistent is another matter, since that
also asks for the highest entity identifier.
-/
import RecordSchema.Proofs.Assigner.Run
import RecordSchema.Proofs.Pairing

set_option autoImplicit false

namespace RecordSchema

/-! ## Retiring -/

/-- Names, identifiers and properties are all that makes a snapshot unambiguous. -/
theorem Snapshot.Unambiguous.map_entities {s : Snapshot} (h : s.Unambiguous)
    {f : EntityRecord → EntityRecord}
    (hf : ∀ e : EntityRecord, (f e).id = e.id ∧ (f e).name = e.name ∧
      (f e).lastPropertyId = e.lastPropertyId ∧ (f e).properties = e.properties) :
    ({ s with entities := s.entities.map f } : Snapshot).Unambiguous := by
  have hid : ∀ e : EntityRecord, (f e).id = e.id := fun e => (hf e).1
  have hname : ∀ e : EntityRecord, (f e).name = e.name := fun e => (hf e).2.1
  have huids : ∀ e : EntityRecord, (f e).uids = e.uids := by
    intro e
    rw [EntityRecord.uids, EntityRecord.uids, hid, (hf e).2.2.2]
  refine ⟨h.version, ?_, ?_, ?_, ?_, ?_⟩
  · simpa only [List.map_map, Function.comp_def, hname] using h.names
  · simpa only [List.map_map, Function.comp_def, hid] using h.ids
  · simpa only [List.forall_mem_map, hid] using h.range
  · simpa only [Snapshot.uids, List.flatMap_map, huids] using h.uids
  · rw [List.forall_mem_map]
    intro e he
    obtain ⟨hnames, hids, hlast⟩ := h.entities e he
    obtain ⟨-, -, hl, hp⟩ := hf e
    exact ⟨by rwa [hp], by rwa [hp], by rwa [hp, hl]⟩

namespace Assigner

/-- The end of a run leaves a snapshot unambiguous. -/
theorem unambiguous_finish {a : Assigner} (h : a.snapshot.Unambiguous) :
    a.finish.2.Unambiguous := by
  refine h.map_entities fun e => ?_
  split <;> exact ⟨rfl, rfl, rfl, rfl⟩

/-- A record whose name was declared is still there in the end. -/
theorem mem_finish {a : Assigner} {r : EntityRecord} (hr : r ∈ a.snapshot.entities)
    (hseen : r.name ∈ a.seen) : r ∈ a.finish.2.entities := by
  refine List.mem_map.mpr ⟨r, hr, ?_⟩
  rw [isDropped_of_seen hseen, if_neg Bool.false_ne_true]

end Assigner

/-! ## Derivations -/

/-- What holds of a derivation that was not refused. -/
structure Derives (nameSpace : String) (declarations : List Declaration) (previous : Snapshot)
    (options : DeriveOptions) (model : Model) (merged : Snapshot) : Prop where
  consistent : previous.Consistent
  distinct : (declarations.map (·.outline.name)).Nodup
  eq_merge : merged = previous.merge nameSpace options (declarations.map (·.outline))
  fits : previous.Fits nameSpace options (declarations.map (·.outline))
  unambiguous : merged.Unambiguous
  under : model.nameSpace = nameSpace
  realized : ∃ shapes : List EntityShape,
    Declaration.buildAll declarations = .ok shapes ∧
      List.Forall₂ (fun shape (e : Entity) => ∃ r ∈ merged.entities, e.Realizes shape r)
        shapes model.entities

section Derivation

variable {nameSpace : String} {declarations : List Declaration} {previous merged : Snapshot}
  {options : DeriveOptions} {model : Model}

/-- A derivation that comes out has passed the check, the building and the assignment. -/
theorem deriveModel_eq_ok
    (h : (deriveModel nameSpace declarations previous options).result = .ok (model, merged)) :
    previous.validate = .ok () ∧ ∃ shapes, Declaration.buildAll declarations = .ok shapes ∧
      ((Assigner.start previous nameSpace options.strategy options.source).assignAll
        shapes).result = .ok model.entities ∧
      merged = ((Assigner.start previous nameSpace options.strategy options.source).assignAll
        shapes).state.finish.2 ∧ model.nameSpace = nameSpace := by
  unfold deriveModel at h
  cases hvalid : previous.validate with
  | error e =>
      rw [hvalid] at h
      cases h
  | ok _ =>
      rw [hvalid] at h
      dsimp only at h
      cases hbuilt : Declaration.buildAll declarations with
      | error e =>
          rw [hbuilt] at h
          cases h
      | ok shapes =>
          rw [hbuilt] at h
          dsimp only at h
          cases hassigned : ((Assigner.start previous nameSpace options.strategy
              options.source).assignAll shapes).result with
          | error e =>
              rw [hassigned] at h
              cases h
          | ok entities =>
              rw [hassigned] at h
              cases h
              exact ⟨rfl, shapes, rfl, hassigned, rfl, rfl⟩

/-- A derivation that is refused fails the check, the building or the assignment. -/
theorem deriveModel_eq_error {error : SchemaError}
    (h : (deriveModel nameSpace declarations previous options).result = .error error) :
    (∃ cause, error = .snapshot cause) ∨ previous.validate = .ok () ∧
      (Declaration.buildAll declarations = .error error ∨
        ∃ shapes, Declaration.buildAll declarations = .ok shapes ∧
          ((Assigner.start previous nameSpace options.strategy options.source).assignAll
            shapes).result = .error error) := by
  unfold deriveModel at h
  cases hvalid : previous.validate with
  | error cause =>
      rw [hvalid] at h
      cases h
      exact Or.inl ⟨cause, rfl⟩
  | ok _ =>
      rw [hvalid] at h
      dsimp only at h
      refine Or.inr ⟨rfl, ?_⟩
      cases hbuilt : Declaration.buildAll declarations with
      | error e =>
          rw [hbuilt] at h
          cases h
          exact Or.inl rfl
      | ok shapes =>
          rw [hbuilt] at h
          dsimp only at h
          refine Or.inr ⟨shapes, rfl, ?_⟩
          cases hassigned : ((Assigner.start previous nameSpace options.strategy
              options.source).assignAll shapes).result with
          | error e =>
              rw [hassigned] at h
              cases h
              rfl
          | ok entities =>
              rw [hassigned] at h
              cases h

/-- A run starts having seen nothing, so what it has seen in the end are the names of the
declarations. -/
theorem mem_seen_iff_of_buildAll {shapes : List EntityShape}
    (hbuilt : Declaration.buildAll declarations = .ok shapes) {strategy : IdStrategy}
    {source : Option String} {seen : List String}
    (hseen : seen = (shapes.map (·.name)).reverse ++
      (Assigner.start previous nameSpace strategy source).seen) (name : String) :
    name ∈ seen ↔ name ∈ (declarations.map (·.outline)).map (·.name) := by
  have hnames : shapes.map (·.name) = (declarations.map (·.outline)).map (·.name) := by
    rw [Declaration.map_name_of_buildAll hbuilt, List.map_map]
    rfl
  rw [hseen, List.mem_append, List.mem_reverse, hnames]
  exact or_iff_left List.not_mem_nil

/-- A derivation that comes out leaves the merge of its outlines, and every entity of its model has
a record there, if the stored fields of every new entity have different names. -/
theorem deriveModel_of_ok_of_new
    (hnew : ∀ d ∈ declarations, d.name ∉ previous.entityNames → d.storedNames.Nodup)
    (h : (deriveModel nameSpace declarations previous options).result = .ok (model, merged)) :
    Derives nameSpace declarations previous options model merged := by
  obtain ⟨hvalid, shapes, hbuilt, hassigned, hmerged, hnameSpace⟩ := deriveModel_eq_ok h
  have hconsistent := Snapshot.validate_eq_ok_iff.mp hvalid
  obtain ⟨houtlines, -⟩ := Declaration.outline_of_buildAll hbuilt
  have hnodup : ∀ shape ∈ shapes,
      shape.name ∉ previous.entityNames → shape.outline.properties.Nodup :=
    Declaration.forall_outline_of_buildAll hbuilt
      (P := fun o => o.name ∉ previous.entityNames → o.properties.Nodup) hnew
  have hruns := Assigner.assignAll_of_ok
    (Assigner.sound_start hconsistent.toUnambiguous nameSpace options.strategy options.source)
    hnodup hassigned
  obtain ⟨hnewTo, hsound, hfits, hsnapshot, hseen, hsource, hrealized⟩ := hruns
  rw [houtlines] at hfits hsnapshot
  have hnames : shapes.map (·.name) = declarations.map (·.outline.name) :=
    Declaration.map_name_of_buildAll hbuilt
  refine ⟨hconsistent, hnames ▸ hnewTo.1, ?_, hfits, ?_, hnameSpace, shapes, hbuilt, ?_⟩
  · rw [hmerged]
    exact Assigner.finish_eq_merge hsnapshot hsource (mem_seen_iff_of_buildAll hbuilt hseen)
  · rw [hmerged]
    exact Assigner.unambiguous_finish hsound.unambiguous
  · rw [hmerged]
    have hseenAll : ∀ shape ∈ shapes, shape.name ∈ ((Assigner.start previous nameSpace
        options.strategy options.source).assignAll shapes).state.seen := by
      intro shape hshape
      rw [hseen]
      exact List.mem_append_left _ (List.mem_reverse.mpr (List.mem_map_of_mem hshape))
    refine ((List.forall₂_and_left shapes _).mpr ⟨hseenAll, hrealized⟩).imp ?_
    rintro shape e ⟨hshape, r, hr, hrealizes⟩
    exact ⟨r, Assigner.mem_finish hr (hrealizes.recordName ▸ hshape), hrealizes⟩

/-- The same for declarations whose fields have different names. -/
theorem deriveModel_of_ok (hfields : ∀ d ∈ declarations, d.FieldsDistinct)
    (h : (deriveModel nameSpace declarations previous options).result = .ok (model, merged)) :
    Derives nameSpace declarations previous options model merged :=
  deriveModel_of_ok_of_new (fun d hd _ => (hfields d hd).nodup_storedNames) h

namespace Derives

variable (h : Derives nameSpace declarations previous options model merged)

include h

/-- Every declaration has a property that is stored. -/
theorem storedNames_ne_nil {d : Declaration} (hd : d ∈ declarations) : d.storedNames ≠ [] := by
  obtain ⟨shapes, hbuilt, -⟩ := h.realized
  obtain ⟨houtlines, hne⟩ := Declaration.outline_of_buildAll hbuilt
  have hmem : d.outline ∈ shapes.map EntityShape.outline := houtlines ▸ List.mem_map_of_mem hd
  obtain ⟨shape, hshape, houtline⟩ := List.mem_map.mp hmem
  change d.outline.properties ≠ []
  rw [← houtline]
  exact fun hnil => hne shape hshape (List.map_eq_nil_iff.mp hnil)

/-- Every entity of the model realizes a shape with the identifiers of a record. -/
theorem exists_record {e : Entity} (he : e ∈ model.entities) :
    ∃ shape, ∃ r ∈ merged.entities, e.Realizes shape r := by
  obtain ⟨shapes, -, hrealized⟩ := h.realized
  obtain ⟨shape, -, r, hr, hrealizes⟩ := exists_mem_of_forall₂ hrealized.flip he
  exact ⟨shape, r, hr, hrealizes⟩

/-- Every declared property has a number in its entity's record that has a slot. -/
theorem id_le_maxPropertyId {d : Declaration} (hd : d ∈ declarations) {r : EntityRecord}
    (hr : r ∈ merged.entities) (hname : r.name = d.name) {p : PropertyRecord}
    (hp : p ∈ r.properties) (hstored : p.name ∈ d.storedNames) :
    p.id.id.toNat ≤ maxPropertyId := by
  obtain ⟨shapes, hbuilt, hrealized⟩ := h.realized
  obtain ⟨houtlines, -⟩ := Declaration.outline_of_buildAll hbuilt
  have hmem : d.outline ∈ shapes.map EntityShape.outline := houtlines ▸ List.mem_map_of_mem hd
  obtain ⟨shape, hshape, houtline⟩ := List.mem_map.mp hmem
  obtain ⟨e, -, r', hr', hrealizes⟩ := exists_mem_of_forall₂ hrealized hshape
  obtain rfl : r' = r := by
    refine List.inj_on_of_nodup_map h.unambiguous.names hr' hr ?_
    rw [hrealizes.recordName, hname]
    exact congrArg Outline.name houtline
  -- the property of the model that has this name
  have hshapeName : p.name ∈ shape.properties.map (·.name) := by
    have hproperties := congrArg Outline.properties houtline
    change shape.properties.map (·.name) = d.storedNames at hproperties
    rwa [hproperties]
  rw [← hrealizes.shapes, List.map_map] at hshapeName
  obtain ⟨q, hq, hqp⟩ := List.mem_map.mp hshapeName
  change q.name = p.name at hqp
  have hid := hrealizes.ids q hq
  have hfound : r'.property? p.name = some p :=
    (find?_key_eq_some_iff (h.unambiguous.entities r' hr).names).mpr ⟨hp, rfl⟩
  rw [hqp, hfound, Option.map_some, Option.some.injEq] at hid
  rw [hid]
  exact (hrealizes.slots q hq).1

/-- The numeric IDs of new entities differ and have 24 bits. -/
theorem id_newRecords :
    ((previous.newRecords nameSpace options (declarations.map (·.outline))).map (·.id.id)).Nodup ∧
      ∀ id ∈ (previous.newRecords nameSpace options (declarations.map (·.outline))).map (·.id.id),
        id.toNat ≤ maxEntityId := by
  have hids := h.unambiguous.ids
  have hrange := h.unambiguous.range
  rw [h.eq_merge] at hids hrange
  constructor
  · exact hids.sublist ((List.sublist_append_right _ _).map _)
  · intro id hid
    obtain ⟨r, hr, rfl⟩ := List.mem_map.mp hid
    exact hrange r (List.mem_append_right _ hr)

/-- The new entity at position `k` of a run that counts has the number at that distance from the
highest, or it is the only one and counting starts over with it. -/
theorem countedId_of_sequential (hseq : options.strategy = .sequential) {k : Nat}
    (hk : k < (previous.newOutlines (declarations.map (·.outline))).length) :
    (previous.highestId + 1 < UInt32.size →
        (previous.countedId k).toNat = previous.highestId + 1 + k) ∧
      (previous.highestId + 1 = UInt32.size → k = 0 ∧ previous.countedId k = 0) := by
  obtain ⟨hdistinct, hbounded⟩ := h.id_newRecords
  rw [previous.map_id_newRecords_sequential nameSpace hseq] at hdistinct hbounded
  refine Snapshot.countedId_of_nodup hdistinct (fun j hj => ?_) hk
  exact hbounded _ (List.mem_map_of_mem (List.mem_range.mpr hj))

end Derives

/-- A derivation that comes out leaves the merge of what was declared into the previous snapshot.
The properties that it adds to a recorded entity are numbered on from the last one ever issued
there, those of a new entity from zero, and new entities that are counted go on from the highest ID
ever issued, all as integers. Only where the highest ID is the highest word of all, counting starts
over: there can be one new entity then, and its ID is zero. -/
theorem deriveModel_merges (hfields : ∀ d ∈ declarations, d.FieldsDistinct)
    (h : (deriveModel nameSpace declarations previous options).result = .ok (model, merged)) :
    merged = previous.merge nameSpace options (declarations.map (·.outline)) ∧
      (∀ r ∈ previous.entities, ∀ d ∈ declarations, d.name = r.name →
        PropertyRecord.NumberedFrom r.id.uid r.nextNumber (r.added d.storedNames)) ∧
      ∀ k r, (previous.newRecords nameSpace options (declarations.map (·.outline)))[k]? = some r →
        PropertyRecord.NumberedFrom r.id.uid 0 r.properties ∧
          (options.strategy = .sequential →
            (previous.highestId + 1 < UInt32.size → r.id.id.toNat = previous.highestId + 1 + k) ∧
              (previous.highestId + 1 = UInt32.size → k = 0 ∧ r.id.id = 0)) := by
  have hderives := deriveModel_of_ok hfields h
  have hfits := hderives.fits
  refine ⟨hderives.eq_merge, ?_, ?_⟩
  · intro r hr d hd hname
    refine PropertyRecord.numberedFrom_numbered ?_
    exact hfits.renewed r hr d.outline (List.mem_map_of_mem hd) hname
  · intro k r hr
    rw [Snapshot.newRecords, List.getElem?_mapIdx] at hr
    obtain ⟨outline, houtline, rfl⟩ := Option.map_eq_some_iff.mp hr
    refine ⟨PropertyRecord.numberedFrom_numbered ?_, fun hseq => ?_⟩
    · have hnum := hfits.fresh outline (List.mem_of_getElem? houtline)
      rwa [← Snapshot.uid_issuedId previous nameSpace options.strategy k] at hnum
    · obtain ⟨hk, -⟩ := List.getElem?_eq_some_iff.mp houtline
      rw [EntityRecord.fresh_id, hseq]
      exact hderives.countedId_of_sequential hseq hk

end Derivation

/-! ## A merge of each kind -/

/-- A retired entity with two properties whose numbers are not consecutive, and a live one without
any. -/
def mixedSnapshot : Snapshot :=
  ⟨snapshotVersion, none,
    [⟨⟨7, 11⟩, "User", none, true, some ⟨4, 110004⟩,
      [⟨⟨0, 110000⟩, "id", true⟩, ⟨⟨4, 110004⟩, "email", true⟩]⟩,
      ⟨⟨2, 12⟩, "Note", none, false, none, []⟩]⟩

/-- The retired entity with a property more and a transient field, and a new one. -/
def mixedDeclarations : List Declaration :=
  [.ofParts "User" [("name", "String", ""), ("id", "i64", "id"), ("cache", "String", "transient")],
    .ofParts "Tag" [("id", "i64", "id")]]

/-- The entity comes back with its property, its other property stays retired and the new one goes
on from the last number; the undeclared entity is retired, and the new one is counted on. -/
theorem deriveModel_merges_mixed :
    ∃ model merged,
      (deriveModel "app" mixedDeclarations mixedSnapshot ⟨.sequential, none⟩).result =
        .ok (model, merged) ∧
      merged.entities.map (fun e => (e.name, e.retired, e.id.id.toNat)) =
        [("User", false, 7), ("Note", true, 2), ("Tag", false, 8)] ∧
      merged.entities.map (fun e => e.properties.map fun p => (p.name, p.retired, p.id.id.toNat)) =
        [[("id", false, 0), ("email", true, 4), ("name", false, 5)], [], [("id", false, 0)]] := by
  obtain ⟨⟨model, merged⟩, h⟩ := exists_eq_ok (x := (deriveModel "app" mixedDeclarations
    mixedSnapshot ⟨.sequential, none⟩).result) (by decide +kernel)
  obtain ⟨rfl, -, -⟩ := deriveModel_merges (by decide) h
  exact ⟨model, _, h, by decide +kernel, by decide +kernel⟩

/-- With the highest word of all on record counting starts over, and that word stays on record. -/
example :
    ((deriveModel "app" mixedDeclarations { mixedSnapshot with lastEntityId := some ⟨4294967295, 13⟩ }
      ⟨.sequential, none⟩).result.toOption.map fun out =>
        (out.2.lastEntityId, out.2.entities.map fun e => (e.name, e.id.id))) =
      some (some ⟨4294967295, 13⟩, [("User", 7), ("Note", 2), ("Tag", 0)]) := by
  decide +kernel

end RecordSchema
