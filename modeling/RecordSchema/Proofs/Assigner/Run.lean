/-
What a run of the assigner comes to.

A run identifies shapes one after the other. Each step extends the snapshot by the outline of its
shape and gives an entity that realizes the shape with the identifiers of a record; a later step
declares other names and leaves that record alone. So by induction a run extends the snapshot by all
outlines at once, and every entity has its record in the snapshot that is reached.

In the end what was not declared is retired, which makes the extension the merge.
-/
import RecordSchema.Proofs.Assigner.Outcome

set_option autoImplicit false

namespace RecordSchema

/-! ## Entities and their records -/

/-- A name that is looked up to an identifier is recorded with it. -/
theorem EntityRecord.exists_of_map_id_property? {r : EntityRecord} {name : String} {id : IdUid}
    (h : (r.property? name).map (·.id) = some id) :
    ∃ q ∈ r.properties, q.name = name ∧ q.id = id := by
  obtain ⟨q, hq, hid⟩ := Option.map_eq_some_iff.mp h
  have hname : q.name = name := by simpa using List.find?_some hq
  exact ⟨q, List.mem_of_find?_eq_some hq, hname, hid⟩

/-- A property has a slot, and its offset is the exact one. -/
def Property.HasSlot (p : Property) : Prop :=
  p.id.id.toNat ≤ maxPropertyId ∧
    p.vtableOffset.toNat = vtableHeaderBytes + vtableSlotBytes * p.id.id.toNat

/-- An entity of a model is a shape with the identifiers of a record. -/
structure Entity.Realizes (e : Entity) (shape : EntityShape) (r : EntityRecord) : Prop where
  name : e.name = shape.name
  recordName : r.name = shape.name
  id : e.id = r.id
  idIndex : e.idIndex = shape.idIndex
  last : r.lastPropertyId = some e.lastPropertyId
  shapes : e.properties.map (·.shape) = shape.properties
  ids : ∀ p ∈ e.properties, (r.property? p.name).map (·.id) = some p.id
  slots : ∀ p ∈ e.properties, p.HasSlot

namespace Assigner

/-! ## Laying out -/

/-- Laying out pairs every property with its identifier and gives each a slot. -/
theorem layOut_of_ok {entity : String} {pairs : List (PropertyShape × IdUid)}
    {properties : List Property} (h : layOut entity pairs = .ok properties) :
    properties.map (fun p => (p.shape, p.id)) = pairs ∧ ∀ p ∈ properties, p.HasSlot := by
  induction pairs generalizing properties with
  | nil =>
      cases h
      exact ⟨rfl, fun p hp => by cases hp⟩
  | cons pair pairs ih =>
      obtain ⟨shape, id⟩ := pair
      rw [layOut] at h
      obtain ⟨offset, hoffset, h⟩ := bind_eq_ok_iff.mp h
      obtain ⟨more, hmore, h⟩ := bind_eq_ok_iff.mp h
      cases h
      obtain ⟨hpairs, hslots⟩ := ih hmore
      refine ⟨by rw [List.map_cons, hpairs], List.forall_mem_cons.mpr ⟨?_, hslots⟩⟩
      exact vtableOffset_eq_ok_iff.mp (mapError_eq_ok_iff.mp hoffset)

/-- Laying out as many identifiers as there are shapes leaves out none of either. -/
theorem layOut_zip_of_ok {entity : String} {shapes : List PropertyShape} {ids : List IdUid}
    {properties : List Property} (hlength : ids.length = shapes.length)
    (h : layOut entity (shapes.zip ids) = .ok properties) :
    properties.map (·.shape) = shapes ∧ properties.map (·.id) = ids ∧
      ∀ p ∈ properties, p.HasSlot := by
  obtain ⟨hpairs, hslots⟩ := layOut_of_ok h
  refine ⟨?_, ?_, hslots⟩
  · have hfst := congrArg (List.map Prod.fst) hpairs
    rwa [List.map_map, List.map_fst_zip hlength.ge] at hfst
  · have hsnd := congrArg (List.map Prod.snd) hpairs
    rwa [List.map_map, List.map_snd_zip hlength.le] at hsnd

/-- A completed entity has the properties of its shape in order, with the identifiers given, and the
highest one issued in it. -/
theorem complete_of_ok {a : Assigner} {shape : EntityShape} {id : IdUid} {ids : List IdUid}
    {entity : Entity} (h : a.complete shape id ids = .ok entity) :
    entity.name = shape.name ∧ entity.id = id ∧ entity.idIndex = shape.idIndex ∧
      ((a.snapshot.entity? shape.name).bind (·.lastPropertyId)).or ids.getLast? =
        some entity.lastPropertyId ∧
      layOut shape.name (shape.properties.zip ids) = .ok entity.properties := by
  unfold complete at h
  dsimp only at h
  cases hlast : ((a.snapshot.entity? shape.name).bind (·.lastPropertyId)).or ids.getLast? with
  | none =>
      rw [hlast] at h
      cases h
  | some last =>
      rw [hlast] at h
      obtain ⟨properties, hproperties, h⟩ := bind_eq_ok_iff.mp h
      cases h
      exact ⟨rfl, rfl, rfl, rfl, hproperties⟩

/-! ## One shape -/

/-- What assigning one shape without a refusal has done. -/
structure Assigns (a : Assigner) (shape : EntityShape) (entity : Entity) (after : Assigner) :
    Prop where
  new : shape.name ∉ a.seen
  sound : after.Sound
  fits : a.snapshot.Fits a.nameSpace a.options [shape.outline]
  snapshot : after.snapshot = a.snapshot.extend a.nameSpace a.options [shape.outline]
  rest : after =
    { a with seen := shape.name :: a.seen, ledger := after.ledger, snapshot := after.snapshot }
  realized : ∃ r ∈ after.snapshot.entities, entity.Realizes shape r

/-- An entity that is assigned names a shape that is not empty and was not seen before, and comes
from its identifiers. -/
theorem assign_eq_ok {a : Assigner} {shape : EntityShape} {entity : Entity}
    (h : (a.assign shape).result = .ok entity) :
    shape.properties ≠ [] ∧ shape.name ∉ a.seen ∧
      ∃ id ids, (({ a with seen := shape.name :: a.seen } : Assigner).identify shape.name
          (shape.properties.map (·.name))).result = .ok (id, ids) ∧
        (a.assign shape).state.complete shape id ids = .ok entity ∧
        (a.assign shape).state = (({ a with seen := shape.name :: a.seen } : Assigner).identify
          shape.name (shape.properties.map (·.name))).state := by
  unfold assign at h ⊢
  by_cases hempty : shape.properties.isEmpty = true
  · rw [if_pos hempty] at h
    cases h
  · rw [if_neg hempty] at h ⊢
    by_cases hseen : a.seen.contains shape.name = true
    · rw [if_pos hseen] at h
      cases h
    · rw [if_neg hseen] at h ⊢
      refine ⟨by simpa using hempty, by simpa using hseen, ?_⟩
      dsimp only at h ⊢
      cases hid : (({ a with seen := shape.name :: a.seen } : Assigner).identify shape.name
          (shape.properties.map (·.name))).result with
      | error e =>
          rw [hid] at h
          cases h
      | ok both =>
          obtain ⟨id, ids⟩ := both
          rw [hid] at h
          exact ⟨id, ids, rfl, h, rfl⟩

/-- What is laid out for an entity that is assigned: the properties of its shape, each with its
identifier and a slot. -/
theorem laidOut_of_assign {a : Assigner} {shape : EntityShape} {entity : Entity}
    (h : (a.assign shape).result = .ok entity) :
    ∃ id ids, (({ a with seen := shape.name :: a.seen } : Assigner).identify shape.name
        (shape.properties.map (·.name))).result = .ok (id, ids) ∧
      entity.properties.map (·.shape) = shape.properties ∧ entity.properties.map (·.id) = ids ∧
      (∀ p ∈ entity.properties, p.HasSlot) ∧ ∀ id ∈ ids, id.id.toNat ≤ maxPropertyId := by
  obtain ⟨-, -, id, ids, hidentify, hcomplete, -⟩ := assign_eq_ok h
  obtain ⟨-, -, -, -, hlayOut⟩ := complete_of_ok hcomplete
  have hlength : ids.length = shape.properties.length := by
    rw [length_of_identify hidentify, List.length_map]
  obtain ⟨hshapes, hids, hslots⟩ := layOut_zip_of_ok hlength hlayOut
  refine ⟨id, ids, hidentify, hshapes, hids, hslots, ?_⟩
  intro id hid
  rw [← hids] at hid
  obtain ⟨p, hp, rfl⟩ := List.mem_map.mp hid
  exact (hslots p hp).1

/-- The identifiers that a record has for the names of a shape are those of the properties laid
out. -/
theorem map_id_property?_of_laidOut {shape : EntityShape} {properties : List Property}
    {ids : List IdUid} {r : EntityRecord} (hshapes : properties.map (·.shape) = shape.properties)
    (hids : properties.map (·.id) = ids)
    (hr : shape.outline.properties.map (fun name => (r.property? name).map (·.id)) =
      ids.map some) :
    ∀ p ∈ properties, (r.property? p.name).map (·.id) = some p.id := by
  have hnames : shape.outline.properties = properties.map (·.name) := by
    change shape.properties.map (·.name) = _
    rw [← hshapes, List.map_map]
    rfl
  rw [hnames, ← hids, List.map_map, List.map_map] at hr
  exact List.map_inj_left.mp hr

/-- Assigning a shape extends the snapshot by its outline, keeps the assigner sound and realizes the
shape with the identifiers of its record. -/
theorem assign_of_ok {a : Assigner} (ha : a.Sound) {shape : EntityShape} {entity : Entity}
    (hnames : shape.name ∉ a.snapshot.entityNames → shape.outline.properties.Nodup)
    (h : (a.assign shape).result = .ok entity) :
    Assigns a shape entity (a.assign shape).state := by
  obtain ⟨hne, hseen, id, ids, hidentify, hcomplete, hstate⟩ := assign_eq_ok h
  obtain ⟨hname, hid, hindex, hlast, -⟩ := complete_of_ok hcomplete
  obtain ⟨id', ids', hidentify', hentityShapes, hentityIds, hslots, hids⟩ :=
    laidOut_of_assign h
  obtain ⟨rfl, rfl⟩ : id = id' ∧ ids = ids' := by
    rw [hidentify, Except.ok.injEq, Prod.mk.injEq] at hidentify'
    exact hidentify'
  have hdeclared : ({ a with seen := shape.name :: a.seen } : Assigner).Sound :=
    ⟨ha.unambiguous, ha.ledger⟩
  have hidentifies : Identifies { a with seen := shape.name :: a.seen } shape.outline id ids
      (a.assign shape).state := by
    rw [hstate]
    exact identify_of_ok hdeclared hnames
      (fun r hr hrname => hasRoom_of_identify hdeclared hidentify hids hr hrname) hidentify
  obtain ⟨hsound, hfits, hsnapshot, hrest, r, hr, hrname, hrid, hrids⟩ := hidentifies
  have hfound := map_id_property?_of_laidOut hentityShapes hentityIds hrids
  refine ⟨hseen, hsound, hfits, hsnapshot, hrest, r, hr, hname, hrname, hid.trans hrid.symm,
    hindex, ?_, hentityShapes, hfound, hslots⟩
  -- the record has a property, so that its highest ID is recorded
  have hlookup : (a.assign shape).state.snapshot.entity? shape.name = some r :=
    (find?_key_eq_some_iff hsound.unambiguous.names).mpr ⟨hr, hrname⟩
  obtain ⟨p, hp⟩ := List.exists_mem_of_ne_nil entity.properties fun hc =>
    hne (by rw [← hentityShapes, hc]; rfl)
  obtain ⟨q, hq, -⟩ := Option.map_eq_some_iff.mp (hfound p hp)
  obtain ⟨last, hrlast, -⟩ :=
    (hsound.unambiguous.entities r hr).last q (List.mem_of_find?_eq_some hq)
  rw [hlookup, Option.bind_some, hrlast, Option.some_or] at hlast
  rw [hrlast, hlast]

/-! ## All shapes -/

/-- What assigning shapes without a refusal has done. -/
structure Runs (a : Assigner) (shapes : List EntityShape) (entities : List Entity)
    (after : Assigner) : Prop where
  newTo : NewTo a.seen (shapes.map (·.name))
  sound : after.Sound
  fits : a.snapshot.Fits a.nameSpace a.options (shapes.map (·.outline))
  snapshot : after.snapshot = a.snapshot.extend a.nameSpace a.options (shapes.map (·.outline))
  seen : after.seen = (shapes.map (·.name)).reverse ++ a.seen
  source : after.source = a.source
  realized : List.Forall₂ (fun shape (e : Entity) =>
    ∃ r ∈ after.snapshot.entities, e.Realizes shape r) shapes entities

theorem assignAll_cons_of_ok {a : Assigner} {shape : EntityShape} {shapes : List EntityShape}
    {entities : List Entity} (h : (a.assignAll (shape :: shapes)).result = .ok entities) :
    ∃ entity rest, (a.assign shape).result = .ok entity ∧
      ((a.assign shape).state.assignAll shapes).result = .ok rest ∧ entities = entity :: rest ∧
      (a.assignAll (shape :: shapes)).state = ((a.assign shape).state.assignAll shapes).state := by
  rw [assignAll] at h ⊢
  dsimp only at h ⊢
  cases hone : (a.assign shape).result with
  | error e =>
      rw [hone] at h
      cases h
  | ok entity =>
      rw [hone] at h
      dsimp only at h ⊢
      cases hmore : ((a.assign shape).state.assignAll shapes).result with
      | error e =>
          rw [hmore] at h
          cases h
      | ok rest =>
          rw [hmore] at h
          cases h
          exact ⟨entity, rest, rfl, rfl, rfl, rfl⟩

/-- Going on after one shape. -/
private theorem Assigns.cons {a one after : Assigner} {shape : EntityShape} {entity : Entity}
    {shapes : List EntityShape} {entities : List Entity}
    (h : Assigns a shape entity one) (hrest : Runs one shapes entities after) :
    Runs a (shape :: shapes) (entity :: entities) after := by
  obtain ⟨hseen, hsound, hfits, hsnapshot, hone, r, hr, hrealized⟩ := h
  have hnameSpace : one.nameSpace = a.nameSpace := by rw [hone]
  have hoptions : one.options = a.options := by rw [hone]; rfl
  have honeSeen : one.seen = shape.name :: a.seen := by rw [hone]
  have honeSource : one.source = a.source := by rw [hone]
  have hnewTo := hrest.newTo
  rw [honeSeen] at hnewTo
  have hnames : shapes.map (·.name) = (shapes.map (·.outline)).map (·.name) := by
    rw [List.map_map]
    rfl
  have hnew : shape.outline.name ∉ (shapes.map (·.outline)).map (·.name) := by
    rw [← hnames]
    exact fun hc => hnewTo.2 shape.name hc List.mem_cons_self
  have hrestFits := hrest.fits
  have hrestSnapshot := hrest.snapshot
  rw [hnameSpace, hoptions, hsnapshot] at hrestFits hrestSnapshot
  refine ⟨newTo_cons_iff.mpr ⟨hseen, hnewTo⟩, hrest.sound, ?_, ?_, ?_, ?_, ?_⟩
  · rw [List.map_cons]
    exact Snapshot.Fits.cons _ _ hnew hfits hrestFits
  · -- the first shape and then the rest extend the snapshot as all of them at once
    rw [hrestSnapshot, List.map_cons]
    exact Snapshot.extend_cons _ _ hnew
  · rw [hrest.seen, honeSeen, List.map_cons, List.reverse_cons, List.append_assoc]
    rfl
  · rw [hrest.source, honeSource]
  · -- the record of the first entity has another name than the rest declare
    refine List.Forall₂.cons ⟨r, ?_, hrealized⟩ hrest.realized
    have hsame : r.redeclared one.source (shapes.map (·.outline)) = r := by
      refine EntityRecord.redeclared_of_notMem ?_
      rw [hrealized.recordName]
      exact hnew
    rw [hrest.snapshot]
    refine List.mem_append_left _ ?_
    have hmem := List.mem_map_of_mem (f := (·.redeclared one.source (shapes.map (·.outline)))) hr
    rwa [hsame] at hmem

/-- Assigning shapes extends the snapshot by all their outlines, keeps the assigner sound and
realizes every shape with the identifiers of a record. -/
theorem assignAll_of_ok {a : Assigner} (ha : a.Sound) {shapes : List EntityShape}
    {entities : List Entity} (hnames : ∀ shape ∈ shapes,
      shape.name ∉ a.snapshot.entityNames → shape.outline.properties.Nodup)
    (h : (a.assignAll shapes).result = .ok entities) :
    Runs a shapes entities (a.assignAll shapes).state := by
  induction shapes generalizing a entities with
  | nil =>
      cases h
      refine ⟨newTo_nil _, ha, ⟨?_, ?_⟩, (Snapshot.extend_nil _ _ _).symm, rfl, rfl, .nil⟩
      · intro r _ o ho
        cases ho
      · intro o ho
        cases ho
  | cons shape shapes ih =>
      obtain ⟨entity, rest, hone, hmore, rfl, hstate⟩ := assignAll_cons_of_ok h
      have hassigns := assign_of_ok ha (hnames shape List.mem_cons_self) hone
      rw [hstate]
      refine hassigns.cons (ih hassigns.sound (fun s hs hnew => ?_) hmore)
      refine hnames s (List.mem_cons_of_mem _ hs) fun hold => hnew ?_
      rw [hassigns.snapshot, Snapshot.entityNames_extend]
      exact List.mem_append_left _ hold

/-! ## The end of a run -/

/-- What was declared is not dropped. -/
theorem isDropped_of_seen {a : Assigner} {e : EntityRecord} (h : e.name ∈ a.seen) :
    a.isDropped e = false := by
  have hin : a.seen.contains e.name = true := by simpa using h
  rw [isDropped, hin, Bool.not_true, Bool.and_false]

/-- Of the records that were not declared those of the unit are retired. -/
private theorem retire_of_notSeen {a : Assigner} {e : EntityRecord} (h : e.name ∉ a.seen) :
    (if a.isDropped e then { e with retired := true } else e) =
      if e.source = a.source then { e with retired := true } else e := by
  have hout : a.seen.contains e.name = false := by simpa using h
  rw [isDropped, hout]
  rcases e with ⟨id, name, source, retired, last, properties⟩
  by_cases hs : source = a.source
  · -- a record that was retired before stays as it is
    cases retired <;> simp [hs]
  · simp [hs]

/-- Retiring what was not declared makes an extension the merge. -/
theorem finish_eq_merge {a : Assigner} {s : Snapshot} {nameSpace : String}
    {options : DeriveOptions} {outlines : List Outline}
    (hsnapshot : a.snapshot = s.extend nameSpace options outlines)
    (hsource : a.source = options.source)
    (hseen : ∀ name, name ∈ a.seen ↔ name ∈ outlines.map (·.name)) :
    a.finish.2 = s.merge nameSpace options outlines := by
  have hkept : ∀ e : EntityRecord, e.name ∈ outlines.map (·.name) →
      (if a.isDropped e then { e with retired := true } else e) = e := by
    intro e he
    rw [isDropped_of_seen ((hseen e.name).mpr he), if_neg Bool.false_ne_true]
  have hold : ∀ r : EntityRecord,
      (if a.isDropped (r.redeclared options.source outlines) then
        { r.redeclared options.source outlines with retired := true }
        else r.redeclared options.source outlines) = r.merged options.source outlines := by
    intro r
    by_cases hr : r.name ∈ outlines.map (·.name)
    · rw [hkept _ (by rwa [EntityRecord.redeclared_name])]
      unfold EntityRecord.redeclared EntityRecord.merged
      cases hfind : outlines.find? (·.name = r.name) with
      | none => exact absurd hr ((find?_key_eq_none_iff (·.name) outlines).mp hfind)
      | some outline => rfl
    · rw [EntityRecord.redeclared_of_notMem hr, retire_of_notSeen (mt (hseen r.name).mp hr),
        EntityRecord.merged, (find?_key_eq_none_iff (·.name) outlines).mpr hr, hsource]
  have hnew : ∀ e ∈ s.newRecords nameSpace options outlines,
      (if a.isDropped e then { e with retired := true } else e) = e := by
    intro e he
    refine hkept e ?_
    have hname := List.mem_map_of_mem (f := (·.name)) he
    rw [Snapshot.map_name_newRecords] at hname
    exact (List.filter_sublist.map _).subset hname
  rw [finish, hsnapshot, Snapshot.extend, Snapshot.merge]
  dsimp only
  rw [List.map_append, List.map_map, List.map_congr_left hnew, List.map_id']
  simp only [Function.comp_def, hold]

end Assigner

end RecordSchema
