/-
What a run asks for.

A run asks for a numeric ID for every entity that is new and for UIDs for every entity and property
that is. This module says which, as integers and without an order: `Snapshot.Admits` says that what is
asked for is new and in range, whatever has been given before it. That the numbers of properties
fit their words, or have slots, is asked for apart (`WordSized`, `Slotted`), because a run finds it
out at another place.

A run goes from entity to entity, so the demand of a list is taken apart here as well: it is met
exactly if that of the first outline is met, and that of the rest after it.
-/
import RecordSchema.Proofs.Extension

set_option autoImplicit false

namespace RecordSchema

/-! ## Numbers -/

namespace EntityRecord

/-- The numbers of the properties that a declaration adds to a record. -/
def addedNumbers (r : EntityRecord) (names : List String) : List Nat :=
  List.range' r.nextNumber (r.newNames names).length

/-- The numbers of the properties that a declaration names: those that are recorded and those that
it adds. -/
def declaredNumbers (r : EntityRecord) (names : List String) : List Nat :=
  (r.properties.filter fun p => names.contains p.name).map (·.id.id.toNat) ++ r.addedNumbers names

theorem mem_addedNumbers_iff {r : EntityRecord} {names : List String} {n : Nat} :
    n ∈ r.addedNumbers names ↔ ∃ k < (r.newNames names).length, n = r.nextNumber + k := by
  rw [addedNumbers, List.mem_range'_1]
  constructor
  · rintro ⟨hge, hlt⟩
    exact ⟨n - r.nextNumber, by omega, by omega⟩
  · rintro ⟨k, hk, rfl⟩
    omega

end EntityRecord

namespace Snapshot

/-- The numbers of the properties of a declared entity, whether it was recorded or is new. -/
def propertyNumbers (s : Snapshot) (outline : Outline) : List Nat :=
  match s.entity? outline.name with
  | some r => r.declaredNumbers outline.properties
  | none => List.range outline.properties.length

/-- The UIDs that a declared entity asks for: those of the properties that it adds to a record, or
its own and those of all its properties. -/
def demandedUids (s : Snapshot) (nameSpace : String) (outline : Outline) : List Nat :=
  match s.entity? outline.name with
  | some r => (r.addedNumbers outline.properties).map (r.id.uid.toNat * uidScale + ·)
  | none =>
    let uid := (Hash.entityHash nameSpace outline.name).toNat / uidScale
    uid :: (List.range outline.properties.length).map (uid * uidScale + ·)

/-! ## Demands -/

/-- No number of a declared property is above a bound. -/
def NumbersUpTo (s : Snapshot) (bound : Nat) (outlines : List Outline) : Prop :=
  ∀ outline ∈ outlines, ∀ n ∈ s.propertyNumbers outline, n ≤ bound

/-- Every number of a declared property has a slot. -/
def Slotted (s : Snapshot) (outlines : List Outline) : Prop := s.NumbersUpTo maxPropertyId outlines

/-- Every number of a declared property fits its word. -/
def WordSized (s : Snapshot) (outlines : List Outline) : Prop :=
  s.NumbersUpTo (UInt32.size - 1) outlines

/-- What a run asks for is there: all new entities get IDs of 24 bits that are new, and all UIDs are
new and fit their words. -/
structure Admits (s : Snapshot) (nameSpace : String) (options : DeriveOptions)
    (outlines : List Outline) : Prop where
  bounded : ∀ id ∈ (s.newRecords nameSpace options outlines).map (·.id.id), id.toNat ≤ maxEntityId
  ids : NewTo (s.entities.map (·.id.id))
    ((s.newRecords nameSpace options outlines).map (·.id.id))
  uids : NewTo (s.uids.map (·.toNat)) (outlines.flatMap (s.demandedUids nameSpace))
  range : ∀ uid ∈ outlines.flatMap (s.demandedUids nameSpace), uid < UInt64.size

/-- A number that has a slot fits its word. -/
theorem Slotted.wordSized {s : Snapshot} {outlines : List Outline} (h : s.Slotted outlines) :
    s.WordSized outlines :=
  fun outline ho n hn => Nat.le_trans (h outline ho n hn) (by decide)

/-! ## The demand of a recorded entity and of a new one -/

section Demand

variable {s : Snapshot} {outline : Outline} {r : EntityRecord}

theorem entity?_eq_some_iff (hnames : s.entityNames.Nodup) {name : String} :
    s.entity? name = some r ↔ r ∈ s.entities ∧ r.name = name :=
  find?_key_eq_some_iff hnames

theorem entity?_eq_none_iff {name : String} : s.entity? name = none ↔ name ∉ s.entityNames :=
  find?_key_eq_none_iff EntityRecord.name s.entities

theorem propertyNumbers_of_entity? (h : s.entity? outline.name = some r) :
    s.propertyNumbers outline = r.declaredNumbers outline.properties := by
  rw [propertyNumbers, h]

theorem propertyNumbers_of_notMem (h : outline.name ∉ s.entityNames) :
    s.propertyNumbers outline = List.range outline.properties.length := by
  rw [propertyNumbers, entity?_eq_none_iff.mpr h]

theorem demandedUids_of_entity? (nameSpace : String) (h : s.entity? outline.name = some r) :
    s.demandedUids nameSpace outline =
      (r.addedNumbers outline.properties).map (r.id.uid.toNat * uidScale + ·) := by
  rw [demandedUids, h]

theorem demandedUids_of_notMem (nameSpace : String) (h : outline.name ∉ s.entityNames) :
    s.demandedUids nameSpace outline =
      (Hash.entityHash nameSpace outline.name).toNat / uidScale ::
        (List.range outline.properties.length).map
          ((Hash.entityHash nameSpace outline.name).toNat / uidScale * uidScale + ·) := by
  rw [demandedUids, entity?_eq_none_iff.mpr h]

/-- If the numbers fit their words, there is one for the next property. -/
theorem WordSized.hasRoom (h : s.WordSized [outline]) (hr : s.entity? outline.name = some r) :
    r.HasRoom outline.properties := by
  cases hnames : r.newNames outline.properties with
  | nil => exact Or.inl hnames
  | cons name names =>
      right
      have hle := h outline (List.mem_singleton_self _) r.nextNumber (by
        rw [propertyNumbers_of_entity? hr]
        refine List.mem_append_right _ (EntityRecord.mem_addedNumbers_iff.mpr ⟨0, ?_, rfl⟩)
        rw [hnames]
        exact Nat.zero_lt_succ _)
      simp only [UInt32.size] at hle ⊢
      omega

/-- What a record gains are the UIDs that were asked for. -/
theorem map_uid_added_eq_demandedUids (nameSpace : String) (h : s.entity? outline.name = some r)
    (hnum : Numberable r.id.uid r.nextNumber (r.newNames outline.properties).length) :
    ((r.added outline.properties).map (·.id.uid)).map (·.toNat) =
      s.demandedUids nameSpace outline := by
  rw [demandedUids_of_entity? nameSpace h, EntityRecord.addedNumbers, List.map_map]
  exact PropertyRecord.map_uid_numbered hnum

/-- What a new record holds are the UIDs that were asked for. -/
theorem map_uids_fresh_eq_demandedUids {nameSpace : String} (source : Option String)
    (h : outline.name ∉ s.entityNames) {id : IdUid}
    (hid : id.uid = entityUid (Hash.entityHash nameSpace outline.name))
    (hnum : Numberable id.uid 0 outline.properties.length) :
    (EntityRecord.fresh source outline id).uids.map (·.toNat) =
      s.demandedUids nameSpace outline := by
  have hproperties : ((PropertyRecord.numbered id.uid 0 outline.properties).map (·.id.uid)).map
      (·.toNat) = (List.range' 0 outline.properties.length).map (id.uid.toNat * uidScale + ·) := by
    rw [List.map_map]
    exact PropertyRecord.map_uid_numbered hnum
  rw [demandedUids_of_notMem nameSpace h, EntityRecord.uids, List.map_cons]
  change id.uid.toNat ::
    ((PropertyRecord.numbered id.uid 0 outline.properties).map (·.id.uid)).map (·.toNat) = _
  rw [hproperties, hid, entityUid_toNat, List.range_eq_range']

end Demand

/-! ## The first outline and the rest -/

section Extend

variable {nameSpace : String} {options : DeriveOptions} {s : Snapshot} {outline : Outline}
  {outlines : List Outline}

/-- Extending by an outline leaves what is recorded under other names. -/
theorem entity?_extend_of_ne (nameSpace : String) (options : DeriveOptions) {name : String}
    (h : name ≠ outline.name) :
    (s.extend nameSpace options [outline]).entity? name = s.entity? name := by
  have hnew : (s.newRecords nameSpace options [outline]).find? (·.name = name) = none := by
    rw [find?_key_eq_none_iff EntityRecord.name, map_name_newRecords]
    intro hmem
    obtain ⟨o, ho, hname⟩ := List.mem_map.mp hmem
    rw [newOutlines, List.mem_filter, List.mem_singleton] at ho
    exact h (hname.symm.trans (congrArg Outline.name ho.1))
  unfold entity? extend
  dsimp only
  rw [List.find?_append, hnew, Option.or_none, List.find?_map]
  simp only [Function.comp_def, EntityRecord.redeclared_name]
  cases hr : s.entities.find? (·.name = name) with
  | none => rfl
  | some r =>
      have hname : r.name = name := by simpa using List.find?_some hr
      rw [Option.map_some, EntityRecord.redeclared_of_notMem]
      rw [List.map_singleton, List.mem_singleton, hname]
      exact h

/-- A record that is declared is found in its declared form. -/
theorem entity?_extend_of_entity? {r : EntityRecord} (h : s.entity? outline.name = some r) :
    (s.extend nameSpace options [outline]).entity? outline.name =
      some (r.declared options.source outline.properties) := by
  have hname : r.name = outline.name := by simpa using List.find?_some h
  have hself : r.redeclared options.source [outline] =
      r.declared options.source outline.properties := by
    simp [EntityRecord.redeclared, hname]
  unfold entity? at h ⊢
  unfold extend
  dsimp only
  rw [List.find?_append, List.find?_map]
  simp only [Function.comp_def, EntityRecord.redeclared_name]
  rw [h, Option.map_some, Option.some_or, hself]

/-- A new entity is found in its fresh form. -/
theorem entity?_extend_of_notMem (h : outline.name ∉ s.entityNames) :
    (s.extend nameSpace options [outline]).entity? outline.name =
      some (.fresh options.source outline
        (s.issuedId nameSpace options.strategy 0 outline.name)) := by
  have hnone := entity?_eq_none_iff.mpr h
  unfold entity? at hnone ⊢
  rw [entities_extend_of_notMem nameSpace options h, List.find?_append, hnone, Option.none_or,
    List.find?_cons_of_pos (by simp)]

/-- What is declared is on record afterwards. -/
theorem exists_entity?_extend (s : Snapshot) (nameSpace : String) (options : DeriveOptions)
    (outline : Outline) :
    ∃ r, (s.extend nameSpace options [outline]).entity? outline.name = some r := by
  cases hfound : s.entity? outline.name with
  | some r => exact ⟨_, entity?_extend_of_entity? hfound⟩
  | none => exact ⟨_, entity?_extend_of_notMem (entity?_eq_none_iff.mp hfound)⟩

theorem demandedUids_extend_of_ne {other : Outline} (h : other.name ≠ outline.name) :
    (s.extend nameSpace options [outline]).demandedUids nameSpace other =
      s.demandedUids nameSpace other := by
  rw [demandedUids, demandedUids, entity?_extend_of_ne nameSpace options h]

theorem propertyNumbers_extend_of_ne {other : Outline} (h : other.name ≠ outline.name) :
    (s.extend nameSpace options [outline]).propertyNumbers other = s.propertyNumbers other := by
  rw [propertyNumbers, propertyNumbers, entity?_extend_of_ne nameSpace options h]

/-- In a list of different names the others ask for what they asked for before. -/
private theorem ne_of_notMem (h : outline.name ∉ outlines.map (·.name)) {other : Outline}
    (ho : other ∈ outlines) : other.name ≠ outline.name :=
  fun he => h (he ▸ List.mem_map_of_mem ho)

/-- Bounds on numbers are bounds on those of the first outline and on those of the rest. -/
theorem numbersUpTo_cons_iff (nameSpace : String) (options : DeriveOptions) {bound : Nat}
    (h : outline.name ∉ outlines.map (·.name)) :
    s.NumbersUpTo bound (outline :: outlines) ↔ s.NumbersUpTo bound [outline] ∧
      (s.extend nameSpace options [outline]).NumbersUpTo bound outlines := by
  have hrest : (s.extend nameSpace options [outline]).NumbersUpTo bound outlines ↔
      s.NumbersUpTo bound outlines := by
    refine forall₂_congr fun o ho => ?_
    rw [propertyNumbers_extend_of_ne (ne_of_notMem h ho)]
  rw [hrest]
  unfold NumbersUpTo
  rw [List.forall_mem_cons, List.forall_mem_singleton]

/-- An extension records the UIDs that were asked for. -/
theorem uids_extend_perm (hnames : s.entityNames.Nodup)
    (hfits : s.Fits nameSpace options [outline]) :
    ((s.extend nameSpace options [outline]).uids.map (·.toNat)).Perm
      (s.uids.map (·.toNat) ++ s.demandedUids nameSpace outline) := by
  by_cases hmem : outline.name ∈ s.entityNames
  -- the record gains its UIDs amid those of others, so only the order differs
  · obtain ⟨r, hr, hname⟩ := List.mem_map.mp hmem
    have hnum := hfits.renewed r hr outline (List.mem_singleton_self _) hname.symm
    have hfound : s.entity? outline.name = some r :=
      (entity?_eq_some_iff hnames).mpr ⟨hr, hname⟩
    have hperm := (s.uids_extend_of_mem nameSpace options hnames hr hname).map (·.toNat)
    rw [List.map_append, map_uid_added_eq_demandedUids nameSpace hfound hnum] at hperm
    exact hperm
  · have hnum := hfits.fresh outline (by
      rw [newOutlines_cons_of_notMem hmem]
      exact List.mem_cons_self)
    have huid := s.uid_issuedId nameSpace options.strategy 0 outline.name
    rw [uids_extend_of_notMem nameSpace options hmem, List.map_append,
      map_uids_fresh_eq_demandedUids options.source hmem huid (huid ▸ hnum)]

/-- The demand of a list is that of its first outline and that of the rest after it. -/
theorem admits_cons_iff (hnames : s.entityNames.Nodup)
    (h : outline.name ∉ outlines.map (·.name)) (hfits : s.Fits nameSpace options [outline]) :
    s.Admits nameSpace options (outline :: outlines) ↔ s.Admits nameSpace options [outline] ∧
      (s.extend nameSpace options [outline]).Admits nameSpace options outlines := by
  -- new after the first outline is new to what was recorded and to what that outline asked for
  have hids : ∀ ids, NewTo ((s.extend nameSpace options [outline]).entities.map (·.id.id)) ids ↔
      NewTo ((s.newRecords nameSpace options [outline]).map (·.id.id) ++
        s.entities.map (·.id.id)) ids := by
    intro ids
    have hmap := congrArg (List.map IdUid.id) (s.map_id_extend nameSpace options [outline])
    rw [List.map_append, List.map_map, List.map_map, List.map_map] at hmap
    refine NewTo.congr fun id => ?_
    change id ∈ (s.extend nameSpace options [outline]).entities.map (IdUid.id ∘ (·.id)) ↔ _
    rw [hmap, List.mem_append, List.mem_append, or_comm]
    rfl
  have huids : ∀ uids, NewTo ((s.extend nameSpace options [outline]).uids.map (·.toNat)) uids ↔
      NewTo (s.demandedUids nameSpace outline ++ s.uids.map (·.toNat)) uids := fun uids =>
    NewTo.congr fun uid => by
      rw [(uids_extend_perm hnames hfits).mem_iff, List.mem_append, List.mem_append, or_comm]
  have hrest : outlines.flatMap ((s.extend nameSpace options [outline]).demandedUids nameSpace) =
      outlines.flatMap (s.demandedUids nameSpace) :=
    List.flatMap_congr fun o ho => demandedUids_extend_of_ne (ne_of_notMem h ho)
  have hall : (outline :: outlines).flatMap (s.demandedUids nameSpace) =
      [outline].flatMap (s.demandedUids nameSpace) ++
        outlines.flatMap (s.demandedUids nameSpace) := by
    rw [List.flatMap_cons, List.flatMap_singleton]
  have hrecords := newRecords_cons (s := s) nameSpace options h
  constructor
  · rintro ⟨hbounded, hid, huid, hrange⟩
    rw [hrecords, List.map_append, List.forall_mem_append] at hbounded
    rw [hrecords, List.map_append, newTo_append_iff, ← hids] at hid
    rw [hall, newTo_append_iff, List.flatMap_singleton, ← huids] at huid
    rw [hall, List.forall_mem_append] at hrange
    refine ⟨⟨hbounded.1, hid.1, ?_, hrange.1⟩, hbounded.2, hid.2, ?_, ?_⟩
    · rw [List.flatMap_singleton]
      exact huid.1
    · rw [hrest]
      exact huid.2
    · rw [hrest]
      exact hrange.2
  · rintro ⟨⟨hbounded, hid, huid, hrange⟩, ⟨hbounded', hid', huid', hrange'⟩⟩
    rw [hids] at hid'
    rw [huids, hrest] at huid'
    rw [hrest] at hrange'
    refine ⟨?_, ?_, ?_, ?_⟩
    · rw [hrecords, List.map_append, List.forall_mem_append]
      exact ⟨hbounded, hbounded'⟩
    · rw [hrecords, List.map_append, newTo_append_iff]
      exact ⟨hid, hid'⟩
    · rw [hall, newTo_append_iff, List.flatMap_singleton]
      rw [List.flatMap_singleton] at huid
      exact ⟨huid, huid'⟩
    · rw [hall, List.forall_mem_append]
      exact ⟨hrange, hrange'⟩

/-- Where the demand of a list is met, that of its first outline is. -/
theorem Admits.head (h : s.Admits nameSpace options (outline :: outlines)) :
    s.Admits nameSpace options [outline] := by
  obtain ⟨hbounded, hid, huid, hrange⟩ := h
  -- what the first outline asks for is the beginning of what the list asks for
  have hnewOutlines : ∃ more, s.newOutlines (outline :: outlines) =
      s.newOutlines [outline] ++ more := by
    by_cases hmem : outline.name ∈ s.entityNames
    · rw [newOutlines_cons_of_mem hmem, newOutlines_cons_of_mem hmem]
      exact ⟨_, rfl⟩
    · rw [newOutlines_cons_of_notMem hmem, newOutlines_cons_of_notMem hmem]
      exact ⟨_, rfl⟩
  obtain ⟨more, hmore⟩ := hnewOutlines
  rw [newRecords, hmore, List.mapIdx_append, List.map_append] at hbounded hid
  rw [List.flatMap_cons] at huid hrange
  refine ⟨?_, ?_, ?_, ?_⟩
  · exact (List.forall_mem_append.mp hbounded).1
  · exact (newTo_append_iff.mp hid).1
  · rw [List.flatMap_singleton]
    exact (newTo_append_iff.mp huid).1
  · rw [List.flatMap_singleton]
    exact (List.forall_mem_append.mp hrange).1

/-! ## Demands and numbers that fit -/

/-- Where a demand is met and the numbers fit their words, the merge fits. -/
theorem Admits.fits (hnames : s.entityNames.Nodup) (h : s.Admits nameSpace options outlines)
    (hwords : s.WordSized outlines) : s.Fits nameSpace options outlines where
  renewed := by
    intro r hr o ho hname k hk
    have hfound : s.entity? o.name = some r := (entity?_eq_some_iff hnames).mpr ⟨hr, hname.symm⟩
    have hadded : r.nextNumber + k ∈ r.addedNumbers o.properties :=
      EntityRecord.mem_addedNumbers_iff.mpr ⟨k, hk, rfl⟩
    constructor
    · have hle := hwords o ho (r.nextNumber + k) (by
        rw [propertyNumbers_of_entity? hfound]
        exact List.mem_append_right _ hadded)
      simp only [UInt32.size] at hle ⊢
      omega
    · refine h.range _ (List.mem_flatMap.mpr ⟨o, ho, ?_⟩)
      rw [demandedUids_of_entity? nameSpace hfound]
      exact List.mem_map_of_mem hadded
  fresh := by
    intro o ho k hk
    obtain ⟨hmem, hnew⟩ := List.mem_filter.mp ho
    have hnotMem : o.name ∉ s.entityNames := by simpa using hnew
    have hnumber : 0 + k ∈ List.range o.properties.length := by
      rw [List.mem_range]
      omega
    constructor
    · have hle := hwords o hmem (0 + k) (by rwa [propertyNumbers_of_notMem hnotMem])
      simp only [UInt32.size] at hle ⊢
      omega
    · refine h.range _ (List.mem_flatMap.mpr ⟨o, hmem, ?_⟩)
      rw [demandedUids_of_notMem nameSpace hnotMem, entityUid_toNat]
      exact List.mem_cons_of_mem _ (List.mem_map_of_mem hnumber)

/-- Where an extension by one outline fits and is unambiguous, its demand was met. -/
theorem admits_of_unambiguous (hnames : s.entityNames.Nodup)
    (hfits : s.Fits nameSpace options [outline])
    (h : (s.extend nameSpace options [outline]).Unambiguous) :
    s.Admits nameSpace options [outline] := by
  have hperm := uids_extend_perm hnames hfits
  have hinj : Function.Injective UInt64.toNat := fun _ _ => UInt64.toNat_inj.mp
  refine ⟨?_, ?_, ?_, ?_⟩
  · -- the new records are among those of the extension
    intro id hid
    obtain ⟨r, hr, rfl⟩ := List.mem_map.mp hid
    exact h.range r (List.mem_append_right _ hr)
  · have hids := h.ids
    change ((s.extend nameSpace options [outline]).entities.map (IdUid.id ∘ (·.id))).Nodup at hids
    rw [← List.map_map, map_id_extend, List.map_append, nodup_append_iff_newTo, List.map_map,
      List.map_map] at hids
    exact hids.2
  · rw [List.flatMap_singleton]
    have huids := hperm.nodup_iff.mp ((List.nodup_map_iff hinj).mpr h.uids)
    exact (nodup_append_iff_newTo.mp huids).2
  · -- what was asked for is recorded now, as a word
    rw [List.flatMap_singleton]
    intro uid huid
    have hmem := hperm.mem_iff.mpr (List.mem_append_right _ huid)
    obtain ⟨word, -, rfl⟩ := List.mem_map.mp hmem
    exact word.toNat_lt_size

end Extend

/-! ## Merges record what was asked for -/

section Merge

variable {s : Snapshot} {nameSpace : String} {options : DeriveOptions} {outlines : List Outline}

/-- A name is found among the merged records or among the new ones. -/
theorem entity?_merge (name : String) :
    (s.merge nameSpace options outlines).entity? name =
      ((s.entity? name).map (·.merged options.source outlines)).or
        ((s.newRecords nameSpace options outlines).find? (·.name = name)) := by
  unfold entity? merge
  dsimp only
  rw [List.find?_append, List.find?_map]
  simp only [Function.comp_def, EntityRecord.merged_name]

/-- The UIDs of a merged record are those that it had, and those that its declaration asks for. -/
theorem mem_uids_merged_iff (hnames : s.entityNames.Nodup)
    (hdistinct : (outlines.map (·.name)).Nodup) (hfits : s.Fits nameSpace options outlines)
    {r : EntityRecord} (hr : r ∈ s.entities) {uid : Nat} :
    uid ∈ (r.merged options.source outlines).uids.map (·.toNat) ↔ uid ∈ r.uids.map (·.toNat) ∨
      ∃ o ∈ outlines, o.name = r.name ∧ uid ∈ s.demandedUids nameSpace o := by
  cases hfind : outlines.find? (·.name = r.name) with
  | some outline =>
      obtain ⟨ho, hname⟩ := (find?_key_eq_some_iff hdistinct).mp hfind
      have hfound := (entity?_eq_some_iff hnames).mpr ⟨hr, hname.symm⟩
      rw [EntityRecord.merged_of_find? hfind, EntityRecord.uids_declared, List.map_append,
        map_uid_added_eq_demandedUids nameSpace hfound (hfits.renewed r hr outline ho hname),
        List.mem_append]
      refine or_congr_right ⟨fun h => ⟨outline, ho, hname, h⟩, ?_⟩
      rintro ⟨o, hmem, hsame, h⟩
      rwa [List.inj_on_of_nodup_map hdistinct ho hmem (hname.trans hsame.symm)]
  | none =>
      have huids : (r.merged options.source outlines).uids = r.uids := by
        rw [EntityRecord.merged_of_find?_none hfind]
        split <;> rfl
      rw [huids]
      refine (or_iff_left ?_).symm
      rintro ⟨o, ho, hname, -⟩
      exact (find?_key_eq_none_iff (·.name) outlines).mp hfind (hname ▸ List.mem_map_of_mem ho)

/-- The UIDs of the new records are those that their declarations ask for. -/
theorem mem_uids_newRecords_iff (hfits : s.Fits nameSpace options outlines) {uid : Nat} :
    uid ∈ ((s.newRecords nameSpace options outlines).flatMap (·.uids)).map (·.toNat) ↔
      ∃ o ∈ s.newOutlines outlines, uid ∈ s.demandedUids nameSpace o := by
  have huids : ∀ k, ∀ o ∈ s.newOutlines outlines,
      (EntityRecord.fresh options.source o
        (s.issuedId nameSpace options.strategy k o.name)).uids.map (·.toNat) =
        s.demandedUids nameSpace o := by
    intro k o ho
    have hnew : o.name ∉ s.entityNames := by simpa using (List.mem_filter.mp ho).2
    have huid := s.uid_issuedId nameSpace options.strategy k o.name
    exact map_uids_fresh_eq_demandedUids options.source hnew huid (huid ▸ hfits.fresh o ho)
  rw [List.map_flatMap, List.mem_flatMap]
  constructor
  · rintro ⟨r, hr, huid⟩
    rw [newRecords, List.mem_mapIdx] at hr
    obtain ⟨k, hk, rfl⟩ := hr
    refine ⟨_, List.getElem_mem hk, ?_⟩
    rwa [huids k _ (List.getElem_mem hk)] at huid
  · rintro ⟨o, ho, huid⟩
    obtain ⟨k, hk, rfl⟩ := List.getElem_of_mem ho
    refine ⟨_, List.mem_mapIdx.mpr ⟨k, hk, rfl⟩, ?_⟩
    rwa [huids k _ ho]

/-- A merge records the UIDs that were asked for. -/
theorem mem_uids_merge_iff (hnames : s.entityNames.Nodup)
    (hdistinct : (outlines.map (·.name)).Nodup) (hfits : s.Fits nameSpace options outlines)
    {uid : Nat} :
    uid ∈ (s.merge nameSpace options outlines).uids.map (·.toNat) ↔
      uid ∈ s.uids.map (·.toNat) ∨ uid ∈ outlines.flatMap (s.demandedUids nameSpace) := by
  have hrecorded : uid ∈ ((s.entities.map (·.merged options.source outlines)).flatMap (·.uids)).map (·.toNat) ↔
      uid ∈ s.uids.map (·.toNat) ∨
        ∃ o ∈ outlines, o.name ∈ s.entityNames ∧ uid ∈ s.demandedUids nameSpace o := by
    rw [uids, List.map_flatMap, List.map_flatMap, List.flatMap_map, List.mem_flatMap,
      List.mem_flatMap]
    constructor
    · rintro ⟨r, hr, huid⟩
      rcases (mem_uids_merged_iff hnames hdistinct hfits hr).mp huid with h | ⟨o, ho, hname, h⟩
      · exact .inl ⟨r, hr, h⟩
      · exact .inr ⟨o, ho, hname ▸ List.mem_map_of_mem hr, h⟩
    · rintro (⟨r, hr, h⟩ | ⟨o, ho, hname, h⟩)
      · exact ⟨r, hr, (mem_uids_merged_iff hnames hdistinct hfits hr).mpr (.inl h)⟩
      · obtain ⟨r, hr, hrname⟩ := List.mem_map.mp hname
        exact ⟨r, hr, (mem_uids_merged_iff hnames hdistinct hfits hr).mpr
          (.inr ⟨o, ho, hrname.symm, h⟩)⟩
  change uid ∈ ((s.entities.map (·.merged options.source outlines) ++
    s.newRecords nameSpace options outlines).flatMap (·.uids)).map (·.toNat) ↔ _
  rw [List.flatMap_append, List.map_append, List.mem_append, hrecorded,
    mem_uids_newRecords_iff hfits, List.mem_flatMap, or_assoc]
  refine or_congr_right ?_
  constructor
  · rintro (⟨o, ho, -, h⟩ | ⟨o, ho, h⟩)
    · exact ⟨o, ho, h⟩
    · exact ⟨o, List.filter_sublist.subset ho, h⟩
  · rintro ⟨o, ho, h⟩
    by_cases hmem : o.name ∈ s.entityNames
    · exact .inl ⟨o, ho, hmem, h⟩
    · exact .inr ⟨o, List.mem_filter.mpr ⟨ho, by simpa using hmem⟩, h⟩

end Merge

/-! ## Numbers and records -/

section Records

variable {nameSpace : String} {options : DeriveOptions} {s : Snapshot} {outline : Outline}

/-- The numbers of the declared properties of a record are those that it has for them when it is
declared. -/
private theorem mem_declaredNumbers_iff {r : EntityRecord} {source : Option String}
    {names : List String} (hnum : Numberable r.id.uid r.nextNumber (r.newNames names).length)
    {n : Nat} :
    n ∈ r.declaredNumbers names ↔
      ∃ p ∈ (r.declared source names).properties, p.name ∈ names ∧ p.id.id.toNat = n := by
  have hadded : r.addedNumbers names = (r.added names).map (·.id.id.toNat) :=
    (PropertyRecord.map_id_numbered hnum).symm
  rw [EntityRecord.declaredNumbers, hadded, List.mem_append, List.mem_map, List.mem_map]
  constructor
  · rintro (⟨p, hp, rfl⟩ | ⟨p, hp, rfl⟩)
    · obtain ⟨hmem, hname⟩ := List.mem_filter.mp hp
      exact ⟨{ p with retired := !names.contains p.name },
        List.mem_append_left _ (List.mem_map_of_mem hmem), by simpa using hname, rfl⟩
    · have hname : p.name ∈ r.newNames names :=
        r.map_name_added names ▸ List.mem_map_of_mem hp
      exact ⟨p, List.mem_append_right _ hp, (EntityRecord.mem_newNames_iff.mp hname).1, rfl⟩
  · rintro ⟨p, hp, hname, rfl⟩
    rcases List.mem_append.mp hp with hold | hnew
    · obtain ⟨q, hq, rfl⟩ := List.mem_map.mp hold
      exact Or.inl ⟨q, List.mem_filter.mpr ⟨hq, by simpa using hname⟩, rfl⟩
    · exact Or.inr ⟨p, hnew, rfl⟩

/-- The numbers of the declared properties are those that the record has for them afterwards. -/
theorem mem_propertyNumbers_iff (hnames : s.entityNames.Nodup)
    (hfits : s.Fits nameSpace options [outline]) {r : EntityRecord}
    (hr : (s.extend nameSpace options [outline]).entity? outline.name = some r) {n : Nat} :
    n ∈ s.propertyNumbers outline ↔
      ∃ p ∈ r.properties, p.name ∈ outline.properties ∧ p.id.id.toNat = n := by
  cases hfound : s.entity? outline.name with
  | some old =>
      rw [entity?_extend_of_entity? hfound, Option.some.injEq] at hr
      obtain ⟨hold, hname⟩ := (entity?_eq_some_iff hnames).mp hfound
      rw [propertyNumbers_of_entity? hfound, ← hr]
      exact mem_declaredNumbers_iff
        (hfits.renewed old hold outline (List.mem_singleton_self _) hname.symm)
  | none =>
      have hnew := entity?_eq_none_iff.mp hfound
      rw [entity?_extend_of_notMem hnew, Option.some.injEq] at hr
      have hnum := hfits.fresh outline (by
        rw [newOutlines_cons_of_notMem hnew]
        exact List.mem_cons_self)
      rw [← s.uid_issuedId nameSpace options.strategy 0 outline.name] at hnum
      rw [propertyNumbers_of_notMem hnew, List.range_eq_range',
        ← PropertyRecord.map_id_numbered hnum, List.mem_map, ← hr]
      -- a fresh record has the declared properties and no others
      refine exists_congr fun p => and_congr_right fun hp => (and_iff_right ?_).symm
      have hname := List.mem_map_of_mem (f := (·.name)) hp
      rwa [PropertyRecord.map_name_numbered] at hname

end Records

end Snapshot

end RecordSchema
