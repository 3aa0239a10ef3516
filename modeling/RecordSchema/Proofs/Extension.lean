/-
Extending a snapshot by what a run declares.

`Snapshot.extend` is the merge before undeclared entities are retired. It is what a prefix of a run
has reached, so it composes (`extend_cons`), and the induction over a run is on it.

Extending by a single outline either turns one record into its declared form or appends a fresh one.
These are the two things that an assigner does, and in both an unambiguous snapshot stays so if what
is added is new.
-/
import RecordSchema.Proofs.Merge

set_option autoImplicit false

namespace RecordSchema

/-! ## The extension -/

/-- A recorded entity after the declarations of a unit, as far as they are its own. -/
def EntityRecord.redeclared (r : EntityRecord) (source : Option String)
    (outlines : List Outline) : EntityRecord :=
  match outlines.find? (·.name = r.name) with
  | some outline => r.declared source outline.properties
  | none => r

namespace Snapshot

/-- A snapshot after the declarations of a run, before what was not declared is retired. -/
def extend (s : Snapshot) (nameSpace : String) (options : DeriveOptions)
    (outlines : List Outline) : Snapshot where
  version := s.version
  lastEntityId := s.mergedLastId nameSpace options outlines
  entities :=
    s.entities.map (·.redeclared options.source outlines) ++
      s.newRecords nameSpace options outlines

end Snapshot

attribute [ext] Snapshot

/-! ## Records -/

namespace EntityRecord

variable {source : Option String} {outlines : List Outline}

@[simp] theorem redeclared_name (r : EntityRecord) :
    (r.redeclared source outlines).name = r.name := by
  unfold redeclared
  split <;> rfl

@[simp] theorem redeclared_id (r : EntityRecord) :
    (r.redeclared source outlines).id = r.id := by
  unfold redeclared
  split <;> rfl

/-- A record is left alone by a run that does not declare its name. -/
theorem redeclared_of_notMem {r : EntityRecord} (h : r.name ∉ outlines.map (·.name)) :
    r.redeclared source outlines = r := by
  unfold redeclared
  rw [(find?_key_eq_none_iff (·.name) outlines).mpr h]

/-- Of several outlines with different names at most the first is a record's own, or the rest. -/
theorem redeclared_cons {outline : Outline} (h : outline.name ∉ outlines.map (·.name))
    (r : EntityRecord) :
    (r.redeclared source [outline]).redeclared source outlines =
      r.redeclared source (outline :: outlines) := by
  by_cases hname : outline.name = r.name
  · have hone : r.redeclared source [outline] = r.declared source outline.properties := by
      simp [redeclared, hname]
    rw [hone, redeclared_of_notMem (by rwa [declared_name, ← hname])]
    simp [redeclared, hname]
  · have hone : r.redeclared source [outline] = r := by simp [redeclared, hname]
    rw [hone]
    simp [redeclared, hname]

end EntityRecord

/-! ## Extending one outline after the other -/

namespace Snapshot

variable (nameSpace : String) (options : DeriveOptions)

/-- The new records have the names that were not recorded, in the order of their declarations. -/
theorem map_name_newRecords (s : Snapshot) (outlines : List Outline) :
    (s.newRecords nameSpace options outlines).map (·.name) =
      (s.newOutlines outlines).map (·.name) :=
  List.ext_getElem (by simp [newRecords]) fun i h₁ h₂ => by simp [newRecords]

theorem entityNames_extend (s : Snapshot) (outlines : List Outline) :
    (s.extend nameSpace options outlines).entityNames =
      s.entityNames ++ (s.newOutlines outlines).map (·.name) := by
  rw [← map_name_newRecords nameSpace options]
  simp [entityNames, extend, Function.comp_def]

/-- An extension leaves the identifiers where they are and appends those of the new records. -/
theorem map_id_extend (s : Snapshot) (outlines : List Outline) :
    (s.extend nameSpace options outlines).entities.map (·.id) =
      s.entities.map (·.id) ++ (s.newRecords nameSpace options outlines).map (·.id) := by
  simp [extend, Function.comp_def]

/-- The highest number after an extension is an old one or that of a new record. -/
theorem highestId_extend (s : Snapshot) (outlines : List Outline) :
    (s.extend nameSpace options outlines).highestId =
      max s.highestId
        (highestNumber ((s.newRecords nameSpace options outlines).map (·.id))) := by
  rw [highestId, highestId, map_id_extend]
  simp only [extend, mergedLastId, highestNumber_append, highestNumber_highestOf]
  omega

/-- An identifier is issued by name alone, or by counting. -/
theorem issuedId_congr {s t : Snapshot} {strategy : IdStrategy} {j k : Nat}
    (h : strategy = .sequential → t.countedId j = s.countedId k) (name : String) :
    t.issuedId nameSpace strategy j name = s.issuedId nameSpace strategy k name := by
  cases strategy with
  | hashed => rfl
  | sequential => simp only [issuedId, h rfl]

theorem extend_nil (s : Snapshot) : s.extend nameSpace options [] = s := by
  have hredeclared : ∀ e : EntityRecord, e.redeclared options.source [] = e := fun _ => rfl
  ext1
  · rfl
  · change highestOf (s.lastEntityId.toList ++ []) = s.lastEntityId
    rw [List.append_nil, highestOf_toList]
  · change s.entities.map (·.redeclared options.source []) ++ [] = s.entities
    simp only [hredeclared, List.map_id', List.append_nil]

section One

variable {s : Snapshot} {outline : Outline}

theorem newOutlines_cons_of_mem (h : outline.name ∈ s.entityNames) (outlines : List Outline) :
    s.newOutlines (outline :: outlines) = s.newOutlines outlines := by
  simp [newOutlines, h]

theorem newOutlines_cons_of_notMem (h : outline.name ∉ s.entityNames)
    (outlines : List Outline) :
    s.newOutlines (outline :: outlines) = outline :: s.newOutlines outlines := by
  simp [newOutlines, h]

/-- A recorded name adds no record. -/
theorem newRecords_singleton_of_mem (h : outline.name ∈ s.entityNames) :
    s.newRecords nameSpace options [outline] = [] := by
  rw [newRecords, newOutlines_cons_of_mem h]
  rfl

/-- A name that is not recorded adds a record of its own. -/
theorem newRecords_singleton_of_notMem (h : outline.name ∉ s.entityNames) :
    s.newRecords nameSpace options [outline] =
      [.fresh options.source outline
        (s.issuedId nameSpace options.strategy 0 outline.name)] := by
  rw [newRecords, newOutlines_cons_of_notMem h]
  rfl

/-- An outline of another name leaves the new ones as they are. -/
theorem newOutlines_extend_singleton {outlines : List Outline}
    (h : outline.name ∉ outlines.map (·.name)) :
    (s.extend nameSpace options [outline]).newOutlines outlines = s.newOutlines outlines := by
  rw [newOutlines, entityNames_extend]
  refine List.filter_congr fun o ho => ?_
  have hne : o.name ≠ outline.name := fun he => h (he ▸ List.mem_map_of_mem ho)
  by_cases hmem : outline.name ∈ s.entityNames
  · simp [newOutlines, hmem]
  · simp [newOutlines, hmem, hne]

theorem highestId_extend_of_mem (h : outline.name ∈ s.entityNames) :
    (s.extend nameSpace options [outline]).highestId = s.highestId := by
  rw [highestId_extend, newRecords_singleton_of_mem nameSpace options h]
  exact Nat.max_eq_left (Nat.zero_le _)

/-- An entity that is counted takes the number after the highest, if there is a word for it. -/
theorem highestId_extend_of_notMem (h : outline.name ∉ s.entityNames)
    (hseq : options.strategy = .sequential) :
    (s.extend nameSpace options [outline]).highestId =
      min (s.highestId + 1) (UInt32.size - 1) := by
  have hlt := s.highestId_lt_size
  have hrecord : (s.extend nameSpace options [outline]).highestId =
      max s.highestId (s.countedId 0).toNat := by
    rw [highestId_extend, newRecords_singleton_of_notMem nameSpace options h, List.map_singleton,
      highestNumber_cons, EntityRecord.fresh_id, hseq]
    exact congrArg (max s.highestId) (Nat.max_zero _)
  rw [hrecord]
  by_cases hword : s.highestId + 1 + 0 < UInt32.size
  · rw [countedId_toNat hword]
    omega
  · -- the number started over, and the highest stays what it was
    rw [countedId_eq_zero (Nat.not_lt.mp hword)]
    change max s.highestId 0 = _
    omega

/-- Once an entity is counted, the next one takes its place. -/
theorem countedId_extend_of_notMem (h : outline.name ∉ s.entityNames)
    (hseq : options.strategy = .sequential) (k : Nat) :
    (s.extend nameSpace options [outline]).countedId k = s.countedId (k + 1) := by
  have hnumber : min (min (s.highestId + 1) (UInt32.size - 1) + 1 + k) UInt32.size =
      min (s.highestId + 1 + (k + 1)) UInt32.size := by
    simp only [UInt32.size]
    omega
  rw [countedId, countedId, highestId_extend_of_notMem nameSpace options h hseq, hnumber]

/-- The records that a list of outlines adds are that of the first and those the rest adds after
it. -/
theorem newRecords_cons {outlines : List Outline} (h : outline.name ∉ outlines.map (·.name)) :
    s.newRecords nameSpace options (outline :: outlines) =
      s.newRecords nameSpace options [outline] ++
        (s.extend nameSpace options [outline]).newRecords nameSpace options outlines := by
  have hnew := newOutlines_extend_singleton (s := s) nameSpace options h
  -- if the first outline adds a record, the others stand one place further, and counting has gone
  -- on by one
  by_cases hmem : outline.name ∈ s.entityNames
  · rw [newRecords_singleton_of_mem nameSpace options hmem, List.nil_append, newRecords,
      newRecords, newOutlines_cons_of_mem hmem, hnew]
    refine congrArg (fun f => List.mapIdx f (s.newOutlines outlines)) ?_
    funext k o
    rw [issuedId_congr]
    intro _
    rw [countedId, countedId, highestId_extend_of_mem nameSpace options hmem]
  · rw [newRecords_singleton_of_notMem nameSpace options hmem, newRecords, newRecords,
      newOutlines_cons_of_notMem hmem, hnew, List.mapIdx_cons, List.singleton_append]
    refine congrArg (List.cons _) (congrArg (fun f => List.mapIdx f (s.newOutlines outlines)) ?_)
    funext k o
    rw [issuedId_congr]
    intro hseq
    exact (countedId_extend_of_notMem nameSpace options hmem hseq k).symm

/-- Extending by a list of outlines is extending by the first and then by the rest. -/
theorem extend_cons {outlines : List Outline} (h : outline.name ∉ outlines.map (·.name)) :
    (s.extend nameSpace options [outline]).extend nameSpace options outlines =
      s.extend nameSpace options (outline :: outlines) := by
  have hrecords := newRecords_cons (s := s) nameSpace options h
  -- a record that was just added has the name of the first outline, so the rest leave it alone
  have hnew : (s.newRecords nameSpace options [outline]).map
      (·.redeclared options.source outlines) = s.newRecords nameSpace options [outline] := by
    refine (List.map_congr_left fun r hr => ?_).trans (List.map_id' _)
    refine EntityRecord.redeclared_of_notMem fun hmem => h ?_
    have hname := List.mem_map_of_mem (f := (·.name)) hr
    rw [map_name_newRecords] at hname
    obtain ⟨o, ho, hor⟩ := List.mem_map.mp hname
    rw [newOutlines, List.mem_filter, List.mem_singleton] at ho
    rw [← ho.1, hor]
    exact hmem
  ext1
  · rfl
  · change (s.extend nameSpace options [outline]).mergedLastId nameSpace options outlines =
      s.mergedLastId nameSpace options (outline :: outlines)
    rw [mergedLastId, mergedLastId, hrecords, List.map_append, ← List.append_assoc]
    exact highestOf_highestOf_append _ _
  · change (s.entities.map (·.redeclared options.source [outline]) ++
        s.newRecords nameSpace options [outline]).map (·.redeclared options.source outlines) ++ _ =
      s.entities.map (·.redeclared options.source (outline :: outlines)) ++
        s.newRecords nameSpace options (outline :: outlines)
    rw [hrecords, List.map_append, hnew, List.map_map, List.append_assoc]
    simp only [Function.comp_def, EntityRecord.redeclared_cons h]

/-- For an outline of a recorded entity only the new properties need numbers. -/
theorem Fits.singleton_of_mem (hnames : s.entityNames.Nodup) {r : EntityRecord}
    (hr : r ∈ s.entities) (hname : r.name = outline.name)
    (hnum : Numberable r.id.uid r.nextNumber (r.newNames outline.properties).length) :
    s.Fits nameSpace options [outline] := by
  have hnil : s.newOutlines [outline] = [] :=
    newOutlines_cons_of_mem (hname ▸ List.mem_map_of_mem hr) []
  constructor
  · intro r' hr' o ho hname'
    obtain rfl := List.mem_singleton.mp ho
    obtain rfl : r = r' := List.inj_on_of_nodup_map hnames hr hr' (hname.trans hname')
    exact hnum
  · intro o ho
    rw [hnil] at ho
    cases ho

/-- For an outline of a new entity all its properties do. -/
theorem Fits.singleton_of_notMem (hname : outline.name ∉ s.entityNames)
    (hnum : Numberable (entityUid (Hash.entityHash nameSpace outline.name)) 0
      outline.properties.length) :
    s.Fits nameSpace options [outline] := by
  have hone : s.newOutlines [outline] = [outline] := newOutlines_cons_of_notMem hname []
  constructor
  · intro r hr o ho hname'
    obtain rfl := List.mem_singleton.mp ho
    exact absurd (hname' ▸ List.mem_map_of_mem hr) hname
  · intro o ho
    rw [hone] at ho
    obtain rfl := List.mem_singleton.mp ho
    exact hnum

/-- The numbers of a list of outlines fit if those of the first do and then those of the rest. -/
theorem Fits.cons {outlines : List Outline} (h : outline.name ∉ outlines.map (·.name))
    (hone : s.Fits nameSpace options [outline])
    (hrest : (s.extend nameSpace options [outline]).Fits nameSpace options outlines) :
    s.Fits nameSpace options (outline :: outlines) where
  renewed := by
    intro r hr o ho hname
    rcases List.mem_cons.mp ho with rfl | hmem
    · exact hone.renewed r hr o (List.mem_singleton_self o) hname
    · refine hrest.renewed r ?_ o hmem hname
      -- the first outline is not this record's own
      have hsame : r.redeclared options.source [outline] = r := by
        refine EntityRecord.redeclared_of_notMem fun hc => h ?_
        rw [List.map_singleton, List.mem_singleton] at hc
        rw [← hc, ← hname]
        exact List.mem_map_of_mem hmem
      exact List.mem_append_left _ (hsame ▸ List.mem_map_of_mem hr)
  fresh := by
    intro o ho
    have hfresh := hrest.fresh o
    rw [newOutlines_extend_singleton nameSpace options h] at hfresh
    by_cases hmem : outline.name ∈ s.entityNames
    · exact hfresh (newOutlines_cons_of_mem hmem outlines ▸ ho)
    · rw [newOutlines_cons_of_notMem hmem] at ho
      rcases List.mem_cons.mp ho with rfl | ho
      · refine hone.fresh o ?_
        rw [newOutlines_cons_of_notMem hmem]
        exact List.mem_cons_self
      · exact hfresh ho

end One

/-! ## Unambiguous snapshots -/

section Unambiguous

variable {s : Snapshot} {outline : Outline}

/-- A record that is declared stays in its place and changes alone. -/
theorem entities_extend_of_split {before after : List EntityRecord} {r : EntityRecord}
    (hs : s.entities = before ++ r :: after) (hbefore : ∀ e ∈ before, e.name ≠ r.name)
    (hafter : ∀ e ∈ after, e.name ≠ r.name) (hname : r.name = outline.name) :
    (s.extend nameSpace options [outline]).entities =
      before ++ r.declared options.source outline.properties :: after := by
  have hother : ∀ es : List EntityRecord, (∀ e ∈ es, e.name ≠ r.name) →
      es.map (·.redeclared options.source [outline]) = es := by
    intro es hes
    refine (List.map_congr_left fun e he => ?_).trans (List.map_id' es)
    refine EntityRecord.redeclared_of_notMem ?_
    rw [List.map_singleton, List.mem_singleton, ← hname]
    exact hes e he
  have hmem : outline.name ∈ s.entityNames := by
    rw [← hname, entityNames, hs]
    exact List.mem_map_of_mem (List.mem_append_right _ List.mem_cons_self)
  have hself : r.redeclared options.source [outline] =
      r.declared options.source outline.properties := by
    simp [EntityRecord.redeclared, hname]
  rw [extend, newRecords_singleton_of_mem nameSpace options hmem, hs]
  dsimp only
  rw [List.append_nil, List.map_append, List.map_cons, hother before hbefore,
    hother after hafter, hself]

/-- A fresh record stands behind the others, which do not change. -/
theorem entities_extend_of_notMem (h : outline.name ∉ s.entityNames) :
    (s.extend nameSpace options [outline]).entities =
      s.entities ++ [.fresh options.source outline
        (s.issuedId nameSpace options.strategy 0 outline.name)] := by
  rw [extend, newRecords_singleton_of_notMem nameSpace options h]
  refine congrArg (· ++ _) ((List.map_congr_left fun e he => ?_).trans (List.map_id' _))
  refine EntityRecord.redeclared_of_notMem ?_
  rw [List.map_singleton, List.mem_singleton]
  exact fun hc => h (hc ▸ List.mem_map_of_mem he)

theorem entityNames_extend_of_mem (h : outline.name ∈ s.entityNames) :
    (s.extend nameSpace options [outline]).entityNames = s.entityNames := by
  rw [entityNames_extend, newOutlines_cons_of_mem h]
  exact List.append_nil _

/-- A record that is declared adds the UIDs of its new properties. -/
theorem uids_extend_of_mem (hnames : s.entityNames.Nodup) {r : EntityRecord}
    (hr : r ∈ s.entities) (hname : r.name = outline.name) :
    (s.extend nameSpace options [outline]).uids.Perm
      (s.uids ++ (r.added outline.properties).map (·.id.uid)) := by
  obtain ⟨before, after, hs, hbefore, hafter⟩ := exists_split_of_nodup_map hnames hr
  -- the new UIDs stand behind those of their record, not behind those of the snapshot
  rw [uids, uids, entities_extend_of_split nameSpace options hs hbefore hafter hname, hs]
  simp only [List.flatMap_append, List.flatMap_cons, EntityRecord.uids_declared,
    List.append_assoc]
  exact (List.perm_append_comm.append_left _).append_left _

theorem uids_extend_of_notMem (h : outline.name ∉ s.entityNames) :
    (s.extend nameSpace options [outline]).uids = s.uids ++ (EntityRecord.fresh options.source
      outline (s.issuedId nameSpace options.strategy 0 outline.name)).uids := by
  rw [uids, entities_extend_of_notMem nameSpace options h]
  simp [uids]

variable {nameSpace options}

/-- An unambiguous snapshot stays so when a record of it is declared and the properties that it
gains have new UIDs. -/
theorem Unambiguous.extend_of_mem (h : s.Unambiguous) {r : EntityRecord} (hr : r ∈ s.entities)
    (hname : r.name = outline.name)
    (hnum : Numberable r.id.uid r.nextNumber (r.newNames outline.properties).length)
    (huids : NewTo s.uids ((r.added outline.properties).map (·.id.uid))) :
    (s.extend nameSpace options [outline]).Unambiguous := by
  have hmem : outline.name ∈ s.entityNames := hname ▸ List.mem_map_of_mem hr
  obtain ⟨before, after, hs, hbefore, hafter⟩ := exists_split_of_nodup_map h.names hr
  have hentities := entities_extend_of_split nameSpace options hs hbefore hafter hname
  refine ⟨h.version, ?_, ?_, ?_, ?_, ?_⟩
  · change (s.extend nameSpace options [outline]).entityNames.Nodup
    rw [entityNames_extend_of_mem nameSpace options hmem]
    exact h.names
  · have hids := h.ids
    rw [hs] at hids
    rw [hentities]
    simpa using hids
  · have hrange := h.range
    rw [hs, List.forall_mem_append, List.forall_mem_cons] at hrange
    rw [hentities, List.forall_mem_append, List.forall_mem_cons]
    exact hrange
  · rw [(uids_extend_of_mem nameSpace options h.names hr hname).nodup_iff, nodup_append_iff_newTo]
    exact ⟨h.uids, huids⟩
  · have hall := h.entities
    rw [hs, List.forall_mem_append, List.forall_mem_cons] at hall
    rw [hentities, List.forall_mem_append, List.forall_mem_cons]
    exact ⟨hall.1, (h.entities r hr).declared hnum, hall.2.2⟩

/-- An unambiguous snapshot stays so when an entity is added whose numeric ID and UIDs are new. -/
theorem Unambiguous.extend_of_notMem (h : s.Unambiguous) (hname : outline.name ∉ s.entityNames)
    {id : IdUid} (hid : id = s.issuedId nameSpace options.strategy 0 outline.name)
    (hnew : id.id ∉ s.entities.map (·.id.id)) (hrange : id.id.toNat ≤ maxEntityId)
    (hnames : outline.properties.Nodup) (hnum : Numberable id.uid 0 outline.properties.length)
    (huids : NewTo s.uids (EntityRecord.fresh options.source outline id).uids) :
    (s.extend nameSpace options [outline]).Unambiguous := by
  subst hid
  have hentities := entities_extend_of_notMem nameSpace options hname
  refine ⟨h.version, ?_, ?_, ?_, ?_, ?_⟩
  · rw [hentities, List.map_append, nodup_append_iff_newTo]
    exact ⟨h.names, newTo_singleton_iff.mpr hname⟩
  · rw [hentities, List.map_append, nodup_append_iff_newTo]
    exact ⟨h.ids, newTo_singleton_iff.mpr hnew⟩
  · rw [hentities, List.forall_mem_append]
    exact ⟨h.range, by simpa using hrange⟩
  · rw [uids_extend_of_notMem nameSpace options hname, nodup_append_iff_newTo]
    exact ⟨h.uids, huids⟩
  · rw [hentities, List.forall_mem_append]
    refine ⟨h.entities, fun e he => ?_⟩
    rw [List.mem_singleton.mp he]
    exact EntityRecord.consistent_fresh hnames hnum

end Unambiguous

end Snapshot

end RecordSchema
