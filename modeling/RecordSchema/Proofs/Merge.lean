/-
Merging outlines into a snapshot.

This module says what a run does to a snapshot without saying how: `Snapshot.merge` maps every
recorded entity to what it becomes and appends a record for every declared name that was not
recorded, all at once. The assigner reaches the same snapshot one entity and one property at a time.

Identifiers are words in a record and numbers here. `Snapshot.Fits` says that every number a merge
issues to a property fits its word, so the words of the merged records are those numbers. Entities
are counted on words, and there the word after the highest is zero (`Snapshot.countedId`).
-/
import Mathlib.Data.List.MinMax
import RecordSchema.Derive
import RecordSchema.Proofs.Entity.Outline
import RecordSchema.Proofs.Numbering
import RecordSchema.Proofs.Snapshot.Consistency

set_option autoImplicit false

namespace RecordSchema

/-! ## One entity -/

namespace EntityRecord

/-- The names of the properties that a record has, retired ones included. -/
def propertyNames (r : EntityRecord) : List String := r.properties.map (·.name)

/-- The number of the next property that is new to a record: one past the highest ever issued in
it. -/
def nextNumber (r : EntityRecord) : Nat :=
  match r.lastPropertyId with
  | some last => last.id.toNat + 1
  | none => 0

/-- The declared names that a record does not have yet, each once. -/
def newNames (r : EntityRecord) (names : List String) : List String :=
  (names.filter fun name => !r.propertyNames.contains name).eraseDups

/-- There is a word for the number of the next property, or none is added. -/
def HasRoom (r : EntityRecord) (names : List String) : Prop :=
  r.newNames names = [] ∨ r.nextNumber < UInt32.size

/-- The properties that a declaration adds to a record. -/
def added (r : EntityRecord) (names : List String) : List PropertyRecord :=
  PropertyRecord.numbered r.id.uid r.nextNumber (r.newNames names)

/-- A record after a run in which a unit declares its entity with properties of given names: it is
live and belongs to that unit, its properties are live exactly if they are declared, and the
properties that it did not have stand behind them. -/
def declared (r : EntityRecord) (source : Option String) (names : List String) : EntityRecord :=
  { r with
    source
    retired := false
    lastPropertyId := ((r.added names).getLast?.map (·.id)).or r.lastPropertyId
    properties :=
      r.properties.map (fun p => { p with retired := !names.contains p.name }) ++ r.added names }

/-- The record of an entity that a unit declares for the first time. -/
def fresh (source : Option String) (outline : Outline) (id : IdUid) : EntityRecord :=
  let properties := PropertyRecord.numbered id.uid 0 outline.properties
  { id, name := outline.name, source, retired := false
    lastPropertyId := properties.getLast?.map (·.id), properties }

@[simp] theorem declared_name (r : EntityRecord) (source : Option String) (names : List String) :
    (r.declared source names).name = r.name := rfl

@[simp] theorem declared_id (r : EntityRecord) (source : Option String) (names : List String) :
    (r.declared source names).id = r.id := rfl

@[simp] theorem fresh_name (source : Option String) (outline : Outline) (id : IdUid) :
    (fresh source outline id).name = outline.name := rfl

@[simp] theorem fresh_id (source : Option String) (outline : Outline) (id : IdUid) :
    (fresh source outline id).id = id := rfl

theorem propertyNames_fresh (source : Option String) (outline : Outline) (id : IdUid) :
    (fresh source outline id).propertyNames = outline.properties :=
  PropertyRecord.map_name_numbered _

/-- New names are new to the record. -/
theorem newTo_newNames (r : EntityRecord) (names : List String) :
    NewTo r.propertyNames (r.newNames names) := by
  refine ⟨nodup_eraseDups _, fun name hname => ?_⟩
  rw [newNames, List.mem_eraseDups, List.mem_filter] at hname
  simpa using hname.2

theorem mem_newNames_iff {r : EntityRecord} {names : List String} {name : String} :
    name ∈ r.newNames names ↔ name ∈ names ∧ name ∉ r.propertyNames := by
  simp [newNames, List.mem_eraseDups]

theorem map_name_added (r : EntityRecord) (names : List String) :
    (r.added names).map (·.name) = r.newNames names :=
  PropertyRecord.map_name_numbered _

theorem propertyNames_declared (r : EntityRecord) (source : Option String) (names : List String) :
    (r.declared source names).propertyNames = r.propertyNames ++ r.newNames names := by
  rw [← map_name_added]
  simp [propertyNames, declared, Function.comp_def]

/-- A declared record keeps its UIDs and gains those of the properties added to it. -/
theorem uids_declared (r : EntityRecord) (source : Option String) (names : List String) :
    (r.declared source names).uids = r.uids ++ (r.added names).map (·.id.uid) := by
  simp [uids, declared, Function.comp_def]

/-- The highest ID of a record that gains numbered properties is that of the last one. -/
private theorem last_of_numbered {uid : UInt64} {first : Nat} {names : List String}
    (before : Option IdUid) (h : Numberable uid first names.length) {p : PropertyRecord}
    (hp : p ∈ PropertyRecord.numbered uid first names) :
    ∃ last, ((PropertyRecord.numbered uid first names).getLast?.map (·.id)).or before = some last ∧
      first ≤ last.id.toNat ∧ p.id.id ≤ last.id := by
  obtain ⟨last, hlast, hnum, hle⟩ := PropertyRecord.id_le_getLast?_numbered h hp
  have hlen : 0 < names.length := by
    have hpos := List.length_pos_iff.mpr (List.ne_nil_of_mem hp)
    rwa [PropertyRecord.length_numbered] at hpos
  refine ⟨last.id, by rw [hlast]; rfl, by omega, hle⟩

/-- Declaring an entity again keeps its record consistent if the new numbers fit. -/
theorem Consistent.declared {r : EntityRecord} (h : r.Consistent) {source : Option String}
    {names : List String} (hnum : Numberable r.id.uid r.nextNumber (r.newNames names).length) :
    (r.declared source names).Consistent where
  names := by
    change (r.declared source names).propertyNames.Nodup
    rw [propertyNames_declared, nodup_append_iff_newTo]
    exact ⟨h.names, r.newTo_newNames names⟩
  ids := by
    have hids : (r.declared source names).properties.map (·.id.id) =
        r.properties.map (·.id.id) ++ (r.added names).map (·.id.id) := by
      simp [EntityRecord.declared, Function.comp_def]
    rw [hids, nodup_append_iff_newTo]
    refine ⟨h.ids, PropertyRecord.nodup_id_numbered hnum, ?_⟩
    intro id hid hold
    obtain ⟨p, hp, rfl⟩ := List.mem_map.mp hid
    obtain ⟨q, hq, hqp⟩ := List.mem_map.mp hold
    -- an old ID is at most the last one issued, a new one starts past it
    obtain ⟨last, hlast, hle⟩ := h.last q hq
    have hge := (PropertyRecord.of_mem_numbered hnum hp).2.1
    rw [nextNumber, hlast] at hge
    rw [hqp, UInt32.le_iff_toNat_le] at hle
    dsimp only at hge
    omega
  last := by
    intro p hp
    rcases List.mem_append.mp hp with hold | hnew
    · obtain ⟨q, hq, rfl⟩ := List.mem_map.mp hold
      obtain ⟨last, hlast, hle⟩ := h.last q hq
      -- the old maximum stays unless something was added, and what was added is above it
      by_cases hnil : r.added names = []
      · exact ⟨last, by rw [EntityRecord.declared, hnil]; exact hlast, hle⟩
      · obtain ⟨n, hn⟩ := List.exists_mem_of_ne_nil _ hnil
        obtain ⟨last', hlast', hge, -⟩ := last_of_numbered r.lastPropertyId hnum hn
        refine ⟨last', hlast', ?_⟩
        rw [nextNumber, hlast] at hge
        rw [UInt32.le_iff_toNat_le] at hle ⊢
        dsimp only at hge ⊢
        omega
    · obtain ⟨last, hlast, -, hle⟩ := last_of_numbered r.lastPropertyId hnum hnew
      exact ⟨last, hlast, hle⟩

/-- The record of a new entity is consistent if its properties have distinct names and their
numbers fit. -/
theorem consistent_fresh {source : Option String} {outline : Outline} {id : IdUid}
    (hnames : outline.properties.Nodup) (hnum : Numberable id.uid 0 outline.properties.length) :
    (fresh source outline id).Consistent where
  names := by
    change (fresh source outline id).propertyNames.Nodup
    rwa [propertyNames_fresh]
  ids := PropertyRecord.nodup_id_numbered hnum
  last := by
    intro p hp
    obtain ⟨last, hlast, -, hle⟩ := last_of_numbered none hnum hp
    exact ⟨last, by rwa [Option.or_none] at hlast, hle⟩

end EntityRecord

/-! ## The highest of some identifiers -/

/-- The identifier of the highest numeric ID, and of several the first. -/
def highestOf (ids : List IdUid) : Option IdUid := ids.argmax fun x => x.id.toNat

/-- The highest numeric ID, or zero if there is none. -/
def highestNumber (ids : List IdUid) : Nat := (ids.map (·.id.toNat)).foldr max 0

/-- Looking for the highest identifier can be interrupted. -/
theorem highestOf_highestOf_append (ids more : List IdUid) :
    highestOf ((highestOf ids).toList ++ more) = highestOf (ids ++ more) := by
  -- the highest so far is compared with the next one behind it, so the induction is from the back
  induction more using List.reverseRecOn with
  | nil =>
      rw [List.append_nil, List.append_nil]
      cases highestOf ids with
      | none => rfl
      | some x => exact List.argmax_singleton
  | append_singleton more x ih =>
      rw [← List.append_assoc, ← List.append_assoc]
      unfold highestOf at ih ⊢
      rw [List.argmax_concat, List.argmax_concat, ih]

@[simp] theorem highestOf_toList (x : Option IdUid) : highestOf x.toList = x := by
  cases x with
  | none => rfl
  | some x => exact List.argmax_singleton

/-- There is no highest identifier exactly where there is none at all. -/
theorem highestOf_eq_none_iff {ids : List IdUid} : highestOf ids = none ↔ ids = [] :=
  List.argmax_eq_none

/-- The highest identifier is one of them, and none has a higher number. -/
theorem of_highestOf_eq_some {ids : List IdUid} {x : IdUid} (h : highestOf ids = some x) :
    x ∈ ids ∧ ∀ y ∈ ids, y.id ≤ x.id := by
  refine ⟨List.argmax_mem h, fun y hy => ?_⟩
  rw [UInt32.le_iff_toNat_le]
  exact List.le_of_mem_argmax (f := fun z : IdUid => z.id.toNat) hy h

/-- The highest of identifiers with different numbers does not depend on their order. -/
theorem highestOf_perm {ids more : List IdUid} (hperm : ids.Perm more)
    (hids : (ids.map (·.id)).Nodup) : highestOf ids = highestOf more := by
  cases hx : highestOf ids with
  | none =>
      rw [highestOf_eq_none_iff.mp hx, List.nil_perm] at hperm
      rw [hperm]
      rfl
  | some x =>
      cases hy : highestOf more with
      | none =>
          rw [highestOf_eq_none_iff.mp hy, List.perm_nil] at hperm
          rw [hperm] at hx
          cases hx
      | some y =>
          obtain ⟨hxmem, hxle⟩ := of_highestOf_eq_some hx
          obtain ⟨hymem, hyle⟩ := of_highestOf_eq_some hy
          have hyids := hperm.mem_iff.mpr hymem
          have hnumber : x.id = y.id :=
            UInt32.le_antisymm (hyle x (hperm.mem_iff.mp hxmem)) (hxle y hyids)
          rw [List.inj_on_of_nodup_map hids hxmem hyids hnumber]

/-- Of what stands behind others only the highest counts. -/
theorem highestOf_append_highestOf (ids more : List IdUid) :
    highestOf (ids ++ (highestOf more).toList) = highestOf (ids ++ more) := by
  induction ids with
  | nil => exact highestOf_toList _
  | cons x ids ih =>
      rw [List.cons_append, List.cons_append]
      unfold highestOf at ih ⊢
      rw [List.argmax_cons, List.argmax_cons, ih]

/-- The order of identifiers with different numbers does not matter behind others either. -/
theorem highestOf_append_perm (ids : List IdUid) {more other : List IdUid}
    (hperm : more.Perm other) (hids : (more.map (·.id)).Nodup) :
    highestOf (ids ++ more) = highestOf (ids ++ other) := by
  rw [← highestOf_append_highestOf, highestOf_perm hperm hids, highestOf_append_highestOf]

theorem highestNumber_cons (x : IdUid) (ids : List IdUid) :
    highestNumber (x :: ids) = max x.id.toNat (highestNumber ids) := rfl

theorem highestNumber_append (ids more : List IdUid) :
    highestNumber (ids ++ more) = max (highestNumber ids) (highestNumber more) := by
  induction ids with
  | nil => simp [highestNumber]
  | cons x ids ih =>
      rw [List.cons_append, highestNumber_cons, highestNumber_cons, ih, Nat.max_assoc]

theorem le_highestNumber {ids : List IdUid} {x : IdUid} (h : x ∈ ids) :
    x.id.toNat ≤ highestNumber ids := by
  obtain ⟨before, after, rfl⟩ := List.append_of_mem h
  rw [highestNumber_append, highestNumber_cons]
  omega

/-- The highest number is below a bound if every number is. -/
theorem highestNumber_lt {ids : List IdUid} {bound : Nat} (hbound : 0 < bound)
    (h : ∀ x ∈ ids, x.id.toNat < bound) : highestNumber ids < bound := by
  induction ids with
  | nil => exact hbound
  | cons x ids ih =>
      rw [List.forall_mem_cons] at h
      exact Nat.max_lt.mpr ⟨h.1, ih h.2⟩

/-- The highest identifier has the highest number. -/
theorem highestNumber_highestOf (ids : List IdUid) :
    highestNumber (highestOf ids).toList = highestNumber ids := by
  induction ids using List.reverseRecOn with
  | nil => rfl
  | append_singleton ids x ih =>
      have hx : highestNumber [x] = x.id.toNat := Nat.max_zero _
      rw [highestNumber_append, ← ih, highestOf, List.argmax_concat, ← highestOf]
      cases highestOf ids with
      | none => simp [highestNumber]
      | some y =>
          have hy : highestNumber [y] = y.id.toNat := Nat.max_zero _
          dsimp only
          split
          all_goals
            simp only [Option.toList_some, hx, hy]
            omega

/-! ## A whole snapshot -/

/-- A recorded entity after a whole run of a unit: renewed if the run declares it, retired if it
belongs to the unit and the run does not, and untouched otherwise. -/
def EntityRecord.merged (r : EntityRecord) (source : Option String)
    (outlines : List Outline) : EntityRecord :=
  match outlines.find? (·.name = r.name) with
  | some outline => r.declared source outline.properties
  | none => if r.source = source then { r with retired := true } else r

@[simp] theorem EntityRecord.merged_name (r : EntityRecord) (source : Option String)
    (outlines : List Outline) : (r.merged source outlines).name = r.name := by
  unfold merged
  repeat' split
  all_goals rfl

@[simp] theorem EntityRecord.merged_id (r : EntityRecord) (source : Option String)
    (outlines : List Outline) : (r.merged source outlines).id = r.id := by
  unfold merged
  repeat' split
  all_goals rfl

theorem EntityRecord.merged_of_find? {r : EntityRecord} {outlines : List Outline}
    {outline : Outline} (h : outlines.find? (·.name = r.name) = some outline)
    (source : Option String) :
    r.merged source outlines = r.declared source outline.properties := by
  unfold merged
  rw [h]

theorem EntityRecord.merged_of_find?_none {r : EntityRecord} {outlines : List Outline}
    (h : outlines.find? (·.name = r.name) = none) (source : Option String) :
    r.merged source outlines = if r.source = source then { r with retired := true } else r := by
  unfold merged
  rw [h]

namespace Snapshot

/-- The names of the entities that a snapshot records, retired ones included. -/
def entityNames (s : Snapshot) : List String := s.entities.map (·.name)

/-- The highest numeric ID that was ever issued to an entity, whether recorded as such or held by a
record, or zero. -/
def highestId (s : Snapshot) : Nat :=
  highestNumber (s.lastEntityId.toList ++ s.entities.map (·.id))

theorem highestId_lt_size (s : Snapshot) : s.highestId < UInt32.size :=
  highestNumber_lt (by decide) fun x _ => x.id.toNat_lt_size

/-- There is a word after the highest ID unless the one that is recorded as such is the highest word
of all; records have 24 bits. -/
theorem Unambiguous.succ_highestId_lt {s : Snapshot} (h : s.Unambiguous)
    (hlast : ∀ last, s.lastEntityId = some last → last.id.toNat + 1 < UInt32.size) :
    s.highestId + 1 < UInt32.size := by
  suffices hbelow : s.highestId < UInt32.size - 1 by omega
  refine highestNumber_lt (by decide) ?_
  rw [List.forall_mem_append]
  constructor
  · intro x hx
    have hword := hlast x (Option.mem_toList.mp hx)
    omega
  · rw [List.forall_mem_map]
    intro r hr
    exact Nat.lt_of_le_of_lt (h.range r hr) (by decide)

/-- The numeric ID that counting on from the highest gives to the new entity at position `k`.
After the highest word comes zero. That is no new highest, so whatever is counted after it is zero
as well. -/
def countedId (s : Snapshot) (k : Nat) : UInt32 :=
  UInt32.ofNat (min (s.highestId + 1 + k) UInt32.size)

/-- Below the highest word the words are the numbers. -/
theorem countedId_toNat {s : Snapshot} {k : Nat} (h : s.highestId + 1 + k < UInt32.size) :
    (s.countedId k).toNat = s.highestId + 1 + k := by
  rw [countedId, Nat.min_eq_left (Nat.le_of_lt h), UInt32.toNat_ofNat_of_lt' h]

theorem countedId_eq_zero {s : Snapshot} {k : Nat} (h : UInt32.size ≤ s.highestId + 1 + k) :
    s.countedId k = 0 := by
  rw [countedId, Nat.min_eq_right h]
  rfl

/-- The first number is the next word after the highest. -/
theorem countedId_zero_toNat (s : Snapshot) :
    (s.countedId 0).toNat = (s.highestId + 1) % UInt32.size := by
  have hlt := s.highestId_lt_size
  by_cases h : s.highestId + 1 + 0 < UInt32.size
  · rw [countedId_toNat h, Nat.mod_eq_of_lt h]
  · have hsize : s.highestId + 1 = UInt32.size := by omega
    rw [countedId_eq_zero (Nat.not_lt.mp h), hsize]
    rfl

/-- Counting never gets ahead of the numbers. -/
theorem countedId_toNat_le (s : Snapshot) (k : Nat) :
    (s.countedId k).toNat ≤ s.highestId + 1 + k := by
  by_cases h : s.highestId + 1 + k < UInt32.size
  · rw [countedId_toNat h]
  · rw [countedId_eq_zero (Nat.not_lt.mp h)]
    exact Nat.zero_le _

/-- IDs of 24 bits that differ are counted on from the highest one as integers. Only if that is the
highest word of all, counting starts over, and then there is no second ID. -/
theorem countedId_of_nodup {s : Snapshot} {n k : Nat}
    (hdistinct : ((List.range n).map s.countedId).Nodup)
    (hbounded : ∀ k < n, (s.countedId k).toNat ≤ maxEntityId) (hk : k < n) :
    (s.highestId + 1 < UInt32.size → (s.countedId k).toNat = s.highestId + 1 + k) ∧
      (s.highestId + 1 = UInt32.size → k = 0 ∧ s.countedId k = 0) := by
  constructor
  · intro hlt
    by_cases hword : s.highestId + 1 + k < UInt32.size
    · exact countedId_toNat hword
    · -- on the way there is the highest word, which has more than 24 bits
      have hlast : s.highestId + 1 + (UInt32.size - 2 - s.highestId) < UInt32.size := by omega
      have hle := hbounded (UInt32.size - 2 - s.highestId) (by omega)
      rw [countedId_toNat hlast] at hle
      simp only [maxEntityId, UInt32.size] at hle hlt
      omega
  · intro hsize
    have hzero : ∀ j, s.countedId j = 0 := fun j => countedId_eq_zero (by omega)
    refine ⟨?_, hzero k⟩
    have hfirst : (0 : Nat) ∈ List.range n := List.mem_range.mpr (by omega)
    exact List.inj_on_of_nodup_map hdistinct (List.mem_range.mpr hk) hfirst
      ((hzero k).trans (hzero 0).symm)

/-- The identifier of an entity that is the new one at position `k` of a run: the UID comes from
the hash of the name, the numeric ID from the hash or from counting on. -/
def issuedId (s : Snapshot) (nameSpace : String) (strategy : IdStrategy) (k : Nat)
    (name : String) : IdUid :=
  let hash := Hash.entityHash nameSpace name
  match strategy with
  | .hashed => ⟨hashedEntityId hash, entityUid hash⟩
  | .sequential => ⟨s.countedId k, entityUid hash⟩

/-- The UID of a new entity comes from the hash of its name alone. -/
theorem uid_issuedId (s : Snapshot) (nameSpace : String) (strategy : IdStrategy) (k : Nat)
    (name : String) :
    (s.issuedId nameSpace strategy k name).uid = entityUid (Hash.entityHash nameSpace name) := by
  cases strategy <;> rfl

/-- The outlines of entities that a snapshot does not record. -/
def newOutlines (s : Snapshot) (outlines : List Outline) : List Outline :=
  outlines.filter fun outline => !s.entityNames.contains outline.name

/-- The records of the entities that a run declares for the first time. -/
def newRecords (s : Snapshot) (nameSpace : String) (options : DeriveOptions)
    (outlines : List Outline) : List EntityRecord :=
  (s.newOutlines outlines).mapIdx fun k outline =>
    .fresh options.source outline (s.issuedId nameSpace options.strategy k outline.name)

/-- The numeric IDs that counting gives to new entities. -/
theorem map_id_newRecords_sequential (s : Snapshot) (nameSpace : String) {options : DeriveOptions}
    (hseq : options.strategy = .sequential) (outlines : List Outline) :
    (s.newRecords nameSpace options outlines).map (·.id.id) =
      (List.range (s.newOutlines outlines).length).map s.countedId :=
  List.ext_getElem (by simp [newRecords]) fun i h₁ h₂ => by simp [newRecords, issuedId, hseq]

/-- The highest entity identifier after a run. -/
def mergedLastId (s : Snapshot) (nameSpace : String) (options : DeriveOptions)
    (outlines : List Outline) : Option IdUid :=
  highestOf (s.lastEntityId.toList ++ (s.newRecords nameSpace options outlines).map (·.id))

/-- A snapshot after a run: every record in its place, then the new ones in the order of their
declarations. -/
def merge (s : Snapshot) (nameSpace : String) (options : DeriveOptions)
    (outlines : List Outline) : Snapshot where
  version := s.version
  lastEntityId := s.mergedLastId nameSpace options outlines
  entities :=
    s.entities.map (·.merged options.source outlines) ++ s.newRecords nameSpace options outlines

/-- A merge leaves the identifiers where they are and appends those of the new records. -/
theorem map_id_merge (s : Snapshot) (nameSpace : String) (options : DeriveOptions)
    (outlines : List Outline) :
    (s.merge nameSpace options outlines).entities.map (·.id) =
      s.entities.map (·.id) ++ (s.newRecords nameSpace options outlines).map (·.id) := by
  simp [merge, Function.comp_def]

/-- Every number that a merge issues to a property fits its word. -/
structure Fits (s : Snapshot) (nameSpace : String) (options : DeriveOptions)
    (outlines : List Outline) : Prop where
  renewed : ∀ r ∈ s.entities, ∀ outline ∈ outlines, outline.name = r.name →
    Numberable r.id.uid r.nextNumber (r.newNames outline.properties).length
  fresh : ∀ outline ∈ s.newOutlines outlines,
    Numberable (entityUid (Hash.entityHash nameSpace outline.name)) 0 outline.properties.length

end Snapshot

end RecordSchema
