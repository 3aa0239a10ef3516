/-
Merges under the hashed strategy.

A merge says of every name what becomes of its record, and under the hashed strategy it says so of
each name by itself: the identifiers of a new record come from its name and not from its place among
the others. So a declared entity has the record that it would have if it were declared alone, and
declaring in another order moves the new records and nothing else.

Two marks of a record, its unit and whether it is retired, are set by every declaration of its
entity, whatever they were before. All that a merge does to an entity that it does not declare is to
change the second of them. Merges of two units that declare different entities can therefore be made
in either order.
-/
import Mathlib.Data.List.Perm.Basic
import RecordSchema.Proofs.Collision

set_option autoImplicit false

namespace RecordSchema

/-! ## Marks -/

namespace EntityRecord

/-- A record without the marks that a declaration sets whatever they were before: to which unit it
belongs, and whether it is retired. -/
def unmarked (r : EntityRecord) : EntityRecord := { r with source := none, retired := false }

variable {r : EntityRecord} {a b : Option String} {outlines more : List Outline}

/-- Records that differ in their marks alone become the same when they are declared. -/
theorem declared_congr {r' : EntityRecord} (h : r'.unmarked = r.unmarked) (source : Option String)
    (names : List String) : r'.declared source names = r.declared source names := by
  change r'.unmarked.declared source names = r.unmarked.declared source names
  rw [h]

/-- A merge changes no more than a mark of a record that it does not declare. -/
theorem unmarked_merged_of_notMem (source : Option String) (h : r.name ∉ outlines.map (·.name)) :
    (r.merged source outlines).unmarked = r.unmarked := by
  rw [merged_of_find?_none ((find?_key_eq_none_iff (·.name) outlines).mpr h)]
  split <;> rfl

/-- A merge leaves a record of another unit that it does not declare. -/
theorem merged_of_foreign (h : r.name ∉ outlines.map (·.name)) (hsource : r.source ≠ a) :
    r.merged a outlines = r := by
  rw [merged_of_find?_none ((find?_key_eq_none_iff (·.name) outlines).mpr h)]
  exact if_neg hsource

/-- A record that one unit declares has what that unit made of it after the merge of another unit,
whichever of the two came first. -/
theorem merged_merged_of_mem (hunits : a ≠ b) (ha : r.name ∈ outlines.map (·.name))
    (hb : r.name ∉ more.map (·.name)) :
    (r.merged a outlines).merged b more = r.merged a outlines ∧
      (r.merged b more).merged a outlines = r.merged a outlines := by
  obtain ⟨outline, hfind⟩ := Option.ne_none_iff_exists'.mp
    (mt (find?_key_eq_none_iff (·.name) outlines).mp (not_not.mpr ha))
  have hfind' : outlines.find? (·.name = (r.merged b more).name) = some outline := by
    rwa [merged_name]
  constructor
  · apply merged_of_foreign
    · rwa [merged_name]
    · rw [merged_of_find? hfind]
      exact hunits
  · rw [merged_of_find? hfind, merged_of_find? hfind']
    exact declared_congr (unmarked_merged_of_notMem b hb) a outline.properties

/-- A record that one unit drops has what that unit made of it after the merge of another unit that
does not declare it either. -/
theorem merged_merged_of_own (hunits : a ≠ b) (hsource : r.source = a)
    (ha : r.name ∉ outlines.map (·.name)) (hb : r.name ∉ more.map (·.name)) :
    (r.merged a outlines).merged b more = r.merged a outlines ∧
      (r.merged b more).merged a outlines = r.merged a outlines := by
  constructor
  · apply merged_of_foreign
    · rwa [merged_name]
    · rw [merged_of_find?_none ((find?_key_eq_none_iff (·.name) outlines).mpr ha), if_pos hsource]
      exact hsource ▸ hunits
  · rw [merged_of_foreign hb (hsource ▸ hunits)]

/-- The merges of two units that declare different entities make the same of a record in either
order. -/
theorem merged_comm (r : EntityRecord) (hunits : a ≠ b)
    (hdisjoint : (outlines.map (·.name)).Disjoint (more.map (·.name))) :
    (r.merged a outlines).merged b more = (r.merged b more).merged a outlines := by
  -- at most one of the units has a say: the one that declares the record, or else the one it is of
  by_cases ha : r.name ∈ outlines.map (·.name)
  · obtain ⟨hfirst, hsecond⟩ := merged_merged_of_mem hunits ha (hdisjoint ha)
    exact hfirst.trans hsecond.symm
  by_cases hb : r.name ∈ more.map (·.name)
  · obtain ⟨hfirst, hsecond⟩ := merged_merged_of_mem hunits.symm hb ha
    exact hsecond.trans hfirst.symm
  by_cases hsource : r.source = a
  · obtain ⟨hfirst, hsecond⟩ := merged_merged_of_own hunits hsource ha hb
    exact hfirst.trans hsecond.symm
  by_cases hother : r.source = b
  · obtain ⟨hfirst, hsecond⟩ := merged_merged_of_own hunits.symm hother hb ha
    exact hsecond.trans hfirst.symm
  · rw [merged_of_foreign ha hsource, merged_of_foreign hb hother, merged_of_foreign ha hsource]

end EntityRecord

namespace Snapshot

section Marks

variable {s t : Snapshot} {name : String} {outline : Outline}

/-- The record of a name, whatever its marks. -/
def unmarked? (s : Snapshot) (name : String) : Option EntityRecord :=
  (s.entity? name).map (·.unmarked)

theorem unmarked?_of_entity? {r : EntityRecord} (h : s.entity? name = some r) :
    s.unmarked? name = some r.unmarked := by
  rw [unmarked?, h, Option.map_some]

theorem unmarked?_of_notMem (h : name ∉ s.entityNames) : s.unmarked? name = none := by
  rw [unmarked?, entity?_eq_none_iff.mpr h, Option.map_none]

/-- A record found in one of two snapshots that differ in the marks alone is found in the other. -/
theorem exists_entity?_of_unmarked? {r : EntityRecord}
    (h : t.unmarked? name = s.unmarked? name) (hr : t.entity? name = some r) :
    ∃ old, s.entity? name = some old ∧ old.unmarked = r.unmarked := by
  rw [unmarked?_of_entity? hr] at h
  exact Option.map_eq_some_iff.mp h.symm

/-- Marks do not bear on which of some outlines are new. -/
theorem newOutlines_congr {outlines : List Outline}
    (h : ∀ o ∈ outlines, t.unmarked? o.name = s.unmarked? o.name) :
    t.newOutlines outlines = s.newOutlines outlines := by
  have hmem : ∀ (s : Snapshot) (o : Outline),
      o.name ∈ s.entityNames ↔ s.unmarked? o.name ≠ none := by
    intro s o
    rw [unmarked?, ne_eq, Option.map_eq_none_iff, entity?_eq_none_iff, not_not]
  refine List.filter_congr fun o ho => ?_
  rw [Bool.not_inj_iff, Bool.eq_iff_iff, List.contains_iff_mem, List.contains_iff_mem, hmem, hmem,
    h o ho]

/-- Marks do not bear on the numbers that an entity is declared with. -/
theorem propertyNumbers_congr (h : t.unmarked? outline.name = s.unmarked? outline.name) :
    t.propertyNumbers outline = s.propertyNumbers outline := by
  have hmatch : ∀ s : Snapshot, s.propertyNumbers outline =
      (s.unmarked? outline.name).elim (List.range outline.properties.length)
        (·.declaredNumbers outline.properties) := by
    intro s
    unfold propertyNumbers unmarked?
    cases s.entity? outline.name <;> rfl
  rw [hmatch, hmatch, h]

/-- Marks do not bear on the UIDs that an entity asks for. -/
theorem demandedUids_congr (nameSpace : String)
    (h : t.unmarked? outline.name = s.unmarked? outline.name) :
    t.demandedUids nameSpace outline = s.demandedUids nameSpace outline := by
  have hmatch : ∀ s : Snapshot, s.demandedUids nameSpace outline =
      (s.unmarked? outline.name).elim
        ((Hash.entityHash nameSpace outline.name).toNat / uidScale ::
          (List.range outline.properties.length).map
            ((Hash.entityHash nameSpace outline.name).toNat / uidScale * uidScale + ·))
        fun r => (r.addedNumbers outline.properties).map (r.id.uid.toNat * uidScale + ·) := by
    intro s
    unfold demandedUids unmarked?
    cases s.entity? outline.name <;> rfl
  rw [hmatch, hmatch, h]

end Marks

/-! ## New records -/

section NewRecords

variable (s : Snapshot) (nameSpace : String) (source : Option String)

/-- A new record does not depend on the others. -/
theorem newRecords_hashed (outlines : List Outline) :
    s.newRecords nameSpace ⟨.hashed, source⟩ outlines = (s.newOutlines outlines).map fun o =>
      .fresh source o (s.issuedId nameSpace .hashed 0 o.name) :=
  List.ext_getElem (by simp [newRecords]) fun i h₁ h₂ => by simp [newRecords, issuedId]

/-- Declaring in another order moves the new records. -/
theorem newRecords_perm {outlines more : List Outline} (h : outlines.Perm more) :
    (s.newRecords nameSpace ⟨.hashed, source⟩ outlines).Perm
      (s.newRecords nameSpace ⟨.hashed, source⟩ more) := by
  rw [newRecords_hashed, newRecords_hashed]
  exact (h.filter _).map _

end NewRecords

/-! ## One name of a merge -/

section OneName

variable {s : Snapshot} {nameSpace : String} {options : DeriveOptions} {source : Option String}
  {outlines : List Outline} {outline : Outline}

/-- A merge records a declared entity as if it were declared alone. -/
theorem entity?_merge_of_mem (hdistinct : (outlines.map (·.name)).Nodup) (ho : outline ∈ outlines) :
    (s.merge nameSpace ⟨.hashed, source⟩ outlines).entity? outline.name =
      (s.extend nameSpace ⟨.hashed, source⟩ [outline]).entity? outline.name := by
  have hfind : outlines.find? (·.name = outline.name) = some outline :=
    (find?_key_eq_some_iff hdistinct).mpr ⟨ho, rfl⟩
  rw [entity?_merge]
  cases hfound : s.entity? outline.name with
  | some r =>
      have hname : r.name = outline.name := by simpa using List.find?_some hfound
      rw [entity?_extend_of_entity? hfound, Option.map_some, Option.some_or,
        EntityRecord.merged_of_find? (hname ▸ hfind)]
  | none =>
      have hnew := entity?_eq_none_iff.mp hfound
      have hmem : outline ∈ s.newOutlines outlines :=
        List.mem_filter.mpr ⟨ho, by simpa using hnew⟩
      have hnames : ((s.newRecords nameSpace ⟨.hashed, source⟩ outlines).map (·.name)).Nodup := by
        rw [map_name_newRecords]
        exact hdistinct.sublist (List.filter_sublist.map _)
      rw [entity?_extend_of_notMem hnew, Option.map_none, Option.none_or]
      apply (find?_key_eq_some_iff hnames).mpr
      rw [newRecords_hashed]
      exact ⟨List.mem_map_of_mem hmem, rfl⟩

/-- A merge leaves what is recorded under a name that it does not declare, up to the marks. -/
theorem unmarked?_merge_of_notMem {name : String} (h : name ∉ outlines.map (·.name)) :
    (s.merge nameSpace options outlines).unmarked? name = s.unmarked? name := by
  have hnone : (s.newRecords nameSpace options outlines).find? (·.name = name) = none := by
    rw [find?_key_eq_none_iff EntityRecord.name, map_name_newRecords]
    exact fun hmem => h ((List.filter_sublist.map _).subset hmem)
  rw [unmarked?, unmarked?, entity?_merge, hnone, Option.or_none]
  cases hfound : s.entity? name with
  | none => rfl
  | some r =>
      have hname : r.name = name := by simpa using List.find?_some hfound
      rw [Option.map_some, Option.map_some, Option.map_some,
        EntityRecord.unmarked_merged_of_notMem _ (hname ▸ h)]

end OneName

/-! ## The order of records -/

/-- Two snapshots that differ in the order of their records at most, and only behind the first `n`
of them. -/
structure EqUpToOrderFrom (n : Nat) (s t : Snapshot) : Prop where
  version : t.version = s.version
  lastEntityId : t.lastEntityId = s.lastEntityId
  take : t.entities.take n = s.entities.take n
  drop : (t.entities.drop n).Perm (s.entities.drop n)

/-- Snapshots with the same records, then records in some order. -/
theorem eqUpToOrderFrom_of_append {s t : Snapshot} {before xs ys : List EntityRecord}
    (hversion : t.version = s.version) (hlast : t.lastEntityId = s.lastEntityId)
    (ht : t.entities = before ++ ys) (hs : s.entities = before ++ xs) (hperm : ys.Perm xs) :
    s.EqUpToOrderFrom before.length t := by
  refine ⟨hversion, hlast, ?_, ?_⟩
  · rw [ht, hs, List.take_left, List.take_left]
  · rw [ht, hs, List.drop_left, List.drop_left]
    exact hperm

section Order

variable {s : Snapshot} {nameSpace nameSpace' : String} {source : Option String}
  {a b : Option String} {outlines more : List Outline}

/-- Declaring in another order moves the new records alone. -/
theorem merge_perm (hdistinct : (outlines.map (·.name)).Nodup) (hperm : more.Perm outlines)
    (hids : ((s.newRecords nameSpace ⟨.hashed, source⟩ outlines).map (·.id.id)).Nodup) :
    (s.merge nameSpace ⟨.hashed, source⟩ outlines).EqUpToOrderFrom s.entities.length
      (s.merge nameSpace ⟨.hashed, source⟩ more) := by
  have hrecords := s.newRecords_perm nameSpace source hperm
  have hmerged : ∀ r : EntityRecord, r.merged source more = r.merged source outlines := by
    intro r
    unfold EntityRecord.merged
    rw [find?_key_perm hdistinct hperm]
  rw [← List.length_map (·.merged source outlines)]
  refine eqUpToOrderFrom_of_append rfl ?_ ?_ rfl hrecords
  · refine (highestOf_append_perm _ (hrecords.symm.map _) ?_).symm
    rwa [List.map_map]
  · change s.entities.map (·.merged source more) ++ _ = _
    rw [List.map_congr_left fun r _ => hmerged r]

/-- The new records of a unit keep their form in the merge of another unit that does not declare
them. -/
theorem map_merged_newRecords (hunits : a ≠ b)
    (hdisjoint : (outlines.map (·.name)).Disjoint (more.map (·.name))) :
    (s.newRecords nameSpace ⟨.hashed, a⟩ outlines).map (·.merged b more) =
      s.newRecords nameSpace ⟨.hashed, a⟩ outlines := by
  rw [newRecords_hashed, List.map_map]
  refine List.map_congr_left fun o ho => ?_
  apply EntityRecord.merged_of_foreign
  · exact hdisjoint (List.mem_map_of_mem (List.filter_sublist.subset ho))
  · exact hunits

/-- A merge leaves what the names of other entities stand for. -/
theorem unmarked?_merge_of_disjoint (s : Snapshot) (nameSpace : String) (a : Option String)
    (hdisjoint : (outlines.map (·.name)).Disjoint (more.map (·.name))) :
    ∀ o ∈ more, (s.merge nameSpace ⟨.hashed, a⟩ outlines).unmarked? o.name =
      s.unmarked? o.name := by
  intro o ho
  exact unmarked?_merge_of_notMem fun h => hdisjoint h (List.mem_map_of_mem ho)

/-- The new records of a unit are the same after the merge of other entities. -/
theorem newRecords_merge (hdisjoint : (outlines.map (·.name)).Disjoint (more.map (·.name))) :
    (s.merge nameSpace ⟨.hashed, a⟩ outlines).newRecords nameSpace' ⟨.hashed, b⟩ more =
      s.newRecords nameSpace' ⟨.hashed, b⟩ more := by
  rw [newRecords_hashed, newRecords_hashed,
    newOutlines_congr (s.unmarked?_merge_of_disjoint nameSpace a hdisjoint)]
  rfl

/-- The records after the merges of two units that declare different entities: the recorded ones
after both, and then the new ones of each. -/
theorem entities_merge_merge (s : Snapshot) (nameSpace nameSpace' : String) (hunits : a ≠ b)
    (hdisjoint : (outlines.map (·.name)).Disjoint (more.map (·.name))) :
    ((s.merge nameSpace ⟨.hashed, a⟩ outlines).merge nameSpace' ⟨.hashed, b⟩ more).entities =
      s.entities.map (fun r => (r.merged a outlines).merged b more) ++
        (s.newRecords nameSpace ⟨.hashed, a⟩ outlines ++
          s.newRecords nameSpace' ⟨.hashed, b⟩ more) := by
  change (s.entities.map (·.merged a outlines) ++ s.newRecords nameSpace ⟨.hashed, a⟩ outlines).map
    (·.merged b more) ++ _ = _
  rw [newRecords_merge hdisjoint, List.map_append, List.map_map,
    map_merged_newRecords hunits hdisjoint, List.append_assoc]
  rfl

/-- The highest identifier after two merges is the highest of all. -/
theorem lastEntityId_merge_merge
    (hdisjoint : (outlines.map (·.name)).Disjoint (more.map (·.name))) :
    ((s.merge nameSpace ⟨.hashed, a⟩ outlines).merge nameSpace' ⟨.hashed, b⟩ more).lastEntityId =
      highestOf (s.lastEntityId.toList ++ (s.newRecords nameSpace ⟨.hashed, a⟩ outlines ++
        s.newRecords nameSpace' ⟨.hashed, b⟩ more).map (·.id)) := by
  change highestOf ((highestOf (s.lastEntityId.toList ++
    (s.newRecords nameSpace ⟨.hashed, a⟩ outlines).map (·.id))).toList ++ _) = _
  rw [newRecords_merge hdisjoint, highestOf_highestOf_append, List.map_append, List.append_assoc]

/-- Two units that declare different entities can be merged in either order. -/
theorem merge_comm (hunits : a ≠ b)
    (hdisjoint : (outlines.map (·.name)).Disjoint (more.map (·.name)))
    (hids : ((s.newRecords nameSpace ⟨.hashed, a⟩ outlines ++
      s.newRecords nameSpace' ⟨.hashed, b⟩ more).map (·.id.id)).Nodup) :
    ((s.merge nameSpace ⟨.hashed, a⟩ outlines).merge nameSpace' ⟨.hashed, b⟩
        more).EqUpToOrderFrom s.entities.length
      ((s.merge nameSpace' ⟨.hashed, b⟩ more).merge nameSpace ⟨.hashed, a⟩ outlines) := by
  have hboth := s.entities_merge_merge nameSpace nameSpace' hunits hdisjoint
  rw [← List.length_map (fun r => (r.merged a outlines).merged b more)]
  refine eqUpToOrderFrom_of_append ?_ ?_ ?_ hboth List.perm_append_comm
  · show s.version = s.version
    rfl
  · rw [lastEntityId_merge_merge hdisjoint, lastEntityId_merge_merge (List.disjoint_symm hdisjoint)]
    refine (highestOf_append_perm _ (List.perm_append_comm.map _) ?_).symm
    rwa [List.map_map]
  · rw [s.entities_merge_merge nameSpace' nameSpace hunits.symm (List.disjoint_symm hdisjoint),
      List.map_congr_left fun r _ => (r.merged_comm hunits hdisjoint).symm]

end Order

/-! ## What is free after a merge -/

section Free

variable {s : Snapshot} {nameSpace nameSpace' : String} {a b : Option String}
  {outlines more : List Outline}

/-- The numeric IDs of new entities, as integers. -/
theorem map_id_toNat_newRecords (s : Snapshot) (nameSpace : String) (source : Option String)
    (outlines : List Outline) :
    (s.newRecords nameSpace ⟨.hashed, source⟩ outlines).map (·.id.id.toNat) =
      (s.newOutlines outlines).map fun o => (Hash.entityHash nameSpace o.name).toNat >>> 40 := by
  have hmap := congrArg (List.map (·.toNat))
    (s.map_id_newRecords_hashed nameSpace source outlines)
  rw [List.map_map, List.map_map] at hmap
  simpa only [Function.comp_def, hashedEntityId_toNat] using hmap

/-- After the merge of other entities the same identifiers are asked for, and those that the merge
issued are taken as well. -/
theorem collisionFree_merge_iff (hnames : s.entityNames.Nodup)
    (hdistinct : (outlines.map (·.name)).Nodup) (hfits : s.Fits nameSpace ⟨.hashed, a⟩ outlines)
    (hdisjoint : (outlines.map (·.name)).Disjoint (more.map (·.name))) :
    (s.merge nameSpace ⟨.hashed, a⟩ outlines).CollisionFree nameSpace' more ↔
      NewTo (s.entities.map (·.id.id.toNat) ++ (s.newOutlines outlines).map
          fun o => (Hash.entityHash nameSpace o.name).toNat >>> 40)
        ((s.newOutlines more).map fun o => (Hash.entityHash nameSpace' o.name).toNat >>> 40) ∧
      NewTo (s.uids.map (·.toNat) ++ outlines.flatMap (s.demandedUids nameSpace))
        (more.flatMap (s.demandedUids nameSpace')) ∧
      ∀ uid ∈ more.flatMap (s.demandedUids nameSpace'), uid < UInt64.size := by
  have hids : (s.merge nameSpace ⟨.hashed, a⟩ outlines).entities.map (·.id.id.toNat) =
      s.entities.map (·.id.id.toNat) ++ (s.newOutlines outlines).map
        fun o => (Hash.entityHash nameSpace o.name).toNat >>> 40 := by
    rw [← map_id_toNat_newRecords s nameSpace a]
    have hmap := congrArg (List.map fun id : IdUid => id.id.toNat)
      (s.map_id_merge nameSpace ⟨.hashed, a⟩ outlines)
    rw [List.map_append, List.map_map, List.map_map, List.map_map] at hmap
    exact hmap
  have hsame := s.unmarked?_merge_of_disjoint nameSpace a hdisjoint
  have hnew := newOutlines_congr hsame
  have hdemand : more.flatMap ((s.merge nameSpace ⟨.hashed, a⟩ outlines).demandedUids nameSpace') =
      more.flatMap (s.demandedUids nameSpace') :=
    List.flatMap_congr fun o ho => demandedUids_congr nameSpace' (hsame o ho)
  have huids : ∀ uid, uid ∈ (s.merge nameSpace ⟨.hashed, a⟩ outlines).uids.map (·.toNat) ↔
      uid ∈ s.uids.map (·.toNat) ++ outlines.flatMap (s.demandedUids nameSpace) := by
    intro uid
    rw [mem_uids_merge_iff hnames hdistinct hfits, List.mem_append]
  rw [← hids, ← hnew, ← hdemand]
  constructor
  · rintro ⟨hid, huid, hrange⟩
    exact ⟨hid, (NewTo.congr huids).mp huid, hrange⟩
  · rintro ⟨hid, huid, hrange⟩
    exact ⟨hid, (NewTo.congr huids).mpr huid, hrange⟩

variable (hnames : s.entityNames.Nodup) (hdistinct : (outlines.map (·.name)).Nodup)
  (hfits : s.Fits nameSpace ⟨.hashed, a⟩ outlines)
  (hdisjoint : (outlines.map (·.name)).Disjoint (more.map (·.name)))
  (h : s.CollisionFree nameSpace outlines)
  (hnext : (s.merge nameSpace ⟨.hashed, a⟩ outlines).CollisionFree nameSpace' more)

include hnames hdistinct hfits hdisjoint hnext

/-- What is free after the merge of other entities was free before. -/
theorem CollisionFree.before_merge : s.CollisionFree nameSpace' more := by
  obtain ⟨hids, huids, hrange⟩ :=
    (collisionFree_merge_iff hnames hdistinct hfits hdisjoint).mp hnext
  refine ⟨hids.mono ?_, huids.mono ?_, hrange⟩
  · exact List.subset_append_left _ _
  · exact List.subset_append_left _ _

include h

/-- What two merges of different entities ask for one after the other is free in the other order as
well. -/
theorem CollisionFree.swap (hdistinct' : (more.map (·.name)).Nodup)
    (hfits' : s.Fits nameSpace' ⟨.hashed, b⟩ more) :
    (s.merge nameSpace' ⟨.hashed, b⟩ more).CollisionFree nameSpace outlines := by
  obtain ⟨hids, huids, -⟩ :=
    (collisionFree_merge_iff hnames hdistinct hfits hdisjoint).mp hnext
  apply (collisionFree_merge_iff hnames hdistinct' hfits' (List.disjoint_symm hdisjoint)).mpr
  refine ⟨?_, ?_, h.range⟩
  · exact (newTo_comm.mp ⟨h.ids, hids⟩).2
  · exact (newTo_comm.mp ⟨h.uids, huids⟩).2

/-- The new records of two merges of different entities have different numeric IDs. -/
theorem CollisionFree.nodup_id_newRecords (b : Option String) :
    ((s.newRecords nameSpace ⟨.hashed, a⟩ outlines ++
      s.newRecords nameSpace' ⟨.hashed, b⟩ more).map (·.id.id)).Nodup := by
  obtain ⟨hids, -, -⟩ :=
    (collisionFree_merge_iff hnames hdistinct hfits hdisjoint).mp hnext
  have hall := (newTo_behind_iff.mpr ⟨h.ids, hids⟩).1
  rw [← s.map_id_toNat_newRecords nameSpace a, ← s.map_id_toNat_newRecords nameSpace' b,
    ← List.map_append] at hall
  exact List.Nodup.of_map (f := UInt32.toNat) (by rwa [List.map_map])

end Free

end Snapshot

end RecordSchema
