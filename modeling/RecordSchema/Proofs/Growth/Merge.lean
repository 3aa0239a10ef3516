/-
Merges of declarations that grow.

Merging outlines and then outlines that have grown from them is merging the latter alone. The demand
splits in the same way: what the longer outlines ask for is what the shorter ones ask for, and then
what the longer ones ask for once that has been recorded. So they can be met one after the other
exactly if they can be met at once.
-/
import RecordSchema.Proofs.Growth.Record
import RecordSchema.Proofs.Pairing

set_option autoImplicit false

namespace RecordSchema

/-! ## A snapshot -/

namespace Snapshot

variable {s : Snapshot} {nameSpace : String} {options : DeriveOptions}
  {outlines more : List Outline} {before after : Outline}

/-- An outline that grows asks for the UIDs that it asked for and further ones. -/
theorem demandedUids_prefix (s : Snapshot) (nameSpace : String) (h : before.Grows after) :
    s.demandedUids nameSpace before <+: s.demandedUids nameSpace after := by
  obtain ⟨rest, hrest⟩ := h.properties
  unfold demandedUids
  rw [h.name]
  cases s.entity? before.name with
  | some r => exact (r.addedNumbers_prefix h.properties).map _
  | none =>
      refine List.prefix_cons_inj _ |>.mpr (List.IsPrefix.map _ ?_)
      rw [← hrest, List.length_append, List.range_eq_range', List.range_eq_range',
        ← List.range'_append_1]
      exact List.prefix_append _ _

/-- An outline that grows has the numbers that it had and further ones. -/
theorem propertyNumbers_subset (s : Snapshot) (h : before.Grows after) :
    s.propertyNumbers before ⊆ s.propertyNumbers after := by
  unfold propertyNumbers
  rw [h.name]
  cases s.entity? before.name with
  | some r => exact r.declaredNumbers_subset h.properties
  | none => exact List.range_subset.mpr h.properties.length_le

/-- The names of outlines that grow are the same. -/
theorem map_name_of_grows (h : List.Forall₂ Outline.Grows outlines more) :
    more.map (·.name) = outlines.map (·.name) :=
  (map_eq_of_forall₂ h fun _ _ hgrows => hgrows.name.symm).symm

/-- Outlines that grow are new to a snapshot together. -/
theorem newOutlines_grows (s : Snapshot) (h : List.Forall₂ Outline.Grows outlines more) :
    List.Forall₂ Outline.Grows (s.newOutlines outlines) (s.newOutlines more) := by
  induction h with
  | nil => exact .nil
  | @cons before after outlines more hone _ ih =>
      by_cases hmem : before.name ∈ s.entityNames
      · rw [newOutlines_cons_of_mem hmem, newOutlines_cons_of_mem (hone.name ▸ hmem)]
        exact ih
      · rw [newOutlines_cons_of_notMem hmem, newOutlines_cons_of_notMem (hone.name ▸ hmem)]
        exact .cons hone ih

/-- New entities get identifiers by their names and places alone. -/
theorem map_id_newRecords (s : Snapshot) (nameSpace : String) (options : DeriveOptions)
    (outlines : List Outline) :
    (s.newRecords nameSpace options outlines).map (·.id) =
      ((s.newOutlines outlines).map (·.name)).mapIdx
        fun k name => s.issuedId nameSpace options.strategy k name :=
  List.ext_getElem (by simp [newRecords]) fun i h₁ h₂ => by simp [newRecords]

theorem map_id_newRecords_grows (s : Snapshot) (nameSpace : String) (options : DeriveOptions)
    (h : List.Forall₂ Outline.Grows outlines more) :
    (s.newRecords nameSpace options more).map (·.id) =
      (s.newRecords nameSpace options outlines).map (·.id) := by
  rw [map_id_newRecords, map_id_newRecords, map_name_of_grows (s.newOutlines_grows h)]

theorem map_numericId_newRecords_grows (s : Snapshot) (nameSpace : String)
    (options : DeriveOptions) (h : List.Forall₂ Outline.Grows outlines more) :
    (s.newRecords nameSpace options more).map (·.id.id) =
      (s.newRecords nameSpace options outlines).map (·.id.id) := by
  have hmap := congrArg (List.map IdUid.id) (s.map_id_newRecords_grows nameSpace options h)
  rwa [List.map_map, List.map_map] at hmap

/-- A merge records all names that it declares. -/
theorem entityNames_merge (s : Snapshot) (nameSpace : String) (options : DeriveOptions)
    (outlines : List Outline) :
    (s.merge nameSpace options outlines).entityNames =
      s.entityNames ++ (s.newOutlines outlines).map (·.name) := by
  rw [← map_name_newRecords nameSpace options]
  simp [entityNames, merge, Function.comp_def]

theorem mem_entityNames_merge (s : Snapshot) (nameSpace : String) (options : DeriveOptions)
    {outline : Outline} (ho : outline ∈ outlines) :
    outline.name ∈ (s.merge nameSpace options outlines).entityNames := by
  rw [entityNames_merge, List.mem_append]
  by_cases hold : outline.name ∈ s.entityNames
  · exact Or.inl hold
  · exact Or.inr (List.mem_map_of_mem (List.mem_filter.mpr ⟨ho, by simpa using hold⟩))

/-- What a merge has declared is not new when it has grown. -/
theorem newOutlines_merge_grows (s : Snapshot) (nameSpace : String) (options : DeriveOptions)
    (hgrows : List.Forall₂ Outline.Grows outlines more) :
    (s.merge nameSpace options outlines).newOutlines more = [] := by
  rw [newOutlines, List.filter_eq_nil_iff]
  intro after hafter
  obtain ⟨before, hbefore, hgrow⟩ := exists_mem_of_forall₂ hgrows.flip hafter
  have hmem := s.mem_entityNames_merge nameSpace options hbefore
  rw [← hgrow.name] at hmem
  simpa using hmem

section Merge

variable (hdistinct : (outlines.map (·.name)).Nodup) (hfits : s.Fits nameSpace options outlines)

include hdistinct

/-- A merge leaves a declared record in its declared form. -/
theorem entity?_merge_of_entity? (nameSpace : String) {r : EntityRecord} (ho : before ∈ outlines)
    (hr : s.entity? before.name = some r) :
    (s.merge nameSpace options outlines).entity? before.name =
      some (r.declared options.source before.properties) := by
  have hname : before.name = r.name := by simpa [eq_comm] using List.find?_some hr
  have hfind : outlines.find? (·.name = r.name) = some before :=
    (find?_key_eq_some_iff hdistinct).mpr ⟨ho, hname⟩
  rw [entity?_merge, hr, Option.map_some, Option.some_or, EntityRecord.merged_of_find? hfind]

/-- A merge records a new entity in its fresh form. -/
theorem entity?_merge_of_notMem (nameSpace : String) (options : DeriveOptions)
    (ho : before ∈ outlines) (hnew : before.name ∉ s.entityNames) :
    ∃ k, (s.merge nameSpace options outlines).entity? before.name =
      some (.fresh options.source before
        (s.issuedId nameSpace options.strategy k before.name)) := by
  have hnames : ((s.newRecords nameSpace options outlines).map (·.name)).Nodup := by
    rw [map_name_newRecords]
    exact hdistinct.sublist (List.filter_sublist.map _)
  have hmem : before ∈ s.newOutlines outlines := List.mem_filter.mpr ⟨ho, by simpa using hnew⟩
  obtain ⟨k, hk, hget⟩ := List.getElem_of_mem hmem
  refine ⟨k, ?_⟩
  rw [entity?_merge, entity?_eq_none_iff.mpr hnew, Option.map_none, Option.none_or]
  refine (find?_key_eq_some_iff hnames).mpr ⟨List.mem_mapIdx.mpr ⟨k, hk, ?_⟩, rfl⟩
  rw [hget]

variable (hgrow : before.Grows after) (hnodup : after.properties.Nodup) (ho : before ∈ outlines)

include hfits hgrow hnodup ho

/-- What a merge has recorded of a declared entity is some record in its declared form, and what the
entity asks for, then and when it has grown, is what that record is to gain. -/
theorem exists_ground :
    ∃ (r : EntityRecord) (own : List Nat),
      (s.merge nameSpace options outlines).entity? before.name =
        some (r.declared options.source before.properties) ∧
      Numberable r.id.uid r.nextNumber (r.newNames before.properties).length ∧
      ∀ o : Outline, o.name = before.name → o.properties.Nodup →
        s.propertyNumbers o = r.declaredNumbers o.properties ∧
          s.demandedUids nameSpace o =
            own ++ (r.addedNumbers o.properties).map (r.id.uid.toNat * uidScale + ·) := by
  have hbefore := hnodup.sublist hgrow.properties.sublist
  by_cases hmem : before.name ∈ s.entityNames
  · obtain ⟨r, hr⟩ := Option.ne_none_iff_exists'.mp
      (mt entity?_eq_none_iff.mp (not_not.mpr hmem))
    have hname : before.name = r.name := by simpa [eq_comm] using List.find?_some hr
    refine ⟨r, [], entity?_merge_of_entity? hdistinct nameSpace ho hr, ?_, ?_⟩
    · exact hfits.renewed r (List.mem_of_find?_eq_some hr) before ho hname
    · intro o hsame _
      rw [← hsame] at hr
      exact ⟨propertyNumbers_of_entity? hr, demandedUids_of_entity? nameSpace hr⟩
  · obtain ⟨k, hk⟩ := entity?_merge_of_notMem hdistinct nameSpace options ho hmem
    have huid := s.uid_issuedId nameSpace options.strategy k before.name
    have hfresh := hfits.fresh before (List.mem_filter.mpr ⟨ho, by simpa using hmem⟩)
    refine ⟨.blank before.name (s.issuedId nameSpace options.strategy k before.name),
      [(Hash.entityHash nameSpace before.name).toNat / uidScale], ?_, ?_, ?_⟩
    · rw [hk, EntityRecord.declared_blank options.source _ hbefore]
    · exact EntityRecord.numberable_blank hbefore (huid ▸ hfresh)
    · intro o hsame hdistinctNames
      rw [← hsame] at hmem huid ⊢
      refine ⟨?_, ?_⟩
      · rw [propertyNumbers_of_notMem hmem, EntityRecord.declaredNumbers_blank _ _ hdistinctNames]
      · rw [demandedUids_of_notMem nameSpace hmem,
          EntityRecord.addedNumbers_blank _ _ hdistinctNames]
        change _ = [_] ++ (List.range o.properties.length).map
          ((s.issuedId nameSpace options.strategy k o.name).uid.toNat * uidScale + ·)
        rw [huid, entityUid_toNat, List.singleton_append]

/-- An entity that has grown asks for what it asked for, and then for what it asks for once that is
recorded. -/
theorem demandedUids_grows :
    s.demandedUids nameSpace after = s.demandedUids nameSpace before ++
      (s.merge nameSpace options outlines).demandedUids nameSpace after := by
  obtain ⟨r, own, hfound, hnum, hdemand⟩ := exists_ground hdistinct hfits hgrow hnodup ho
  have hbefore := hnodup.sublist hgrow.properties.sublist
  rw [← hgrow.name] at hfound
  rw [(hdemand after hgrow.name hnodup).2, (hdemand before rfl hbefore).2,
    demandedUids_of_entity? nameSpace hfound, EntityRecord.declared_id,
    EntityRecord.addedNumbers_of_prefix options.source hgrow.properties hnum, List.map_append,
    List.append_assoc]

/-- An entity that has grown has the same numbers whether or not it was declared before. -/
theorem propertyNumbers_grows :
    (s.merge nameSpace options outlines).propertyNumbers after = s.propertyNumbers after := by
  obtain ⟨r, own, hfound, hnum, hdemand⟩ := exists_ground hdistinct hfits hgrow hnodup ho
  rw [← hgrow.name] at hfound
  rw [(hdemand after hgrow.name hnodup).1, propertyNumbers_of_entity? hfound,
    EntityRecord.declaredNumbers_declared options.source hgrow.properties hnum]

end Merge

/-! ## Two merges -/

section Twice

variable (hdistinct : (outlines.map (·.name)).Nodup) (hfits : s.Fits nameSpace options outlines)
  (hgrows : List.Forall₂ Outline.Grows outlines more)
  (hnodup : ∀ o ∈ more, o.properties.Nodup)

include hfits hgrows

/-- A record that is merged and then merged with what the outlines have grown to comes to what it
does without the first merge. -/
theorem merged_merged_grows {r : EntityRecord} (hr : r ∈ s.entities) :
    (r.merged options.source outlines).merged options.source more =
      r.merged options.source more := by
  cases hfind : outlines.find? (·.name = r.name) with
  | some before =>
      have hname : before.name = r.name := by simpa using List.find?_some hfind
      have hbefore := List.mem_of_find?_eq_some hfind
      obtain ⟨after, hafter, hgrow⟩ := find?_of_forall₂
        (q := fun o : Outline => o.name = r.name) hgrows
        (fun before after hgrow => by rw [hgrow.name]) hfind
      rw [EntityRecord.merged_of_find? hfind, EntityRecord.merged_of_find? hafter,
        EntityRecord.merged_of_find? (r := r.declared _ _) hafter]
      exact EntityRecord.declared_declared options.source hgrow.properties
        (hfits.renewed r hr before hbefore hname)
  | none =>
      have hafter : more.find? (·.name = r.name) = none := by
        rw [find?_key_eq_none_iff Outline.name, map_name_of_grows hgrows]
        exact (find?_key_eq_none_iff Outline.name outlines).mp hfind
      rw [EntityRecord.merged_of_find?_none hfind, EntityRecord.merged_of_find?_none hafter]
      by_cases hsource : r.source = options.source
      · rw [if_pos hsource, EntityRecord.merged_of_find?_none (r := { r with retired := true })
          hafter]
        exact if_pos hsource
      · rw [if_neg hsource, EntityRecord.merged_of_find?_none hafter]
        exact if_neg hsource

include hdistinct hnodup

/-- The new records, once they have grown, are those that would have been made at once. -/
theorem map_merged_newRecords_grows :
    (s.newRecords nameSpace options outlines).map (·.merged options.source more) =
      s.newRecords nameSpace options more := by
  have hpairs := s.newOutlines_grows hgrows
  refine List.ext_getElem ?_ fun k h₁ h₂ => ?_
  · rw [List.length_map, newRecords, newRecords, List.length_mapIdx, List.length_mapIdx,
      hpairs.length_eq]
  · simp only [newRecords, List.length_map, List.length_mapIdx] at h₁ h₂
    have hgrow : (s.newOutlines outlines)[k].Grows (s.newOutlines more)[k] := hpairs.get h₁ h₂
    have hmem : (s.newOutlines more)[k] ∈ more :=
      List.filter_sublist.subset (List.getElem_mem h₂)
    have hafter := hnodup _ hmem
    have hbefore := hafter.sublist hgrow.properties.sublist
    have hfind : more.find? (·.name = (s.newOutlines outlines)[k].name) =
        some (s.newOutlines more)[k] := by
      refine (find?_key_eq_some_iff ?_).mpr ⟨hmem, hgrow.name⟩
      rwa [map_name_of_grows hgrows]
    have hnum := hfits.fresh _ (List.getElem_mem h₁)
    rw [← s.uid_issuedId nameSpace options.strategy k] at hnum
    simp only [newRecords, List.getElem_map, List.getElem_mapIdx]
    rw [EntityRecord.merged_of_find? (r := .fresh _ _ _) hfind,
      ← EntityRecord.declared_blank options.source _ hbefore,
      EntityRecord.declared_declared options.source hgrow.properties
        (EntityRecord.numberable_blank hbefore hnum), ← hgrow.name,
      EntityRecord.declared_blank options.source _ hafter]

/-- Merging outlines and then what they have grown to comes to merging the latter at once. -/
theorem merge_merge_grows :
    (s.merge nameSpace options outlines).merge nameSpace options more =
      s.merge nameSpace options more := by
  have hnone : (s.merge nameSpace options outlines).newRecords nameSpace options more = [] := by
    rw [newRecords, s.newOutlines_merge_grows nameSpace options hgrows]
    rfl
  ext1
  · rfl
  · change highestOf ((s.merge nameSpace options outlines).lastEntityId.toList ++
      ((s.merge nameSpace options outlines).newRecords nameSpace options more).map (·.id)) =
        highestOf (s.lastEntityId.toList ++ (s.newRecords nameSpace options more).map (·.id))
    rw [hnone, List.map_nil, List.append_nil, highestOf_toList,
      s.map_id_newRecords_grows nameSpace options hgrows]
    rfl
  · change (s.entities.map (·.merged options.source outlines) ++
      s.newRecords nameSpace options outlines).map (·.merged options.source more) ++
        (s.merge nameSpace options outlines).newRecords nameSpace options more =
      s.entities.map (·.merged options.source more) ++ s.newRecords nameSpace options more
    rw [hnone, List.append_nil, List.map_append, List.map_map,
      map_merged_newRecords_grows hdistinct hfits hgrows hnodup]
    exact congrArg (· ++ _) (List.map_congr_left fun r hr => merged_merged_grows hfits hgrows hr)

/-- What outlines that have grown ask for is what they asked for, and then what they ask for once
that is recorded. -/
theorem flatMap_demandedUids_grows :
    (more.flatMap (s.demandedUids nameSpace)).Perm
      (outlines.flatMap (s.demandedUids nameSpace) ++
        more.flatMap ((s.merge nameSpace options outlines).demandedUids nameSpace)) := by
  refine flatMap_perm_of_forall₂ (forall₂_and_mem hgrows) ?_
  rintro before after ⟨hbefore, hafter, hgrow⟩
  exact demandedUids_grows hdistinct hfits hgrow (hnodup after hafter) hbefore

/-- The demand of outlines that have grown is met exactly if what they asked for was there, and what
they ask for is once that is recorded. -/
theorem admits_grows_iff (hnames : s.entityNames.Nodup) :
    s.Admits nameSpace options more ↔ s.Admits nameSpace options outlines ∧
      (s.merge nameSpace options outlines).Admits nameSpace options more := by
  have hperm := flatMap_demandedUids_grows hdistinct hfits hgrows hnodup
  have hnone := s.newOutlines_merge_grows nameSpace options hgrows
  have hnoRecords : (s.merge nameSpace options outlines).newRecords nameSpace options more = [] := by
    rw [newRecords, hnone]
    rfl
  have hids := s.map_numericId_newRecords_grows nameSpace options hgrows
  -- what the first merge has issued is taken in the second one
  have huids : NewTo (s.uids.map (·.toNat)) (more.flatMap (s.demandedUids nameSpace)) ↔
      NewTo (s.uids.map (·.toNat)) (outlines.flatMap (s.demandedUids nameSpace)) ∧
        NewTo ((s.merge nameSpace options outlines).uids.map (·.toNat))
          (more.flatMap ((s.merge nameSpace options outlines).demandedUids nameSpace)) := by
    have hrecorded : ∀ uid, uid ∈ (s.merge nameSpace options outlines).uids.map (·.toNat) ↔
        uid ∈ s.uids.map (·.toNat) ++ outlines.flatMap (s.demandedUids nameSpace) := by
      intro uid
      rw [mem_uids_merge_iff hnames hdistinct hfits, List.mem_append]
    rw [NewTo.congr hrecorded, ← newTo_behind_iff]
    exact ⟨fun h => h.subperm hperm.symm.subperm, fun h => h.subperm hperm.subperm⟩
  have hrange : (∀ uid ∈ more.flatMap (s.demandedUids nameSpace), uid < UInt64.size) ↔
      (∀ uid ∈ outlines.flatMap (s.demandedUids nameSpace), uid < UInt64.size) ∧
        ∀ uid ∈ more.flatMap ((s.merge nameSpace options outlines).demandedUids nameSpace),
          uid < UInt64.size := by
    rw [← List.forall_mem_append]
    exact forall_congr' fun uid => by rw [hperm.mem_iff]
  constructor
  · rintro ⟨hbounded, hid, huid, hword⟩
    refine ⟨⟨hids ▸ hbounded, hids ▸ hid, (huids.mp huid).1, (hrange.mp hword).1⟩, ?_, ?_,
      (huids.mp huid).2, (hrange.mp hword).2⟩
    · rw [hnoRecords]
      exact List.forall_mem_nil _
    · rw [hnoRecords]
      exact newTo_nil _
  · rintro ⟨⟨hbounded, hid, huid, hword⟩, ⟨-, -, huid', hword'⟩⟩
    exact ⟨hids ▸ hbounded, hids ▸ hid, huids.mpr ⟨huid, huid'⟩, hrange.mpr ⟨hword, hword'⟩⟩

/-- Numbers that have slots have them whether or not the outlines were declared before. -/
theorem slotted_grows_iff :
    s.Slotted more ↔ (s.merge nameSpace options outlines).Slotted more := by
  refine forall₂_congr fun after hafter => ?_
  obtain ⟨before, hbefore, hgrow⟩ := exists_mem_of_forall₂ hgrows.flip hafter
  rw [propertyNumbers_grows hdistinct hfits hgrow (hnodup after hafter) hbefore]

end Twice

section Shorter

variable (hgrows : List.Forall₂ Outline.Grows outlines more)

include hgrows

/-- Where numbers have slots, those of the outlines before they grew have. -/
theorem Slotted.of_grows (h : s.Slotted more) : s.Slotted outlines := by
  intro before hbefore n hn
  obtain ⟨after, hafter, hgrow⟩ := exists_mem_of_forall₂ hgrows hbefore
  exact h after hafter n (s.propertyNumbers_subset hgrow hn)

/-- Where a demand is met, that of the outlines before they grew is. -/
theorem Admits.of_grows (h : s.Admits nameSpace options more) :
    s.Admits nameSpace options outlines := by
  obtain ⟨hbounded, hid, huid, hrange⟩ := h
  have hsublist := flatMap_sublist_of_forall₂ hgrows fun before after hgrow =>
    (s.demandedUids_prefix nameSpace hgrow).sublist
  rw [s.map_numericId_newRecords_grows nameSpace options hgrows] at hbounded hid
  refine ⟨hbounded, hid, huid.subperm hsublist.subperm, ?_⟩
  intro uid hmem
  exact hrange uid (hsublist.subset hmem)

end Shorter

end Snapshot

end RecordSchema
