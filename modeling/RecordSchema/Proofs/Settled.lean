/-
Records that are as declared.

A run leaves every record of a declared entity as its declaration says: live, of the run's unit, with
all declared properties and only those live. It leaves no other record of that unit live, so what a
snapshot says of a unit after a run can be read off its declarations.
-/
import RecordSchema.Proofs.Derive

set_option autoImplicit false

namespace RecordSchema

/-! ## Records -/

namespace EntityRecord

/-- A record is as a declaration of its unit says. -/
structure Settled (r : EntityRecord) (source : Option String) (names : List String) : Prop where
  source : r.source = source
  live : r.retired = false
  recorded : ∀ name ∈ names, name ∈ r.propertyNames
  retired : ∀ p ∈ r.properties, p.retired = !names.contains p.name

variable {r : EntityRecord} {source : Option String} {names : List String}

/-- Declaring a record settles it. -/
theorem settled_declared (r : EntityRecord) (source : Option String) (names : List String) :
    (r.declared source names).Settled source names where
  source := rfl
  live := rfl
  recorded := by
    intro name hname
    rw [propertyNames_declared, List.mem_append]
    by_cases hold : name ∈ r.propertyNames
    · exact Or.inl hold
    · exact Or.inr (mem_newNames_iff.mpr ⟨hname, hold⟩)
  retired := by
    intro p hp
    rcases List.mem_append.mp hp with hold | hnew
    · obtain ⟨q, -, rfl⟩ := List.mem_map.mp hold
      rfl
    · -- what was added is live, and it was added because it is declared
      have hname : p.name ∈ r.newNames names := r.map_name_added names ▸ List.mem_map_of_mem hnew
      have hlive := PropertyRecord.retired_of_mem_numbered hnew
      simp [hlive, (mem_newNames_iff.mp hname).1]

/-- The record of a new entity is settled from the start. -/
theorem settled_fresh (source : Option String) (outline : Outline) (id : IdUid) :
    (fresh source outline id).Settled source outline.properties where
  source := rfl
  live := rfl
  recorded := by
    intro name hname
    rwa [propertyNames_fresh]
  retired := by
    intro p hp
    have hname : p.name ∈ outline.properties := by
      rw [← propertyNames_fresh source outline id]
      exact List.mem_map_of_mem hp
    have hlive : p.retired = false := PropertyRecord.retired_of_mem_numbered hp
    simp [hlive, hname]

end EntityRecord

/-! ## Snapshots -/

namespace Snapshot

/-- Every declared entity has a record that is as declared. -/
def Settled (s : Snapshot) (source : Option String) (outlines : List Outline) : Prop :=
  ∀ outline ∈ outlines, ∃ r ∈ s.entities, r.name = outline.name ∧
    r.Settled source outline.properties

section Merge

variable {s : Snapshot} {nameSpace : String} {options : DeriveOptions} {outlines : List Outline}

/-- The records of new entities are settled from the start. -/
theorem settled_of_mem_newRecords {r : EntityRecord}
    (hr : r ∈ s.newRecords nameSpace options outlines) :
    ∃ outline ∈ outlines, r.name = outline.name ∧ r.Settled options.source outline.properties := by
  rw [newRecords, List.mem_mapIdx] at hr
  obtain ⟨k, hk, rfl⟩ := hr
  have hmem : (s.newOutlines outlines)[k] ∈ outlines :=
    List.filter_sublist.subset (List.getElem_mem hk)
  exact ⟨_, hmem, rfl, EntityRecord.settled_fresh _ _ _⟩

/-- A merge settles the records of what is declared. -/
theorem settled_merge (hdistinct : (outlines.map (·.name)).Nodup) :
    (s.merge nameSpace options outlines).Settled options.source outlines := by
  intro outline ho
  have hfind : outlines.find? (·.name = outline.name) = some outline :=
    (find?_key_eq_some_iff hdistinct).mpr ⟨ho, rfl⟩
  by_cases hmem : outline.name ∈ s.entityNames
  · obtain ⟨r, hr, hname⟩ := List.mem_map.mp hmem
    refine ⟨r.merged options.source outlines, List.mem_append_left _ (List.mem_map_of_mem hr), ?_⟩
    rw [EntityRecord.merged_name]
    refine ⟨hname, ?_⟩
    rw [EntityRecord.merged_of_find? (hname ▸ hfind)]
    exact r.settled_declared options.source outline.properties
  · -- it has a record among the new ones, and that is its own
    have hnew : outline.name ∈ (s.newRecords nameSpace options outlines).map (·.name) := by
      rw [map_name_newRecords]
      refine List.mem_map_of_mem (List.mem_filter.mpr ⟨ho, ?_⟩)
      simpa using hmem
    obtain ⟨r, hr, hname⟩ := List.mem_map.mp hnew
    obtain ⟨other, hother, hotherName, hsettled⟩ := settled_of_mem_newRecords hr
    obtain rfl : other = outline :=
      List.inj_on_of_nodup_map hdistinct hother ho (hotherName.symm.trans hname)
    exact ⟨r, List.mem_append_right _ hr, hname, hsettled⟩

/-- A merge leaves no record of the unit live that is not declared. -/
theorem declared_of_live {r : EntityRecord}
    (hr : r ∈ (s.merge nameSpace options outlines).entities) (hlive : r.retired = false)
    (hsource : r.source = options.source) : r.name ∈ outlines.map (·.name) := by
  rcases List.mem_append.mp hr with hold | hnew
  · obtain ⟨before, -, rfl⟩ := List.mem_map.mp hold
    rw [EntityRecord.merged_name]
    cases hfind : outlines.find? (·.name = before.name) with
    | some outline =>
        have hname : outline.name = before.name := by simpa using List.find?_some hfind
        exact hname ▸ List.mem_map_of_mem (List.mem_of_find?_eq_some hfind)
    | none =>
        -- what is not declared is retired, or belongs to another unit
        rw [EntityRecord.merged_of_find?_none hfind] at hlive hsource
        by_cases hunit : before.source = options.source
        · rw [if_pos hunit] at hlive
          cases hlive
        · rw [if_neg hunit] at hsource
          exact absurd hsource hunit
  · obtain ⟨outline, ho, hname, -⟩ := settled_of_mem_newRecords hnew
    exact hname ▸ List.mem_map_of_mem ho

end Merge

end Snapshot

/-! ## Runs -/

namespace Derives

variable {nameSpace : String} {declarations : List Declaration} {previous merged : Snapshot}
  {options : DeriveOptions} {model : Model}
  (h : Derives nameSpace declarations previous options model merged)
include h

/-- A run settles the records of what it declared. -/
theorem settled : merged.Settled options.source (declarations.map (·.outline)) := by
  have hdistinct := h.distinct
  rw [h.eq_merge]
  exact Snapshot.settled_merge (by rwa [List.map_map])

/-- A record is live and of the run's unit exactly if its entity is declared. -/
theorem live_iff_declared {r : EntityRecord} (hr : r ∈ merged.entities) :
    r.retired = false ∧ r.source = options.source ↔ r.name ∈ declarations.map (·.name) := by
  have hnames : (declarations.map (·.outline)).map (·.name) = declarations.map (·.name) := by
    rw [List.map_map]
    rfl
  rw [← hnames]
  constructor
  · rintro ⟨hlive, hsource⟩
    have hmem := hr
    rw [h.eq_merge] at hmem
    exact Snapshot.declared_of_live hmem hlive hsource
  · intro hdeclared
    obtain ⟨outline, ho, hname⟩ := List.mem_map.mp hdeclared
    obtain ⟨r', hr', hname', hsettled⟩ := h.settled outline ho
    obtain rfl : r' = r :=
      List.inj_on_of_nodup_map h.unambiguous.names hr' hr (hname'.trans hname)
    exact ⟨hsettled.live, hsettled.source⟩

end Derives

end RecordSchema
