/-
Whether the next run accepts what a run has left.

A merged snapshot is unambiguous, so all that can be wrong with it is the highest entity identifier.
A snapshot may leave that out, and then the first entity that is minted is recorded as the highest,
whatever the IDs of the records are. Counting on cannot go below them, because it looks at the
records too; a hash can.
-/
import RecordSchema.Proofs.Derive

set_option autoImplicit false

namespace RecordSchema

section Acceptance

variable {nameSpace : String} {declarations : List Declaration} {previous merged : Snapshot}
  {options : DeriveOptions} {model : Model}

/-- The highest identifier of a merged snapshot is the highest of the one that was recorded and the
new ones; a record must not exceed it. -/
theorem Derives.validate_eq_ok_iff
    (h : Derives nameSpace declarations previous options model merged) :
    merged.validate = .ok () ↔
      ∀ last, highestOf (previous.lastEntityId.toList ++
          (previous.newRecords nameSpace options (declarations.map (·.outline))).map (·.id)) =
            some last →
        ∀ r ∈ previous.entities, r.id.id ≤ last.id := by
  have hids := previous.map_id_merge nameSpace options (declarations.map (·.outline))
  rw [← h.eq_merge] at hids
  have hlast : merged.lastEntityId =
      previous.mergedLastId nameSpace options (declarations.map (·.outline)) := by
    rw [h.eq_merge]
    rfl
  rw [Snapshot.validate_eq_ok_iff]
  constructor
  · intro hmerged last hl r hr
    have hmem : r.id ∈ merged.entities.map (·.id) := by
      rw [hids]
      exact List.mem_append_left _ (List.mem_map_of_mem hr)
    obtain ⟨e, he, her⟩ := List.mem_map.mp hmem
    rw [← her]
    exact hmerged.last last (hlast.trans hl) e he
  · intro hcovers
    refine ⟨h.unambiguous, fun last hl e he => ?_⟩
    rw [hlast] at hl
    have hmem : e.id ∈ merged.entities.map (·.id) := List.mem_map_of_mem he
    rw [hids, List.mem_append] at hmem
    rcases hmem with hmem | hmem
    · obtain ⟨r, hr, hre⟩ := List.mem_map.mp hmem
      rw [← hre]
      exact hcovers last hl r hr
    · exact (of_highestOf_eq_some hl).2 e.id (List.mem_append_right _ hmem)

/-- A run that starts with the highest entity identifier on record, or with no entities, leaves a
snapshot that is accepted. -/
theorem Derives.validate_of_last
    (h : Derives nameSpace declarations previous options model merged)
    (hlast : previous.entities = [] ∨ previous.lastEntityId ≠ none) :
    merged.validate = .ok () := by
  rw [h.validate_eq_ok_iff]
  intro last hhighest r hr
  rcases hlast with hnil | hsome
  · rw [hnil] at hr
    cases hr
  · obtain ⟨before, hbefore⟩ := Option.ne_none_iff_exists'.mp hsome
    have hle : before.id ≤ last.id := by
      apply (of_highestOf_eq_some hhighest).2
      rw [hbefore]
      exact List.mem_append_left _ (List.mem_singleton_self before)
    exact UInt32.le_trans (h.consistent.last before hbefore r hr) hle

/-- Entities that are counted get IDs above all recorded ones, unless counting starts over. -/
theorem Derives.lt_of_sequential
    (h : Derives nameSpace declarations previous options model merged)
    (hseq : options.strategy = .sequential) (hword : previous.highestId + 1 < UInt32.size)
    {r e : EntityRecord} (hr : r ∈ previous.entities)
    (he : e ∈ previous.newRecords nameSpace options (declarations.map (·.outline))) :
    r.id.id < e.id.id := by
  rw [Snapshot.newRecords, List.mem_mapIdx] at he
  obtain ⟨k, hk, rfl⟩ := he
  have hle : r.id.id.toNat ≤ previous.highestId :=
    le_highestNumber (List.mem_append_right _ (List.mem_map_of_mem hr))
  have hnumber := (h.countedId_of_sequential hseq hk).1 hword
  rw [EntityRecord.fresh_id, hseq, UInt32.lt_iff_toNat_lt]
  change r.id.id.toNat < (previous.countedId k).toNat
  omega

/-- What a derivation leaves is accepted by the next one, unless the highest entity identifier was
not recorded, an entity was added by its hash, and a record exceeds all that were added. -/
theorem validate_merged_iff (hfields : ∀ d ∈ declarations, d.FieldsDistinct)
    (h : (deriveModel nameSpace declarations previous options).result = .ok (model, merged)) :
    merged.validate = .ok () ↔
      ¬(options.strategy = .hashed ∧ previous.lastEntityId = none ∧
        previous.newRecords nameSpace options (declarations.map (·.outline)) ≠ [] ∧
        ∃ r ∈ previous.entities,
          ∀ e ∈ previous.newRecords nameSpace options (declarations.map (·.outline)),
            e.id.id < r.id.id) := by
  have hderives := deriveModel_of_ok hfields h
  rw [hderives.validate_eq_ok_iff]
  constructor
  · -- without a recorded maximum the highest is a new one, and the record exceeds it
    rintro hcovers ⟨-, hnone, hne, r, hr, habove⟩
    rw [hnone, Option.toList_none, List.nil_append] at hcovers
    cases hlast : highestOf
        ((previous.newRecords nameSpace options (declarations.map (·.outline))).map (·.id)) with
    | none => exact hne (List.map_eq_nil_iff.mp (highestOf_eq_none_iff.mp hlast))
    | some last =>
        obtain ⟨e, he, hlastId⟩ := List.mem_map.mp (of_highestOf_eq_some hlast).1
        have hlt := habove e he
        rw [hlastId] at hlt
        exact UInt32.not_lt.mpr (hcovers last hlast r hr) hlt
  · intro hnot last hlast r hr
    obtain ⟨hmem, hhighest⟩ := of_highestOf_eq_some hlast
    cases hprev : previous.lastEntityId with
    | some before =>
        -- a recorded maximum covers the records, and the new one is at least that
        refine UInt32.le_trans (hderives.consistent.last before hprev r hr) (hhighest before ?_)
        rw [hprev]
        exact List.mem_append_left _ (List.mem_singleton_self before)
    | none =>
        rw [hprev, Option.toList_none, List.nil_append] at hmem hhighest
        by_contra hlt
        rw [UInt32.not_le] at hlt
        have habove : ∀ e ∈ previous.newRecords nameSpace options
            (declarations.map (·.outline)), e.id.id < r.id.id := fun e he =>
          UInt32.lt_of_le_of_lt (hhighest e.id (List.mem_map_of_mem he)) hlt
        obtain ⟨e, he, -⟩ := List.mem_map.mp hmem
        -- a hash may well be that low, counting may not
        cases hstrategy : options.strategy with
        | hashed =>
            exact hnot ⟨hstrategy, hprev, List.ne_nil_of_mem he, r, hr, habove⟩
        | sequential =>
            have hword : previous.highestId + 1 < UInt32.size :=
              hderives.consistent.succ_highestId_lt fun last hlast => by
                rw [hprev] at hlast
                cases hlast
            exact UInt32.lt_asymm (hderives.lt_of_sequential hstrategy hword hr he) (habove e he)

end Acceptance

/-! ## A run that the next one refuses -/

/-- A snapshot of the highest possible entity ID that does not record which ID is the highest. -/
def highSnapshot : Snapshot :=
  ⟨snapshotVersion, none, [⟨⟨16777215, 1⟩, "Zed", none, false, none, []⟩]⟩

def userDeclarations : List Declaration := [.ofParts "User" [("id", "i64", "id")]]

/-- The same entity is added with and without the highest ID on record; only with it the next run
accepts what comes out. -/
theorem validate_merged_iff_high :
    (∃ model merged,
      (deriveModel "app" userDeclarations { highSnapshot with lastEntityId := some ⟨16777215, 1⟩ }
        ⟨.hashed, none⟩).result = .ok (model, merged) ∧ merged.validate = .ok ()) ∧
    ∃ model merged,
      (deriveModel "app" userDeclarations highSnapshot ⟨.hashed, none⟩).result =
        .ok (model, merged) ∧ merged.validate ≠ .ok () := by
  constructor
  · obtain ⟨⟨model, merged⟩, h⟩ := exists_eq_ok (x := (deriveModel "app" userDeclarations
      { highSnapshot with lastEntityId := some ⟨16777215, 1⟩ } ⟨.hashed, none⟩).result)
      (by decide +kernel)
    refine ⟨model, merged, h, (validate_merged_iff (by decide) h).mpr ?_⟩
    rintro ⟨-, hnone, -⟩
    cases hnone
  · obtain ⟨⟨model, merged⟩, h⟩ := exists_eq_ok (x := (deriveModel "app" userDeclarations
      highSnapshot ⟨.hashed, none⟩).result) (by decide +kernel)
    refine ⟨model, merged, h, fun hvalid => (validate_merged_iff (by decide) h).mp hvalid ?_⟩
    decide +kernel

/-- The snapshot is accepted, the entity is added below its only record, and what comes out is
refused. -/
theorem validate_merged_refused :
    highSnapshot.validate = .ok () ∧ (∀ d ∈ userDeclarations, d.FieldsDistinct) ∧
      ((deriveModel "app" userDeclarations highSnapshot ⟨.hashed, none⟩).result.toOption.map
        fun out => out.2.validate) =
          some (.error (.lastEntityIdBehind "Zed" 16777215 7280908)) := by
  decide +kernel

end RecordSchema
