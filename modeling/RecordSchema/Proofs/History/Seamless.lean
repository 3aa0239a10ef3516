/-
Snapshots that only runs have written.

A snapshot that was never edited is more regular than the check asks for: the numbers of an entity's
properties have no gaps, the recorded maxima are attained, and every UID follows from its entity's.
`Snapshot.Seamless` says so. It holds of the empty snapshot, a run keeps it, and so it holds after
every history.

The bound on the number of properties comes from the layout: a run that numbers a property too high
for a slot is refused, so none is ever recorded.
-/
import RecordSchema.Proofs.History.Basic

set_option autoImplicit false

namespace RecordSchema

/-! ## Properties -/

namespace PropertyRecord

/-- Properties are numbered in order from zero, all have slots, and their UIDs follow from their
entity's as integers. -/
structure Dense (uid : UInt64) (ps : List PropertyRecord) : Prop where
  ids : ps.map (·.id.id.toNat) = List.range ps.length
  length : ps.length ≤ maxPropertyId + 1
  uids : ∀ p ∈ ps, p.id.uid.toNat = uid.toNat * uidScale + p.id.id.toNat

namespace Dense

variable {uid : UInt64} {ps : List PropertyRecord}

theorem nil (uid : UInt64) : Dense uid [] :=
  ⟨rfl, Nat.zero_le _, fun p hp => by cases hp⟩

/-- Whether properties are retired does not matter. -/
theorem map_retired (h : Dense uid ps) (f : PropertyRecord → Bool) :
    Dense uid (ps.map fun p => { p with retired := f p }) := by
  refine ⟨?_, ?_, ?_⟩
  · simpa only [List.map_map, List.length_map, Function.comp_def] using h.ids
  · simpa only [List.length_map] using h.length
  · simpa only [List.forall_mem_map] using h.uids

/-- The last of some dense properties has the last number. -/
theorem toNat_getLast? (h : Dense uid ps) {last : PropertyRecord}
    (hlast : ps.getLast? = some last) : last.id.id.toNat + 1 = ps.length := by
  have hids := congrArg List.getLast? h.ids
  rw [List.getLast?_map, hlast, Option.map_some, List.getLast?_range] at hids
  split at hids
  · cases hids
  · have hnumber := Option.some.inj hids
    omega

/-- Properties that are numbered on are dense with those before them. -/
theorem append_numbered (h : Dense uid ps) {first : Nat} {names : List String}
    (hfirst : first = ps.length) (hnum : Numberable uid first names.length)
    (hslots : ∀ p ∈ numbered uid first names, p.id.id.toNat ≤ maxPropertyId) :
    Dense uid (ps ++ numbered uid first names) := by
  subst hfirst
  refine ⟨?_, ?_, ?_⟩
  · rw [List.map_append, h.ids, map_id_numbered hnum, List.length_append, length_numbered,
      List.range_eq_range', List.range_eq_range']
    have happend := List.range'_append_1 (s := 0) (m := ps.length) (n := names.length)
    rwa [Nat.zero_add] at happend
  · rw [List.length_append, length_numbered]
    by_cases hnil : names = []
    · rw [hnil]
      exact h.length
    · have hne : numbered uid ps.length names ≠ [] := by
        intro hc
        have hlength := congrArg List.length hc
        rw [length_numbered] at hlength
        exact hnil (List.length_eq_zero_iff.mp hlength)
      obtain ⟨p, hp⟩ := List.exists_mem_of_ne_nil _ hne
      obtain ⟨last, hlast, hnumber, -⟩ := id_le_getLast?_numbered hnum hp
      -- the last one has a slot
      have hslot := hslots last (List.mem_of_getLast? hlast)
      omega
  · rw [List.forall_mem_append]
    exact ⟨h.uids, fun p hp => (of_mem_numbered hnum hp).2.2.2⟩

end Dense

end PropertyRecord

/-! ## Entities -/

namespace EntityRecord

/-- An entity has properties, without a gap in their numbers, and the last one is recorded as the
highest. -/
structure Seamless (e : EntityRecord) : Prop where
  nonempty : e.properties ≠ []
  dense : PropertyRecord.Dense e.id.uid e.properties
  last : e.lastPropertyId = e.properties.getLast?.map (·.id)

/-- The next number is the number of properties. -/
theorem Seamless.nextNumber_eq {e : EntityRecord} (h : e.Seamless) :
    e.nextNumber = e.properties.length := by
  rw [nextNumber, h.last]
  have hlast := List.getLast?_eq_some_getLast h.nonempty
  rw [hlast]
  exact h.dense.toNat_getLast? hlast

/-- A record stays seamless when its entity is declared again. -/
theorem Seamless.declared {e : EntityRecord} (h : e.Seamless) {source : Option String}
    {names : List String} (hnum : Numberable e.id.uid e.nextNumber (e.newNames names).length)
    (hslots : ∀ p ∈ e.added names, p.id.id.toNat ≤ maxPropertyId) :
    (e.declared source names).Seamless := by
  refine ⟨?_, ?_, ?_⟩
  · intro hnil
    exact h.nonempty (List.map_eq_nil_iff.mp (List.append_eq_nil_iff.mp hnil).1)
  · have hold := h.dense.map_retired fun p => !names.contains p.name
    exact hold.append_numbered (by rw [List.length_map, h.nextNumber_eq]) hnum hslots
  · change ((e.added names).getLast?.map (·.id)).or e.lastPropertyId =
      (_ ++ e.added names).getLast?.map (·.id)
    rw [h.last, List.getLast?_append, List.getLast?_map]
    cases (e.added names).getLast? <;> cases e.properties.getLast? <;> rfl

/-- A record stays seamless in a run that gives only numbers with a slot to its new properties. -/
theorem Seamless.merged {e : EntityRecord} (h : e.Seamless) {source : Option String}
    {outlines : List Outline}
    (hnum : ∀ outline ∈ outlines, outline.name = e.name →
      Numberable e.id.uid e.nextNumber (e.newNames outline.properties).length)
    (hslots : ∀ outline ∈ outlines, outline.name = e.name →
      ∀ p ∈ (e.merged source outlines).properties, p.name ∈ outline.properties →
        p.id.id.toNat ≤ maxPropertyId) :
    (e.merged source outlines).Seamless := by
  unfold EntityRecord.merged at hslots ⊢
  cases hfind : outlines.find? (·.name = e.name) with
  | none =>
      -- an entity that is not declared keeps its properties
      dsimp only
      split
      · exact ⟨h.nonempty, h.dense, h.last⟩
      · exact h
  | some outline =>
      rw [hfind] at hslots
      have hmem := List.mem_of_find?_eq_some hfind
      have hname : outline.name = e.name := by simpa using List.find?_some hfind
      refine h.declared (hnum outline hmem hname) fun p hp => ?_
      refine hslots outline hmem hname p (List.mem_append_right _ hp) ?_
      have hpn : p.name ∈ e.newNames outline.properties :=
        e.map_name_added outline.properties ▸ List.mem_map_of_mem hp
      exact (mem_newNames_iff.mp hpn).1

/-- The record of a new entity is seamless if it has properties and they have slots. -/
theorem seamless_fresh {source : Option String} {outline : Outline} {id : IdUid}
    (hne : outline.properties ≠ []) (hnum : Numberable id.uid 0 outline.properties.length)
    (hslots : ∀ p ∈ (fresh source outline id).properties, p.id.id.toNat ≤ maxPropertyId) :
    (fresh source outline id).Seamless := by
  refine ⟨?_, (PropertyRecord.Dense.nil id.uid).append_numbered rfl hnum hslots, rfl⟩
  intro hnil
  have hlength := congrArg List.length hnil
  change (PropertyRecord.numbered id.uid 0 outline.properties).length = 0 at hlength
  rw [PropertyRecord.length_numbered] at hlength
  exact hne (List.length_eq_zero_iff.mp hlength)

end EntityRecord

/-! ## Snapshots -/

namespace Snapshot

/-- A snapshot is accepted, records the highest of its entities as the highest ever issued, and all
its entities are seamless. -/
structure Seamless (s : Snapshot) : Prop where
  accepted : s.validate = .ok ()
  last : s.lastEntityId = highestOf (s.entities.map (·.id))
  entities : ∀ e ∈ s.entities, e.Seamless

theorem seamless_empty : empty.Seamless := by
  refine ⟨by decide, rfl, fun e he => ?_⟩
  cases he

section Step

variable {nameSpace : String} {declarations : List Declaration} {s merged : Snapshot}
  {options : DeriveOptions} {model : Model}

/-- Every record that a run leaves is seamless. -/
private theorem Seamless.entities_step (h : s.Seamless)
    (hderives : Derives nameSpace declarations s options model merged) :
    ∀ e ∈ merged.entities, e.Seamless := by
  have hslot : ∀ e ∈ merged.entities, ∀ d ∈ declarations, e.name = d.name →
      ∀ p ∈ e.properties, p.name ∈ d.storedNames → p.id.id.toNat ≤ maxPropertyId :=
    fun e he d hd hname p hp hstored => hderives.id_le_maxPropertyId hd he hname hp hstored
  -- from here on the merged snapshot is read as the merge: old records in their places, new behind
  rw [hderives.eq_merge] at hslot ⊢
  intro e he
  have hslotOf := hslot e he
  rcases List.mem_append.mp he with hold | hnew
  · obtain ⟨r, hr, rfl⟩ := List.mem_map.mp hold
    refine (h.entities r hr).merged (hderives.fits.renewed r hr) ?_
    intro outline houtline hname
    obtain ⟨d, hd, rfl⟩ := List.mem_map.mp houtline
    exact hslotOf d hd (by rw [EntityRecord.merged_name, ← hname]; rfl)
  · rw [newRecords, List.mem_mapIdx] at hnew
    obtain ⟨k, hk, rfl⟩ := hnew
    have hmem := List.getElem_mem hk
    obtain ⟨d, hd, houtline⟩ := List.mem_map.mp (List.mem_filter.mp hmem).1
    -- a new entity is one of the declarations, and its properties are all of the stored fields
    have hnum := hderives.fits.fresh _ hmem
    rw [← uid_issuedId s nameSpace options.strategy k] at hnum
    rw [← houtline] at hslotOf hnum ⊢
    refine EntityRecord.seamless_fresh (hderives.storedNames_ne_nil hd) hnum fun p hp => ?_
    refine hslotOf d hd rfl p hp ?_
    have hpn := List.mem_map_of_mem (f := (·.name)) hp
    change p.name ∈ (EntityRecord.fresh options.source d.outline
      (s.issuedId nameSpace options.strategy k d.outline.name)).propertyNames at hpn
    rwa [EntityRecord.propertyNames_fresh] at hpn

/-- A run leaves a seamless snapshot seamless. -/
theorem Seamless.step (h : s.Seamless)
    (hderives : Derives nameSpace declarations s options model merged) : merged.Seamless := by
  have hlast : merged.lastEntityId = highestOf (merged.entities.map (·.id)) := by
    rw [hderives.eq_merge, map_id_merge]
    change s.mergedLastId nameSpace options (declarations.map (·.outline)) = _
    rw [mergedLastId, h.last, highestOf_highestOf_append]
  refine ⟨?_, hlast, h.entities_step hderives⟩
  rw [validate_eq_ok_iff]
  refine ⟨hderives.unambiguous, fun last hl e he => ?_⟩
  rw [hlast] at hl
  exact (of_highestOf_eq_some hl).2 e.id (List.mem_map_of_mem he)

end Step

/-- What a history has made of the empty snapshot is accepted; the highest entity identifier on
record is that of the recorded entity with the highest numeric ID, and is missing only where none is
recorded; every entity has properties, numbered in order from zero with the last one on record, and
with the UIDs that follow from the entity's. -/
theorem seamless_afterAll {qs : List Request} (hqs : ∀ q ∈ qs, q.FieldsDistinct) :
    (empty.afterAll qs).validate = .ok () ∧
      ((empty.afterAll qs).lastEntityId = none ↔ (empty.afterAll qs).entities = []) ∧
      (∀ last, (empty.afterAll qs).lastEntityId = some last →
        ∃ e ∈ (empty.afterAll qs).entities, e.id = last ∧
          ∀ e' ∈ (empty.afterAll qs).entities, e'.id.id ≤ last.id) ∧
      ∀ e ∈ (empty.afterAll qs).entities, e.Seamless := by
  obtain ⟨haccepted, hlast, hentities⟩ := afterAll_of_step Seamless.step seamless_empty hqs
  refine ⟨haccepted, ?_, fun last hl => ?_, hentities⟩
  · rw [hlast, highestOf_eq_none_iff, List.map_eq_nil_iff]
  · rw [hlast] at hl
    obtain ⟨hmem, hhighest⟩ := of_highestOf_eq_some hl
    obtain ⟨e, he, heid⟩ := List.mem_map.mp hmem
    exact ⟨e, he, heid, fun e' he' => hhighest e'.id (List.mem_map_of_mem he')⟩

/-- The entity that came back has kept its numbers and goes on from them; the dropped property keeps
its place. -/
theorem seamless_afterAll_turning :
    (empty.afterAll turningHistory).validate = .ok () ∧
      (empty.afterAll turningHistory).entities.map (fun e => (e.name, e.source, e.retired)) =
        [("User", some "b", false), ("Tag", some "b", true)] ∧
      (empty.afterAll turningHistory).entities.map
          (fun e => e.properties.map fun p => (p.name, p.retired, p.id.id.toNat)) =
        [[("id", false, 0), ("name", true, 1), ("email", false, 2)], [("id", false, 0)]] := by
  have hfields : ∀ q ∈ turningHistory, q.FieldsDistinct := by decide
  exact ⟨(seamless_afterAll hfields).1, by decide +kernel, by decide +kernel⟩

end Snapshot

end RecordSchema
