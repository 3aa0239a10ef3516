/-
Identifiers over whole histories.

A record is never deleted and its identifiers never change, so everything that was ever issued is
still on record after every later run. And what is on record is unambiguous. So an identifier that
was issued once stays with its owner, and no other owner ever gets it, however often the owner was
dropped and brought back in between.
-/
import RecordSchema.Proofs.History.Basic

set_option autoImplicit false

namespace RecordSchema

/-! ## Owners and their identifiers -/

/-- The owners of an entity of a model with their identifiers. -/
def Entity.owned (e : Entity) : List (Owner × IdUid) :=
  (.entity e.name, e.id) :: e.properties.map fun p => (.property e.name p.name, p.id)

/-- All owners of a model with their identifiers. -/
def Model.owned (m : Model) : List (Owner × IdUid) := m.entities.flatMap Entity.owned

/-- Two owners whose numeric IDs must not be the same: two entities, or two properties of one
entity. -/
def Owner.Rivals : Owner → Owner → Prop
  | .entity _, .entity _ => True
  | .property within _, .property within' _ => within = within'
  | _, _ => False

namespace Snapshot

/-- What a snapshot records of an owner is in one of its records. -/
theorem mem_owned_iff {s : Snapshot} {owner : Owner} {id : IdUid} :
    (owner, id) ∈ s.owned ↔
      ∃ e ∈ s.entities, (owner = .entity e.name ∧ id = e.id) ∨
        ∃ p ∈ e.properties, owner = .property e.name p.name ∧ id = p.id := by
  simp only [owned, EntityRecord.owned, List.mem_flatMap, List.mem_cons, List.mem_map,
    Prod.mk.injEq, @eq_comm _ owner, @eq_comm _ id]

namespace Unambiguous

variable {s : Snapshot} (h : s.Unambiguous)

include h

/-- Two records of one name are the same. -/
theorem eq_of_name_eq {e e' : EntityRecord} (he : e ∈ s.entities) (he' : e' ∈ s.entities)
    (hname : e.name = e'.name) : e = e' :=
  List.inj_on_of_nodup_map h.names he he' hname

/-- An owner has one identifier. -/
theorem id_eq_of_owner_eq {owner : Owner} {id id' : IdUid} (hid : (owner, id) ∈ s.owned)
    (hid' : (owner, id') ∈ s.owned) : id = id' := by
  obtain ⟨e, he, hown⟩ := mem_owned_iff.mp hid
  obtain ⟨e', he', hown'⟩ := mem_owned_iff.mp hid'
  rcases hown with ⟨rfl, rfl⟩ | ⟨p, hp, rfl, rfl⟩
  · rcases hown' with ⟨hsame, rfl⟩ | ⟨_, _, hsame, _⟩
    · rw [h.eq_of_name_eq he he' (Owner.entity.inj hsame)]
    · cases hsame
  · rcases hown' with ⟨hsame, _⟩ | ⟨p', hp', hsame, rfl⟩
    · cases hsame
    · obtain ⟨hentity, hproperty⟩ := Owner.property.inj hsame
      obtain rfl := h.eq_of_name_eq he he' hentity
      rw [List.inj_on_of_nodup_map (h.entities e he).names hp hp' hproperty]

/-- A UID has one owner. -/
theorem owner_eq_of_uid_eq {owner owner' : Owner} {id id' : IdUid} (hid : (owner, id) ∈ s.owned)
    (hid' : (owner', id') ∈ s.owned) (huid : id.uid = id'.uid) : owner = owner' := by
  -- the UIDs of the owners are those of the snapshot, in the same order
  have hnodup : (s.owned.map (·.2.uid)).Nodup := by
    rw [map_uid_owned]
    exact h.uids
  exact congrArg Prod.fst (List.inj_on_of_nodup_map hnodup hid hid' huid)

/-- Of two rivals for a numeric ID only one has it. -/
theorem owner_eq_of_id_eq {owner owner' : Owner} {id id' : IdUid} (hid : (owner, id) ∈ s.owned)
    (hid' : (owner', id') ∈ s.owned) (hrivals : owner.Rivals owner') (hnumber : id.id = id'.id) :
    owner = owner' := by
  obtain ⟨e, he, hown⟩ := mem_owned_iff.mp hid
  obtain ⟨e', he', hown'⟩ := mem_owned_iff.mp hid'
  rcases hown with ⟨rfl, rfl⟩ | ⟨p, hp, rfl, rfl⟩
  · rcases hown' with ⟨rfl, rfl⟩ | ⟨_, _, rfl, _⟩
    · rw [List.inj_on_of_nodup_map h.ids he he' hnumber]
    · cases hrivals
  · rcases hown' with ⟨rfl, _⟩ | ⟨p', hp', rfl, rfl⟩
    · cases hrivals
    · obtain rfl := h.eq_of_name_eq he he' hrivals
      rw [List.inj_on_of_nodup_map (h.entities e he).ids hp hp' hnumber]

end Unambiguous

/-- Everything that was ever issued along some requests: what the snapshot records and what the
models say that the requests give. -/
def issued (s : Snapshot) (qs : List Request) : List (Owner × IdUid) :=
  s.owned ++ (s.models qs).flatMap Model.owned

end Snapshot

/-! ## Runs -/

/-- A record keeps its owners and their identifiers in every run. -/
theorem EntityRecord.owned_subset_merged (r : EntityRecord) (source : Option String)
    (outlines : List Outline) : r.owned ⊆ (r.merged source outlines).owned := by
  unfold merged
  cases outlines.find? (·.name = r.name) with
  | none =>
      dsimp only
      split <;> exact List.Subset.refl _
  | some outline =>
      rintro ⟨owner, id⟩ hx
      rcases List.mem_cons.mp hx with heq | hx
      · exact List.mem_cons.mpr (Or.inl heq)
      · obtain ⟨p, hp, heq⟩ := List.mem_map.mp hx
        refine List.mem_cons_of_mem _ (List.mem_map.mpr ?_)
        exact ⟨_, List.mem_append_left _ (List.mem_map_of_mem hp), heq⟩

/-- An entity of a model owns what its record owns. -/
theorem Entity.Realizes.owned_subset {e : Entity} {shape : EntityShape} {r : EntityRecord}
    (h : e.Realizes shape r) : e.owned ⊆ r.owned := by
  have hname : e.name = r.name := h.name.trans h.recordName.symm
  intro x hx
  rcases List.mem_cons.mp hx with rfl | hx
  · rw [hname, h.id]
    exact List.mem_cons_self
  · obtain ⟨p, hp, rfl⟩ := List.mem_map.mp hx
    obtain ⟨q, hq, hqp⟩ := Option.map_eq_some_iff.mp (h.ids p hp)
    have hqname : q.name = p.name := by simpa using List.find?_some hq
    refine List.mem_cons_of_mem _ (List.mem_map.mpr ⟨q, List.mem_of_find?_eq_some hq, ?_⟩)
    rw [hname, hqname, hqp]

section Step

variable {nameSpace : String} {declarations : List Declaration} {s merged : Snapshot}
  {options : DeriveOptions} {model : Model}

/-- What was on record before a run is on record after it. -/
theorem Derives.owned_subset (h : Derives nameSpace declarations s options model merged) :
    s.owned ⊆ merged.owned := by
  intro x hx
  obtain ⟨r, hr, hxr⟩ := List.mem_flatMap.mp hx
  rw [h.eq_merge]
  refine List.mem_flatMap.mpr ⟨_, List.mem_append_left _ (List.mem_map_of_mem hr), ?_⟩
  exact r.owned_subset_merged _ _ hxr

/-- What the model of a run says is on record after it. -/
theorem Derives.owned_model_subset (h : Derives nameSpace declarations s options model merged) :
    model.owned ⊆ merged.owned := by
  intro x hx
  obtain ⟨e, he, hxe⟩ := List.mem_flatMap.mp hx
  obtain ⟨shape, r, hr, hrealizes⟩ := h.exists_record he
  exact List.mem_flatMap.mpr ⟨r, hr, hrealizes.owned_subset hxe⟩

end Step

/-! ## Histories -/

namespace Snapshot

variable {s : Snapshot} {qs : List Request}

theorem unambiguous_afterAll (hs : s.Unambiguous) (hqs : ∀ q ∈ qs, q.FieldsDistinct) :
    (s.afterAll qs).Unambiguous :=
  afterAll_of_step (fun _ h => h.unambiguous) hs hqs

/-- What was ever issued is on record in the end. -/
theorem issued_subset_owned (hqs : ∀ q ∈ qs, q.FieldsDistinct) :
    s.issued qs ⊆ (s.afterAll qs).owned := by
  induction qs generalizing s with
  | nil =>
      intro x hx
      rw [issued, models, List.flatMap_nil, List.append_nil] at hx
      exact hx
  | cons q qs ih =>
      have hrest := ih (s := s.after q) fun q' hq' => hqs q' (List.mem_cons_of_mem _ hq')
      have hstep : s.owned ⊆ (s.after q).owned ∧
          ∀ model, s.model? q = some model → model.owned ⊆ (s.after q).owned := by
        rcases after_cases (hqs q List.mem_cons_self) s with ⟨hsame, hnone⟩ | ⟨model, hmodel, h⟩
        · rw [hsame, hnone]
          exact ⟨List.Subset.refl _, fun model hmodel => by cases hmodel⟩
        · rw [hmodel]
          refine ⟨h.owned_subset, fun model' hmodel' => ?_⟩
          obtain rfl := Option.some.inj hmodel'
          exact h.owned_model_subset
      intro x hx
      -- either it was there before the rest of the history or it is issued in it
      refine hrest ?_
      rw [issued, models, List.flatMap_append] at hx
      rcases List.mem_append.mp hx with hbefore | hx
      · exact List.mem_append_left _ (hstep.1 hbefore)
      · rcases List.mem_append.mp hx with hone | hmore
        · obtain ⟨model, hmodel, hxm⟩ := List.mem_flatMap.mp hone
          exact List.mem_append_left _ (hstep.2 model (Option.mem_toList.mp hmodel) hxm)
        · exact List.mem_append_right _ hmore

/-- Every property of a model has its slot. -/
theorem hasSlot_of_mem_models (hqs : ∀ q ∈ qs, q.FieldsDistinct) :
    ∀ m ∈ s.models qs, ∀ e ∈ m.entities, ∀ p ∈ e.properties, p.HasSlot := by
  induction qs generalizing s with
  | nil =>
      intro m hm
      cases hm
  | cons q qs ih =>
      intro m hm e he p hp
      rcases List.mem_append.mp hm with hone | hmore
      · rcases after_cases (hqs q List.mem_cons_self) s with ⟨-, hnone⟩ | ⟨model, hmodel, h⟩
        · rw [hnone] at hone
          cases hone
        · rw [hmodel, Option.toList_some, List.mem_singleton] at hone
          obtain ⟨shape, r, -, hrealizes⟩ := h.exists_record (hone ▸ he)
          exact hrealizes.slots p hp
      · exact ih (fun q' hq' => hqs q' (List.mem_cons_of_mem _ hq')) m hmore e he p hp

/-- Over a history from a snapshot that was accepted, an owner always has the same identifier, a UID
always the same owner, and a numeric ID always the same entity, or the same property within one
entity; so no two properties of an entity ever have the same slot. -/
theorem issued_stable (hs : s.validate = .ok ()) (hqs : ∀ q ∈ qs, q.FieldsDistinct) :
    (∀ {owner id id'}, (owner, id) ∈ s.issued qs → (owner, id') ∈ s.issued qs → id = id') ∧
      (∀ {owner owner' id id'}, (owner, id) ∈ s.issued qs → (owner', id') ∈ s.issued qs →
        id.uid = id'.uid → owner = owner') ∧
      (∀ {owner owner' id id'}, (owner, id) ∈ s.issued qs → (owner', id') ∈ s.issued qs →
        owner.Rivals owner' → id.id = id'.id → owner = owner') ∧
      ∀ m ∈ s.models qs, ∀ e ∈ m.entities, ∀ p ∈ e.properties,
        ∀ m' ∈ s.models qs, ∀ e' ∈ m'.entities, ∀ p' ∈ e'.properties,
          e.name = e'.name → p.vtableOffset = p'.vtableOffset → p.name = p'.name := by
  -- everything is on record in the end, and the record then is unambiguous
  have hend := unambiguous_afterAll (validate_eq_ok_iff.mp hs).toUnambiguous hqs
  have hsub := issued_subset_owned (s := s) hqs
  have hmodel : ∀ m ∈ s.models qs, ∀ e ∈ m.entities, ∀ p ∈ e.properties,
      (Owner.property e.name p.name, p.id) ∈ s.issued qs := by
    intro m hm e he p hp
    refine List.mem_append_right _ (List.mem_flatMap.mpr ⟨m, hm, List.mem_flatMap.mpr ⟨e, he, ?_⟩⟩)
    exact List.mem_cons_of_mem _ (List.mem_map.mpr ⟨p, hp, rfl⟩)
  refine ⟨fun h h' => hend.id_eq_of_owner_eq (hsub h) (hsub h'),
    fun h h' => hend.owner_eq_of_uid_eq (hsub h) (hsub h'),
    fun h h' => hend.owner_eq_of_id_eq (hsub h) (hsub h'), ?_⟩
  intro m hm e he p hp m' hm' e' he' p' hp' hname hoffset
  obtain ⟨-, hslot⟩ := hasSlot_of_mem_models hqs m hm e he p hp
  obtain ⟨-, hslot'⟩ := hasSlot_of_mem_models hqs m' hm' e' he' p' hp'
  -- equal offsets are offsets of equal numbers
  have hnumber : p.id.id = p'.id.id := by
    rw [hoffset, hslot', vtableSlotBytes] at hslot
    rw [← UInt32.toNat_inj]
    omega
  have howner := hend.owner_eq_of_id_eq (hsub (hmodel m hm e he p hp))
    (hsub (hmodel m' hm' e' he' p' hp')) hname hnumber
  exact (Owner.property.inj howner).2

/-- Whatever the history does to it, the entity has the identifier that was on record before. -/
theorem issued_stable_turning :
    mixedSnapshot.validate = .ok () ∧ (mixedSnapshot.models turningHistory).length = 4 ∧
      ∀ id, (Owner.entity "User", id) ∈ mixedSnapshot.issued turningHistory → id = ⟨7, 11⟩ := by
  have hs : mixedSnapshot.validate = .ok () := by decide +kernel
  have hfields : ∀ q ∈ turningHistory, q.FieldsDistinct := by decide
  refine ⟨hs, by decide +kernel, fun id hid => ?_⟩
  exact (issued_stable hs hfields).1 hid (by decide +kernel)

end Snapshot

end RecordSchema
