/-
What a binding says and what is recorded.

A run leaves a model, which becomes the binding that code is generated from, and a snapshot, from
which the next run starts. The two are made separately, and `binding_agrees` says that they tell the
same: of every declared entity the binding has the identifiers that its record has, its properties
are the live ones of the record, and the highest identifier ever issued is the one recorded.
-/
import RecordSchema.Binding
import RecordSchema.Proofs.Entity.Build
import RecordSchema.Proofs.Settled

set_option autoImplicit false

namespace RecordSchema

/-! ## Agreement -/

/-- A binding has the facts of a declared entity from its record. -/
structure BindingEntity.Agrees (b : BindingEntity) (d : Declaration) (r : EntityRecord) : Prop where
  name : b.name = d.name ∧ r.name = d.name
  id : b.id = r.id.id
  uid : b.uid = r.id.uid
  /-- The properties stand in the order of the declaration. -/
  order : b.properties.map (·.name) = d.storedNames
  /-- They are the live properties of the record. -/
  properties : (b.properties.map fun p => (p.name, IdUid.mk p.id p.uid)).Perm
    ((r.properties.filter fun q => !q.retired).map fun q => (q.name, q.id))
  slots : ∀ p ∈ b.properties, p.slot = p.id ∧
    p.vtableOffset.toNat = 4 + 2 * p.slot.toNat
  identifier : ∃ p, b.properties.filter (·.flags.contains .id) = [p] ∧ p.name = b.idProperty ∧
    p.storageType = .long
  last : ∃ p ∈ b.properties, p.name = b.lastProperty ∧
    ∀ q ∈ b.properties, q.name ≠ p.name → q.slot < p.slot
  recorded : r.lastPropertyId = some b.lastPropertyId
  covers : ∀ q ∈ r.properties, q.id.id ≤ b.lastPropertyId.id

/-! ## The last property -/

/-- An entity with properties has a last one, and no property has a higher number. -/
theorem Entity.exists_lastProperty? {e : Entity} (h : e.properties ≠ []) :
    ∃ p ∈ e.properties, e.lastProperty? = some p ∧ ∀ q ∈ e.properties, q.id.id ≤ p.id.id := by
  unfold lastProperty?
  generalize e.properties = ps at h ⊢
  -- the best so far is compared with the next property, so the induction is from the end
  induction ps using List.reverseRecOn with
  | nil => exact absurd rfl h
  | append_singleton ps p ih =>
      rw [List.foldl_concat]
      by_cases hps : ps = []
      · rw [hps]
        refine ⟨p, List.mem_cons_self, rfl, fun q hq => ?_⟩
        rw [List.mem_singleton.mp hq]
        exact UInt32.le_refl _
      obtain ⟨best, hbest, hfold, hle⟩ := ih hps
      rw [hfold]
      dsimp only
      by_cases hlt : p.id.id < best.id.id
      · rw [if_pos hlt]
        refine ⟨best, List.mem_append_left _ hbest, rfl, fun q hq => ?_⟩
        rcases List.mem_append.mp hq with hq | hq
        · exact hle q hq
        · rw [List.mem_singleton.mp hq]
          exact UInt32.le_of_lt hlt
      · rw [if_neg hlt]
        have hp := UInt32.not_lt.mp hlt
        refine ⟨p, List.mem_append_right _ List.mem_cons_self, rfl, fun q hq => ?_⟩
        rcases List.mem_append.mp hq with hq | hq
        · exact UInt32.le_trans (hle q hq) hp
        · rw [List.mem_singleton.mp hq]
          exact UInt32.le_refl _

/-! ## One entity -/

namespace Entity.Realizes

variable {e : Entity} {shape : EntityShape} {r : EntityRecord} {d : Declaration}
  (h : e.Realizes shape r)

include h

/-- Every property of the entity is recorded with its identifier. -/
theorem exists_recorded {p : Property} (hp : p ∈ e.properties) :
    ∃ q ∈ r.properties, q.name = p.name ∧ q.id = p.id :=
  EntityRecord.exists_of_map_id_property? (h.ids p hp)

/-- The properties have the names of the fields that are stored. -/
theorem map_name (hbuilds : shape.Builds d) : e.properties.map Property.name = d.storedNames := by
  have hshapes : shape.properties.map (·.name) = d.storedNames :=
    map_eq_of_forall₂ hbuilds.properties.stores fun _ _ hp => hp.name
  rw [← hshapes, ← h.shapes, List.map_map]
  rfl

/-- They are, with their identifiers, the live properties of a record that is as declared. -/
theorem perm_live {source : Option String} (hbuilds : shape.Builds d)
    (hdistinct : d.storedNames.Nodup) (hr : r.Consistent)
    (hsettled : r.Settled source d.storedNames) :
    (e.properties.map fun p => (p.name, p.id)).Perm
      ((r.properties.filter fun q => !q.retired).map fun q => (q.name, q.id)) := by
  have hnames := h.map_name hbuilds
  have hleft : (e.properties.map fun p => (p.name, p.id)).Nodup := by
    refine List.Nodup.of_map Prod.fst ?_
    rw [List.map_map]
    exact hnames ▸ hdistinct
  have hright : ((r.properties.filter fun q => !q.retired).map fun q => (q.name, q.id)).Nodup := by
    refine List.Nodup.of_map Prod.fst ?_
    rw [List.map_map]
    exact hr.names.sublist (List.filter_sublist.map _)
  rw [List.perm_ext_iff_of_nodup hleft hright]
  intro pair
  rw [List.mem_map, List.mem_map]
  constructor
  · rintro ⟨p, hp, rfl⟩
    obtain ⟨q, hq, hname, hid⟩ := h.exists_recorded hp
    have hdeclared : q.name ∈ d.storedNames := by
      rw [hname, ← hnames]
      exact List.mem_map_of_mem hp
    refine ⟨q, List.mem_filter.mpr ⟨hq, ?_⟩, by rw [hname, hid]⟩
    simp [hsettled.retired q hq, hdeclared]
  · rintro ⟨q, hq, rfl⟩
    obtain ⟨hq, hlive⟩ := List.mem_filter.mp hq
    have hdeclared : q.name ∈ d.storedNames := by
      simpa [hsettled.retired q hq] using hlive
    rw [← hnames] at hdeclared
    obtain ⟨p, hp, hname⟩ := List.mem_map.mp hdeclared
    -- the property of that name is recorded once
    obtain ⟨q', hq', hname', hid⟩ := h.exists_recorded hp
    obtain rfl : q' = q := List.inj_on_of_nodup_map hr.names hq' hq (hname'.trans hname)
    exact ⟨p, hp, by rw [hname, hid]⟩

/-- One property is the identifier, and it is a long. -/
theorem exists_idProperty? (hbuilds : shape.Builds d) :
    ∃ p, e.properties.filter (·.shape.isId) = [p] ∧ e.idProperty? = some p ∧
      p.shape.mapping.storage = .long := by
  obtain ⟨s, hs, hid⟩ := hbuilds.identifier
  obtain ⟨f, -, hstores⟩ := exists_mem_of_forall₂ hbuilds.properties.stores
    (List.mem_of_getElem? hs)
  rw [← h.shapes, List.getElem?_map] at hs
  obtain ⟨p, hp, rfl⟩ := Option.map_eq_some_iff.mp hs
  have hone : e.properties.countP (·.shape.isId) ≤ 1 := by
    have hle := hbuilds.properties.identified
    rw [← h.shapes, List.countP_map] at hle
    simpa only [PropertyShape.isId_eq, Function.comp_def] using hle
  refine ⟨p, ?_, ?_, hstores.storage_of_isId hid⟩
  · exact filter_eq_singleton_of_countP_le_one hone (List.mem_of_getElem? hp)
      (p.shape.isId_eq.trans hid)
  · rw [Entity.idProperty?, h.idIndex]
    exact hp

/-- A binding that is made of the entity agrees with the record. -/
theorem agrees {source : Option String} (hbuilds : shape.Builds d) (hdistinct : d.storedNames.Nodup)
    (hr : r.Consistent) (hsettled : r.Settled source d.storedNames) :
    (BindingEntity.ofEntity e).Agrees d r where
  name := ⟨h.name.trans hbuilds.name, h.recordName.trans hbuilds.name⟩
  id := congrArg IdUid.id h.id
  uid := congrArg IdUid.uid h.id
  order := by
    rw [← h.map_name hbuilds, BindingEntity.ofEntity, List.map_map]
    rfl
  properties := by
    rw [BindingEntity.ofEntity, List.map_map]
    exact h.perm_live hbuilds hdistinct hr hsettled
  slots := by
    intro b hb
    obtain ⟨p, hp, rfl⟩ := List.mem_map.mp hb
    exact ⟨rfl, (h.slots p hp).2⟩
  identifier := by
    obtain ⟨p, hfilter, hid, hlong⟩ := h.exists_idProperty? hbuilds
    refine ⟨.ofProperty p, ?_, ?_, hlong⟩
    · rw [BindingEntity.ofEntity, List.filter_map]
      exact congrArg (List.map BindingProperty.ofProperty) hfilter
    · rw [BindingEntity.ofEntity, hid]
      rfl
  last := by
    obtain ⟨p, -, hid, -⟩ := h.exists_idProperty? hbuilds
    have hne : e.properties ≠ [] := List.ne_nil_of_mem (List.mem_of_getElem? hid)
    obtain ⟨last, hmem, hlast, hle⟩ := Entity.exists_lastProperty? hne
    refine ⟨.ofProperty last, List.mem_map_of_mem hmem, ?_, fun b hb hother => ?_⟩
    · rw [BindingEntity.ofEntity, hlast]
      rfl
    · obtain ⟨q, hq, rfl⟩ := List.mem_map.mp hb
      refine UInt32.lt_of_le_of_ne (hle q hq) fun hsame => hother ?_
      change q.id.id = last.id.id at hsame
      -- two numbers in a record are the number of one property
      obtain ⟨q', hq', hname', hid'⟩ := h.exists_recorded hq
      obtain ⟨last', hlast', hlastName, hlastId⟩ := h.exists_recorded hmem
      obtain rfl : q' = last' :=
        List.inj_on_of_nodup_map hr.ids hq' hlast' (by rw [hid', hlastId, hsame])
      exact hname'.symm.trans hlastName
  recorded := h.last
  covers := by
    intro q hq
    obtain ⟨last, hlast, hle⟩ := hr.last q hq
    rw [h.last, Option.some.injEq] at hlast
    rwa [← hlast] at hle

end Entity.Realizes

/-! ## A run -/

section Derivation

variable {nameSpace : String} {declarations : List Declaration} {previous merged : Snapshot}
  {options : DeriveOptions} {model : Model}

namespace Derives

variable (h : Derives nameSpace declarations previous options model merged)

include h

/-- Every declaration has its entity in the model, in order, and the binding that is made of it agrees
with the record of its name. -/
theorem forall₂_agrees (hfields : ∀ d ∈ declarations, d.FieldsDistinct) :
    List.Forall₂ (fun d b => ∃ r, merged.entity? b.name = some r ∧ r.retired = false ∧
      r.source = options.source ∧ b.Agrees d r) declarations
      (Binding.ofModel model options.source).entities := by
  obtain ⟨shapes, hbuilt, hrealized⟩ := h.realized
  have hpairs := (List.forall₂_and_left declarations _).mpr ⟨fun d (hd : d ∈ declarations) => hd,
    forall₂_trans (Declaration.forall₂_builds_of_buildAll hbuilt) hrealized⟩
  refine List.forall₂_map_right_iff.mpr (hpairs.imp ?_)
  rintro d e ⟨hd, shape, hbuilds, r, hr, hrealizes⟩
  -- the record that the entity realizes is the one that the run has settled
  obtain ⟨r', hr', hname, hsettled⟩ := h.settled d.outline (List.mem_map_of_mem hd)
  obtain rfl : r' = r := List.inj_on_of_nodup_map h.unambiguous.names hr' hr
    (hname.trans (hrealizes.recordName.trans hbuilds.name).symm)
  have hfound : merged.entity? e.name = some r' := (find?_key_eq_some_iff h.unambiguous.names).mpr
    ⟨hr, hrealizes.recordName.trans hrealizes.name.symm⟩
  exact ⟨r', hfound, hsettled.live, hsettled.source, hrealizes.agrees hbuilds
    (hfields d hd).nodup_storedNames (h.unambiguous.entities r' hr) hsettled⟩

/-- The live records of the run's unit are those of the declared entities. -/
theorem perm_live : (declarations.map (·.name)).Perm
    ((merged.entities.filter fun r => !r.retired && r.source == options.source).map (·.name)) := by
  have hlive : ∀ r ∈ merged.entities, (!r.retired && r.source == options.source) = true ↔
      r.name ∈ declarations.map (·.name) := by
    intro r hr
    rw [← h.live_iff_declared hr]
    simp
  have hdistinct : (declarations.map (·.name)).Nodup := h.distinct
  rw [List.perm_ext_iff_of_nodup hdistinct
    (h.unambiguous.names.sublist (List.filter_sublist.map _))]
  intro name
  constructor
  · intro hdeclared
    obtain ⟨d, hd, rfl⟩ := List.mem_map.mp hdeclared
    obtain ⟨r, hr, hname, -⟩ := h.settled d.outline (List.mem_map_of_mem hd)
    change r.name = d.name at hname
    refine List.mem_map.mpr ⟨r, List.mem_filter.mpr ⟨hr, (hlive r hr).mpr ?_⟩, hname⟩
    rwa [hname]
  · intro hrecorded
    obtain ⟨r, hr, rfl⟩ := List.mem_map.mp hrecorded
    obtain ⟨hr, hof⟩ := List.mem_filter.mp hr
    exact (hlive r hr).mp hof

end Derives

/-- A run leaves a binding and a snapshot that agree. The binding lists the declared entities, each
once and in the order of their declarations; they are the live ones that the snapshot records for the
run's unit, and each agrees with its record. -/
theorem binding_agrees (hfields : ∀ d ∈ declarations, d.FieldsDistinct)
    (h : (deriveModel nameSpace declarations previous options).result = .ok (model, merged)) :
    let binding := Binding.ofModel model options.source
    (binding.entities.map (·.name)).Nodup ∧
      (binding.entities.map (·.name)).Perm ((merged.entities.filter fun r =>
        !r.retired && r.source == options.source).map (·.name)) ∧
      List.Forall₂ (fun d b => ∃ r, merged.entity? b.name = some r ∧ r.retired = false ∧
        r.source = options.source ∧ b.Agrees d r) declarations binding.entities := by
  have hderives := deriveModel_of_ok hfields h
  have hagree := hderives.forall₂_agrees hfields
  have hnames : declarations.map (·.name) =
      (Binding.ofModel model options.source).entities.map (·.name) := by
    refine map_eq_of_forall₂ hagree fun d b hb => ?_
    obtain ⟨r, -, -, -, hagrees⟩ := hb
    exact hagrees.name.1.symm
  exact ⟨hnames ▸ hderives.distinct, hnames ▸ hderives.perm_live, hagree⟩

end Derivation

/-- A recorded entity comes back with one of its two properties. -/
def trimmed : Declaration := .ofParts "User" [("id", "i64", "id"), ("cache", "Row", "transient")]

/-- The binding has the property that is declared as the last one, and the highest identifier ever
issued is that of the property that stays retired. -/
theorem binding_agrees_trimmed :
    ∃ model merged, (deriveModel "app" [trimmed] mixedSnapshot ⟨.sequential, none⟩).result =
        .ok (model, merged) ∧
      ∃ b r, (Binding.ofModel model none).entities = [b] ∧ merged.entity? b.name = some r ∧
        b.Agrees trimmed r ∧ b.lastProperty = "id" ∧ b.lastPropertyId = ⟨4, 110004⟩ := by
  have hlast : (deriveModel "app" [trimmed] mixedSnapshot ⟨.sequential, none⟩).result.map
      (fun out => (Binding.ofModel out.1 none).entities.map fun b =>
        (b.lastProperty, b.lastPropertyId)) = .ok [("id", ⟨4, 110004⟩)] := by
    decide +kernel
  obtain ⟨⟨model, merged⟩, h, hvalue⟩ := map_eq_ok_iff.mp hlast
  obtain ⟨-, -, hall⟩ := binding_agrees (by decide) h
  obtain ⟨b, rest, ⟨r, hr, -, -, hagrees⟩, hrest, hentities⟩ := List.forall₂_cons_left_iff.mp hall
  rw [List.forall₂_nil_left_iff.mp hrest] at hentities
  change (Binding.ofModel model none).entities = [b] at hentities
  rw [hentities] at hvalue
  obtain ⟨hproperty, hid⟩ := Prod.mk.inj (List.cons.inj hvalue).1
  exact ⟨model, merged, h, b, r, hentities, hr, hagrees, hproperty, hid⟩

end RecordSchema
