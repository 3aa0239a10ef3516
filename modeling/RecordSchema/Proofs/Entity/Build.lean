/-
What an entity is built from its declaration, and why one is not.

Fields that pass are described at once by the properties that store them (`Passing`); what a last
field adds to them is said in terms of those properties, so the description is built up from the
front, and the first field that fails follows fields that pass. `Declaration.build_exact` says of
every declaration which shape or which error comes out.
-/
import RecordSchema.Proofs.Entity.Property
import Mathlib.Data.List.Induction

set_option autoImplicit false

namespace RecordSchema

open Tag

/-! ## All fields -/

/-- Fields that pass one after the other, and the properties that store them: one for each field
that is not transient, in the same order, under different storage names, at most one of them the
identifier. -/
structure Passing (fields : List Field) (properties : List PropertyShape) : Prop where
  tags : ∀ f ∈ fields, ∃ caps, Capabilities.parse f.tag = .ok caps
  stores : List.Forall₂ PropertyShape.Stores properties (fields.filter fun f => !f.isTransient)
  distinct : (properties.map (·.storageName)).Nodup
  identified : properties.countP (·.capabilities.isId) ≤ 1

theorem passing_nil_iff {properties : List PropertyShape} :
    Passing [] properties ↔ properties = [] := by
  constructor
  · intro h
    exact List.forall₂_nil_right_iff.mp h.stores
  · rintro rfl
    exact ⟨by simp, .nil, .nil, by simp⟩

/-- A property goes with those in front of it if it may follow them. -/
private theorem mayFollow_iff {ps : List PropertyShape} {p : PropertyShape} :
    ((ps ++ [p]).map (·.storageName)).Nodup ∧ (ps ++ [p]).countP (·.capabilities.isId) ≤ 1 ↔
      ((ps.map (·.storageName)).Nodup ∧ ps.countP (·.capabilities.isId) ≤ 1) ∧ p.MayFollow ps := by
  have hnames : ((ps ++ [p]).map (·.storageName)).Nodup ↔
      (ps.map (·.storageName)).Nodup ∧ p.storageName ∉ ps.map (·.storageName) := by
    rw [List.map_append, List.map_singleton, nodup_append_iff_newTo, newTo_singleton_iff]
  have hids : (ps ++ [p]).countP (·.capabilities.isId) ≤ 1 ↔
      ps.countP (·.capabilities.isId) ≤ 1 ∧
        (p.capabilities.isId = true → ∀ q ∈ ps, q.capabilities.isId = false) := by
    rw [List.countP_append, List.countP_singleton]
    by_cases hid : p.capabilities.isId = true
    · rw [if_pos hid]
      have hnone : ps.countP (·.capabilities.isId) = 0 ↔
          ∀ q ∈ ps, q.capabilities.isId = false := by
        simp [List.countP_eq_zero]
      simp only [hid, true_implies, ← hnone]
      omega
    · simp [hid]
  rw [hnames, hids]
  constructor
  · rintro ⟨⟨hnodup, hname⟩, hcount, hid⟩
    exact ⟨⟨hnodup, hcount⟩, hname, hid⟩
  · rintro ⟨⟨hnodup, hcount⟩, hname, hid⟩
    exact ⟨⟨hnodup, hname⟩, hcount, hid⟩

section Concat

variable {fields : List Field} {field : Field} {properties : List PropertyShape}

/-- A transient field adds nothing to fields that pass. -/
theorem passing_concat_iff_of_isTransient (h : field.isTransient = true) :
    Passing (fields ++ [field]) properties ↔ Passing fields properties := by
  have htag := Field.exists_parse_of_isTransient h
  have hfilter : (fields ++ [field]).filter (fun f => !f.isTransient) =
      fields.filter fun f => !f.isTransient := by
    simp [h]
  constructor
  · intro hp
    exact ⟨(List.forall_mem_append.mp hp.tags).1, hfilter ▸ hp.stores, hp.distinct, hp.identified⟩
  · intro hp
    exact ⟨List.forall_mem_append.mpr ⟨hp.tags, List.forall_mem_singleton.mpr htag⟩,
      hfilter.symm ▸ hp.stores, hp.distinct, hp.identified⟩

/-- A field that is stored adds the property that stores it, if that may follow. -/
theorem passing_concat_iff_of_stored (h : field.isTransient = false) :
    Passing (fields ++ [field]) properties ↔
      ∃ ps p, properties = ps ++ [p] ∧ Passing fields ps ∧ p.Stores field ∧ p.MayFollow ps := by
  have hfilter : (fields ++ [field]).filter (fun f => !f.isTransient) =
      (fields.filter fun f => !f.isTransient) ++ [field] := by
    simp [h]
  constructor
  · intro hp
    have hstores := hp.stores
    rw [hfilter, forall₂_concat_iff] at hstores
    obtain ⟨ps, p, rfl, hps, hpf⟩ := hstores
    obtain ⟨⟨hdistinct, hidentified⟩, hfollow⟩ := mayFollow_iff.mp ⟨hp.distinct, hp.identified⟩
    have htags := (List.forall_mem_append.mp hp.tags).1
    exact ⟨ps, p, rfl, ⟨htags, hps, hdistinct, hidentified⟩, hpf, hfollow⟩
  · rintro ⟨ps, p, rfl, hps, hpf, hfollow⟩
    obtain ⟨hdistinct, hidentified⟩ := mayFollow_iff.mpr ⟨⟨hps.distinct, hps.identified⟩, hfollow⟩
    refine ⟨List.forall_mem_append.mpr ⟨hps.tags, List.forall_mem_singleton.mpr ⟨_, hpf.tag⟩⟩, ?_,
      hdistinct, hidentified⟩
    rw [hfilter, forall₂_concat_iff]
    exact ⟨ps, p, rfl, hps.stores, hpf⟩

end Concat

/-- The first of some fields that fails, behind fields that pass. -/
def FailsFirst (entity : String) (fields : List Field) (error : SchemaError) : Prop :=
  ∃ before field after earlier, fields = before ++ field :: after ∧ Passing before earlier ∧
    field.Fails entity earlier error

namespace Field

variable {entity : String} {fields : List Field}

/-- Fields are resolved up to some field, and then from there. -/
theorem resolveAll_append (entity : String) (earlier : List PropertyShape)
    (front back : List Field) : (resolveAll entity earlier (front ++ back)).2 =
      (resolveAll entity earlier front).2 >>= fun ps => (resolveAll entity ps back).2 := by
  induction front generalizing earlier with
  | nil => rfl
  | cons field front ih =>
      rw [List.cons_append, resolveAll, resolveAll]
      cases field.resolve entity earlier with
      | error error => rfl
      | ok property => exact ih _

/-- Resolving one field more. -/
theorem resolveAll_cons (entity : String) (earlier : List PropertyShape) (field : Field)
    (rest : List Field) : (resolveAll entity earlier (field :: rest)).2 =
      field.resolve entity earlier >>= fun property =>
        (resolveAll entity (earlier ++ property.toList) rest).2 := by
  rw [resolveAll]
  cases field.resolve entity earlier <;> rfl

/-- Fields that pass are resolved to the properties that store them. -/
theorem resolveAll_of_passing {properties : List PropertyShape} (h : Passing fields properties) :
    (resolveAll entity [] fields).2 = .ok properties := by
  -- what may follow is said of a last field, so the induction is from the end
  induction fields using List.reverseRecOn generalizing properties with
  | nil =>
      rw [passing_nil_iff.mp h]
      rfl
  | append_singleton fields field ih =>
      cases htransient : field.isTransient with
      | true =>
          rw [resolveAll_append, ih ((passing_concat_iff_of_isTransient htransient).mp h)]
          change (resolveAll entity properties [field]).2 = _
          rw [resolveAll_cons, resolve_of_isTransient htransient]
          change Except.ok (properties ++ []) = _
          rw [List.append_nil]
      | false =>
          obtain ⟨ps, p, rfl, hps, hp, hfollow⟩ := (passing_concat_iff_of_stored htransient).mp h
          rw [resolveAll_append, ih hps]
          change (resolveAll entity ps [field]).2 = _
          rw [resolveAll_cons, resolve_of_mayFollow hp hfollow]
          rfl

/-- The first field that fails is what all fields are refused for. -/
theorem resolveAll_of_failsFirst {error : SchemaError} (h : FailsFirst entity fields error) :
    (resolveAll entity [] fields).2 = .error error := by
  obtain ⟨before, field, after, earlier, rfl, hbefore, hfails⟩ := h
  rw [resolveAll_append, resolveAll_of_passing hbefore]
  change (resolveAll entity earlier (field :: after)).2 = _
  rw [resolveAll_cons, resolve_of_fails hbefore.distinct hbefore.identified hfails]
  rfl

/-- Fields pass, or one of them is the first that fails. -/
theorem exists_passing_or_failsFirst (entity : String) (fields : List Field) :
    (∃ properties, Passing fields properties) ∨ ∃ error, FailsFirst entity fields error := by
  induction fields using List.reverseRecOn with
  | nil => exact Or.inl ⟨[], passing_nil_iff.mpr rfl⟩
  | append_singleton fields field ih =>
      rcases ih with ⟨ps, hps⟩ | ⟨error, before, first, after, earlier, rfl, hbefore, hfails⟩
      · rcases trichotomy entity field ps with htransient | ⟨p, hp, hfollow⟩ | ⟨error, hfails⟩
        · exact Or.inl ⟨ps, (passing_concat_iff_of_isTransient htransient).mpr hps⟩
        · have hstored := (isTransient_eq hp.tag).trans hp.stored
          exact Or.inl ⟨ps ++ [p], (passing_concat_iff_of_stored hstored).mpr
            ⟨ps, p, rfl, hps, hp, hfollow⟩⟩
        · exact Or.inr ⟨error, fields, field, [], ps, rfl, hps, hfails⟩
      · refine Or.inr ⟨error, before, first, after ++ [field], earlier, ?_, hbefore, hfails⟩
        rw [List.append_assoc, List.cons_append]

end Field

/-! ## Entities -/

/-- The fields that are stored. -/
def Declaration.storedFields (declaration : Declaration) : List Field :=
  declaration.fields.filter fun f => !f.isTransient

/-- A declaration of which an entity can be built. Tags are read of all fields, the rest is asked of
the stored ones alone. -/
structure Declaration.Buildable (declaration : Declaration) : Prop where
  tags : ∀ f ∈ declaration.fields, ∃ caps, Capabilities.parse f.tag = .ok caps
  types : ∀ f ∈ declaration.storedFields,
    ∃ base, (f.typeName, base) ∈ typeTable ∧ base.Fits f.capabilities
  named : ∀ f ∈ declaration.storedFields, f.capabilities.nameInDb? ≠ some ""
  distinct : (declaration.storedFields.map Field.storedAs).Nodup
  identified : declaration.storedFields.countP (·.capabilities.isId) = 1

/-- The shape that a declaration is built to: its properties store its fields, and the identifier is
where it is said to be. -/
structure EntityShape.Builds (shape : EntityShape) (declaration : Declaration) : Prop where
  name : shape.name = declaration.name
  properties : Passing declaration.fields shape.properties
  identifier : ∃ p, shape.properties[shape.idIndex]? = some p ∧ p.capabilities.isId = true

/-- Why no entity is built of a declaration: for the first field that fails, for want of a stored
field, or for want of an identifier among those that are stored. -/
inductive Declaration.Rejected (declaration : Declaration) : SchemaError → Prop where
  | field {error : SchemaError} (h : FailsFirst declaration.name declaration.fields error) :
      Rejected declaration error
  | noProperties (h : ∀ f ∈ declaration.fields, f.isTransient = true) :
      Rejected declaration (.entity (.noProperties declaration.name))
  | missingId {ps : List PropertyShape} (h : Passing declaration.fields ps)
      (hstored : ∃ f ∈ declaration.fields, f.isTransient = false)
      (hnone : ∀ p ∈ ps, p.capabilities.isId = false) :
      Rejected declaration (.entity (.missingId declaration.name))

/-- Nothing is stored exactly if all fields are transient. -/
theorem Passing.eq_nil_iff {fields : List Field} {ps : List PropertyShape}
    (h : Passing fields ps) : ps = [] ↔ ∀ f ∈ fields, f.isTransient = true := by
  rw [← List.length_eq_zero_iff, h.stores.length_eq, List.length_eq_zero_iff,
    List.filter_eq_nil_iff]
  simp

/-- Transient fields pass, and leave nothing. -/
theorem passing_of_transient {fields : List Field} (h : ∀ f ∈ fields, f.isTransient = true) :
    Passing fields [] where
  tags f hf := Field.exists_parse_of_isTransient (h f hf)
  stores := by
    rw [List.filter_eq_nil_iff.mpr (by simpa using h)]
    exact .nil
  distinct := .nil
  identified := by simp

namespace Declaration

variable {declaration : Declaration}

/-- The shape that is described is the one that is built. -/
theorem build_of_builds {shape : EntityShape} (h : shape.Builds declaration) :
    declaration.build = .ok shape := by
  obtain ⟨p, hp, hid⟩ := h.identifier
  have hne : shape.properties.isEmpty = false := by
    rw [List.isEmpty_eq_false_iff]
    rintro heq
    rw [heq] at hp
    cases hp
  have hindex : shape.properties.findIdx? (·.isId) = some shape.idIndex := by
    simp only [PropertyShape.isId_eq]
    exact findIdx?_eq_some_of_countP_le_one h.properties.identified hp hid
  unfold build
  rw [Field.resolveAll_of_passing h.properties]
  change EntityShape.ofProperties declaration.name shape.properties = _
  rw [EntityShape.ofProperties, hne, hindex, ← h.name]
  rfl

/-- The error that is described is the one that is reported. -/
theorem build_of_rejected {error : SchemaError} (h : declaration.Rejected error) :
    declaration.build = .error error := by
  unfold build
  cases h with
  | field h =>
      rw [Field.resolveAll_of_failsFirst h]
      rfl
  | noProperties h =>
      rw [Field.resolveAll_of_passing (passing_of_transient h)]
      rfl
  | @missingId ps h hstored hnone =>
      have hne : ps.isEmpty = false := by
        rw [List.isEmpty_eq_false_iff, Ne, h.eq_nil_iff]
        obtain ⟨f, hf, hf'⟩ := hstored
        intro hall
        rw [hall f hf] at hf'
        cases hf'
      have hindex : ps.findIdx? (·.isId) = none := by
        simp only [PropertyShape.isId_eq]
        exact List.findIdx?_eq_none_iff.mpr hnone
      rw [Field.resolveAll_of_passing h]
      change EntityShape.ofProperties declaration.name ps = _
      rw [EntityShape.ofProperties, hne, hindex]
      rfl

/-- Every declaration is built to a shape or rejected. -/
theorem exists_builds_or_rejected (declaration : Declaration) :
    (∃ shape : EntityShape, shape.Builds declaration) ∨ ∃ error, declaration.Rejected error := by
  rcases Field.exists_passing_or_failsFirst declaration.name declaration.fields with
    ⟨ps, hps⟩ | ⟨error, herror⟩
  swap
  · exact Or.inr ⟨error, .field herror⟩
  by_cases hid : ∃ p ∈ ps, p.capabilities.isId = true
  · obtain ⟨p, hp, hid⟩ := hid
    obtain ⟨i, hi⟩ := List.mem_iff_getElem?.mp hp
    exact Or.inl ⟨⟨declaration.name, ps, i⟩, rfl, hps, p, hi, hid⟩
  have hnone : ∀ p ∈ ps, p.capabilities.isId = false := by
    intro p hp
    rw [Bool.eq_false_iff]
    exact fun h => hid ⟨p, hp, h⟩
  by_cases htransient : ∀ f ∈ declaration.fields, f.isTransient = true
  · exact Or.inr ⟨_, .noProperties htransient⟩
  · have hstored : ∃ f ∈ declaration.fields, f.isTransient = false := by simpa using htransient
    exact Or.inr ⟨_, .missingId hps hstored hnone⟩

/-- A shape is built of a declaration exactly if it is the one described. -/
theorem build_eq_ok_iff {shape : EntityShape} :
    declaration.build = .ok shape ↔ shape.Builds declaration := by
  refine ⟨fun h => ?_, build_of_builds⟩
  rcases exists_builds_or_rejected declaration with ⟨other, hother⟩ | ⟨error, herror⟩
  · rw [build_of_builds hother, Except.ok.injEq] at h
    rwa [← h]
  · rw [build_of_rejected herror] at h
    cases h

/-- An error is reported of a declaration exactly if it is the one described. -/
theorem build_eq_error_iff {error : SchemaError} :
    declaration.build = .error error ↔ declaration.Rejected error := by
  refine ⟨fun h => ?_, build_of_rejected⟩
  rcases exists_builds_or_rejected declaration with ⟨shape, hshape⟩ | ⟨other, hother⟩
  · rw [build_of_builds hshape] at h
    cases h
  · rw [build_of_rejected hother, Except.error.injEq] at h
    rwa [← h]

/-- Declarations that are built together are built one by one. -/
theorem forall₂_builds_of_buildAll {declarations : List Declaration} {shapes : List EntityShape}
    (h : buildAll declarations = .ok shapes) :
    List.Forall₂ (fun d (shape : EntityShape) => shape.Builds d) declarations shapes := by
  have hmap := buildAll_eq_ok_iff.mp h
  rw [← List.forall₂_eq_eq_eq, List.forall₂_map_left_iff, List.forall₂_map_right_iff] at hmap
  exact hmap.imp fun d shape hbuild => build_eq_ok_iff.mp hbuild

/-- A declaration that is built to some shape is as it must be for that. -/
theorem buildable_of_builds {shape : EntityShape} (h : shape.Builds declaration) :
    declaration.Buildable := by
  have hstored : ∀ f ∈ declaration.storedFields, ∃ p : PropertyShape, p.Stores f := by
    intro f hf
    obtain ⟨p, -, hp⟩ := exists_mem_of_forall₂ h.properties.stores.flip hf
    exact ⟨p, hp⟩
  refine ⟨h.properties.tags, fun f hf => ?_, fun f hf => ?_, ?_, ?_⟩
  · obtain ⟨p, hp⟩ := hstored f hf
    obtain ⟨base, hbase, hfits, -⟩ := hp.mapping
    exact ⟨base, hbase, hp.capabilities_eq ▸ hfits⟩
  · obtain ⟨p, hp⟩ := hstored f hf
    exact hp.capabilities_eq ▸ hp.named
  · rw [storedFields, ← map_storageName_of_stores h.properties.stores]
    exact h.properties.distinct
  · obtain ⟨p, hp, hid⟩ := h.identifier
    have hpos : 0 < shape.properties.countP (·.capabilities.isId) :=
      List.countP_pos_iff.mpr ⟨p, List.mem_of_getElem? hp, hid⟩
    have hle := h.properties.identified
    rw [storedFields, ← countP_isId_of_stores h.properties.stores]
    omega

/-- A declaration that is as it must be has properties that store its fields. -/
theorem Buildable.exists_passing (h : declaration.Buildable) :
    ∃ ps, Passing declaration.fields ps ∧ ps.countP (·.capabilities.isId) = 1 := by
  have hstored : ∀ f ∈ declaration.storedFields, ∃ p : PropertyShape, p.Stores f := by
    intro f hf
    obtain ⟨hmem, htransient⟩ := List.mem_filter.mp hf
    obtain ⟨caps, hcaps⟩ := h.tags f hmem
    obtain ⟨base, hbase, hfits⟩ := h.types f hf
    have hnamed := h.named f hf
    have hsame : f.capabilities = caps := by rw [Field.capabilities, hcaps]
    rw [hsame] at hfits hnamed
    rw [Field.isTransient_eq hcaps] at htransient
    exact ⟨_, Field.stores_of_fits hcaps (by simpa using htransient) hbase hfits hnamed⟩
  obtain ⟨ps, hps⟩ := exists_forall₂ hstored
  have hcount : ps.countP (·.capabilities.isId) = 1 := by
    rw [countP_isId_of_stores hps]
    exact h.identified
  have hdistinct : (ps.map (·.storageName)).Nodup := by
    rw [map_storageName_of_stores hps]
    exact h.distinct
  exact ⟨ps, ⟨h.tags, hps, hdistinct, Nat.le_of_eq hcount⟩, hcount⟩

/-- A declaration can be built exactly if there is a shape that it is built to. -/
theorem exists_builds_iff :
    (∃ shape : EntityShape, shape.Builds declaration) ↔ declaration.Buildable := by
  constructor
  · rintro ⟨shape, h⟩
    exact buildable_of_builds h
  · intro h
    obtain ⟨ps, hps, hcount⟩ := h.exists_passing
    obtain ⟨p, hp, hid⟩ := List.countP_pos_iff.mp (hcount ▸ Nat.one_pos)
    obtain ⟨i, hi⟩ := List.mem_iff_getElem?.mp hp
    exact ⟨⟨declaration.name, ps, i⟩, rfl, hps, p, hi, hid⟩

/-- Building a declaration computes what is said of it above. A shape comes out exactly if every tag
is read, the stored fields have known types that fit their capabilities, no storage name is given as
empty or given twice, and one stored field is the identifier. The shape is then the one whose
properties store these fields, and otherwise the error is that of the first field that fails, or of
the fields taken together. -/
theorem build_exact (declaration : Declaration) :
    ((∃ shape, declaration.build = .ok shape) ↔ declaration.Buildable) ∧
      (∀ shape : EntityShape, declaration.build = .ok shape ↔ shape.Builds declaration) ∧
      ∀ error, declaration.build = .error error ↔ declaration.Rejected error := by
  refine ⟨?_, fun shape => build_eq_ok_iff, fun error => build_eq_error_iff⟩
  rw [← exists_builds_iff]
  exact exists_congr fun shape => build_eq_ok_iff

/-- Two identifiers under one storage name: the clash of names is what is reported. -/
def clashing : Declaration :=
  .ofParts "Account" [("id", "u64", "id nameInDb:\"key\""), ("cache", "Vec<Row>", "transient"),
    ("token", "i64", "nameInDb:\"key\" id"), ("owner", "Unknown", "")]

theorem build_exact_clashing :
    clashing.Rejected (.entity (.duplicateStorageName "Account" "key" "id" "token")) ∧
      ¬clashing.Buildable := by
  have hbuild : clashing.build =
      .error (.entity (.duplicateStorageName "Account" "key" "id" "token")) := by
    decide +kernel
  obtain ⟨hbuildable, -, herror⟩ := build_exact clashing
  refine ⟨(herror _).mp hbuild, fun h => ?_⟩
  obtain ⟨shape, hshape⟩ := hbuildable.mpr h
  rw [hbuild] at hshape
  cases hshape

end Declaration

end RecordSchema
