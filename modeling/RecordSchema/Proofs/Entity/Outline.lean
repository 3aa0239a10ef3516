/-
Outlines of entities.

Identifiers are given to names alone, so all that the assignment of identifiers needs of a declared
entity is its name and the names of its properties: its outline. It can be read off a declaration
without building it, because building keeps the fields in order and drops only the transient ones.
-/
import RecordSchema.Entity.Build
import RecordSchema.Proofs.Result

set_option autoImplicit false

namespace RecordSchema

open Tag

/-! ## Outlines -/

/-- The names for which an entity needs identifiers. -/
structure Outline where
  name : String
  properties : List String
  deriving Repr, DecidableEq

/-- The outline of a shape. -/
def EntityShape.outline (shape : EntityShape) : Outline :=
  ⟨shape.name, shape.properties.map (·.name)⟩

/-- Whether the tag of a field says that it is not stored. -/
def Field.isTransient (field : Field) : Bool :=
  match Capabilities.parse field.tag with
  | .ok caps => caps.isTransient
  | .error _ => false

namespace Declaration

/-- The names of the fields that are stored, in order. -/
def storedNames (declaration : Declaration) : List String :=
  (declaration.fields.filter fun f => !f.isTransient).map (·.name)

/-- The outline of a declaration. -/
def outline (declaration : Declaration) : Outline :=
  ⟨declaration.name, declaration.storedNames⟩

/-- No two fields of a declaration have the same name. -/
def FieldsDistinct (declaration : Declaration) : Prop :=
  (declaration.fields.map (·.name)).Nodup

instance (declaration : Declaration) : Decidable declaration.FieldsDistinct :=
  inferInstanceAs (Decidable (List.Nodup _))

/-- Fields with distinct names are stored under distinct names. -/
theorem FieldsDistinct.nodup_storedNames {declaration : Declaration}
    (h : declaration.FieldsDistinct) : declaration.storedNames.Nodup :=
  h.sublist (List.filter_sublist.map _)

end Declaration

/-! ## Building keeps the outline -/

/-- A field becomes a property of its own name unless it is transient. -/
theorem Field.map_name_of_resolve {entity : String} {before : List PropertyShape} {field : Field}
    {property : Option PropertyShape} (h : field.resolve entity before = .ok property) :
    property.toList.map (·.name) = if field.isTransient then [] else [field.name] := by
  unfold resolve at h
  unfold isTransient
  obtain ⟨caps, hcaps, h⟩ := bind_eq_ok_iff.mp h
  rw [mapError_eq_ok_iff.mp hcaps]
  dsimp only
  by_cases htransient : caps.isTransient = true
  · rw [if_pos htransient] at h ⊢
    cases h
    rfl
  · rw [if_neg htransient] at h ⊢
    obtain ⟨mapping, -, h⟩ := bind_eq_ok_iff.mp h
    obtain ⟨storageName, -, h⟩ := bind_eq_ok_iff.mp h
    cases hother : before.find? (·.storageName = storageName) with
    | some other =>
        rw [hother] at h
        cases h
    | none =>
        rw [hother] at h
        -- whether it is a second identifier does not bear on the name
        by_cases hid : caps.isId = true
        · rw [if_pos hid] at h
          cases hfirst : before.find? (·.isId) with
          | some first =>
              rw [hfirst] at h
              cases h
          | none =>
              rw [hfirst] at h
              cases h
              rfl
        · rw [if_neg hid] at h
          cases h
          rfl

/-- The properties of some fields are those before them and one for each that is not transient. -/
theorem Field.map_name_of_resolveAll {entity : String} {before properties : List PropertyShape}
    {fields : List Field} (h : (resolveAll entity before fields).2 = .ok properties) :
    properties.map (·.name) =
      before.map (·.name) ++ (fields.filter fun f => !f.isTransient).map (·.name) := by
  induction fields generalizing before with
  | nil =>
      cases h
      simp
  | cons field rest ih =>
      unfold resolveAll at h
      cases hone : field.resolve entity before with
      | error e => rw [hone] at h; cases h
      | ok property =>
          rw [hone] at h
          rw [ih h, List.map_append, Field.map_name_of_resolve hone, List.append_assoc]
          cases htr : field.isTransient <;> simp [htr]

/-- Building keeps the outline, and what is built has a property. -/
theorem Declaration.outline_of_build {declaration : Declaration} {shape : EntityShape}
    (h : declaration.build = .ok shape) :
    shape.outline = declaration.outline ∧ shape.properties ≠ [] := by
  unfold build at h
  cases hall : (Field.resolveAll declaration.name [] declaration.fields).2 with
  | error e => rw [hall] at h; cases h
  | ok properties =>
      rw [hall] at h
      simp only [bind, Except.bind, EntityShape.ofProperties] at h
      have hnames := Field.map_name_of_resolveAll hall
      split at h
      · cases h
      · rename_i hne
        split at h
        · cases h
        · cases h
          refine ⟨?_, by simpa using hne⟩
          simp only [EntityShape.outline, outline, hnames, storedNames, List.map_nil,
            List.nil_append]

/-- The same for a list of declarations. -/
theorem Declaration.outline_of_buildAll {declarations : List Declaration}
    {shapes : List EntityShape} (h : buildAll declarations = .ok shapes) :
    shapes.map EntityShape.outline = declarations.map outline ∧
      ∀ shape ∈ shapes, shape.properties ≠ [] := by
  induction declarations generalizing shapes with
  | nil => cases h; simp
  | cons declaration rest ih =>
      unfold buildAll at h
      cases hone : declaration.build with
      | error e => rw [hone] at h; cases h
      | ok shape =>
          cases hmore : buildAll rest with
          | error e => rw [hone, hmore] at h; cases h
          | ok more =>
              rw [hone, hmore] at h
              cases h
              obtain ⟨houtline, hne⟩ := outline_of_build hone
              obtain ⟨houtlines, hnes⟩ := ih hmore
              refine ⟨by rw [List.map_cons, List.map_cons, houtline, houtlines], ?_⟩
              exact List.forall_mem_cons.mpr ⟨hne, hnes⟩

namespace Declaration

variable {declarations : List Declaration} {shapes : List EntityShape}

/-- What holds of all declared outlines holds of those that were built. -/
theorem forall_outline_of_buildAll (h : buildAll declarations = .ok shapes) {P : Outline → Prop}
    (hP : ∀ d ∈ declarations, P d.outline) : ∀ shape ∈ shapes, P shape.outline := by
  intro shape hshape
  obtain ⟨houtlines, -⟩ := outline_of_buildAll h
  have hmem : shape.outline ∈ declarations.map outline := houtlines ▸ List.mem_map_of_mem hshape
  obtain ⟨d, hd, hdo⟩ := List.mem_map.mp hmem
  exact hdo ▸ hP d hd

/-- Shapes have the names of their declarations. -/
theorem map_name_of_buildAll (h : buildAll declarations = .ok shapes) :
    shapes.map (·.name) = declarations.map (·.name) := by
  have hmap := congrArg (List.map (·.name)) (outline_of_buildAll h).1
  rwa [List.map_map, List.map_map] at hmap

/-- Declarations that can each be built can be built together. -/
theorem exists_buildAll (h : ∀ d ∈ declarations, ∃ shape, d.build = .ok shape) :
    ∃ shapes, buildAll declarations = .ok shapes := by
  induction declarations with
  | nil => exact ⟨[], rfl⟩
  | cons declaration rest ih =>
      obtain ⟨shape, hone⟩ := h declaration List.mem_cons_self
      obtain ⟨shapes, hmore⟩ := ih fun d hd => h d (List.mem_cons_of_mem _ hd)
      unfold buildAll
      rw [hone, hmore]
      exact ⟨shape :: shapes, rfl⟩

/-- Declarations are built together exactly if each of them is built. -/
theorem buildAll_eq_ok_iff :
    buildAll declarations = .ok shapes ↔ declarations.map build = shapes.map .ok := by
  induction declarations generalizing shapes with
  | nil =>
      rw [List.map_nil, eq_comm (a := []), List.map_eq_nil_iff, buildAll, Except.ok.injEq, eq_comm]
  | cons declaration rest ih =>
      have hcons : buildAll (declaration :: rest) = .ok shapes ↔
          ∃ shape more, declaration.build = .ok shape ∧ buildAll rest = .ok more ∧
            shape :: more = shapes := by
        simp only [buildAll, bind_eq_ok_iff, pure, Except.pure, Except.ok.injEq,
          exists_and_left]
      rw [hcons]
      constructor
      · rintro ⟨shape, more, hone, hmore, rfl⟩
        rw [List.map_cons, List.map_cons, hone, ih.mp hmore]
      · intro h
        rcases shapes with _ | ⟨shape, more⟩
        · cases h
        · obtain ⟨hone, hmore⟩ := List.cons.inj h
          exact ⟨shape, more, hone, ih.mpr hmore, rfl⟩

end Declaration

end RecordSchema
