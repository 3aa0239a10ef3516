/-
Fields that are not stored.

A transient field is dropped as soon as its tag has been read, and no step asks where a field stands
among the others. So two declarations that have the same stored fields in the same order, whatever
transient fields stand between them, are built to the same shape or refused for the same reason, and
nothing that is derived from them can differ.
-/
import RecordSchema.Proofs.Derive
import RecordSchema.Proofs.Entity.Build

set_option autoImplicit false

namespace RecordSchema

/-! ## Lists of fields -/

namespace Field

/-- Two lists of fields that differ in nothing but transient fields, which may stand anywhere in
either list. The position of a field that both have is left open, since it changes with the fields
in front of it. -/
inductive SameStored : List Field → List Field → Prop where
  | nil : SameStored [] []
  | both {f g : Field} {fields others : List Field} (hname : f.name = g.name)
      (htype : f.typeName = g.typeName) (htag : f.tag = g.tag) (h : SameStored fields others) :
      SameStored (f :: fields) (g :: others)
  | left {f : Field} {fields others : List Field} (hf : f.isTransient = true)
      (h : SameStored fields others) : SameStored (f :: fields) others
  | right {g : Field} {fields others : List Field} (hg : g.isTransient = true)
      (h : SameStored fields others) : SameStored fields (g :: others)

/-- What a field says, apart from its position. -/
def text (field : Field) : String × String × String := (field.name, field.typeName, field.tag)

/-- What the stored ones among some fields say. -/
def storedTexts (fields : List Field) : List (String × String × String) :=
  (fields.filter fun f => !f.isTransient).map text

section StoredTexts

variable {f g : Field}

theorem storedTexts_cons_of_isTransient (fields : List Field) (h : f.isTransient = true) :
    storedTexts (f :: fields) = storedTexts fields := by
  simp [storedTexts, h]

theorem storedTexts_cons_of_stored (fields : List Field) (h : f.isTransient = false) :
    storedTexts (f :: fields) = f.text :: storedTexts fields := by
  simp [storedTexts, h]

theorem isTransient_congr (htag : f.tag = g.tag) : f.isTransient = g.isTransient := by
  unfold isTransient
  rw [htag]

end StoredTexts

/-- Lists of fields differ in transient fields only exactly if their stored fields say the same. -/
theorem sameStored_iff {fields others : List Field} :
    SameStored fields others ↔ storedTexts fields = storedTexts others := by
  constructor
  · intro h
    induction h with
    | nil => rfl
    | @both f g fields others hname htype htag _ ih =>
        cases hf : f.isTransient with
        | true =>
            have hg : g.isTransient = true := isTransient_congr htag ▸ hf
            rw [storedTexts_cons_of_isTransient _ hf, storedTexts_cons_of_isTransient _ hg, ih]
        | false =>
            have hg : g.isTransient = false := isTransient_congr htag ▸ hf
            have htext : f.text = g.text := by simp only [text, hname, htype, htag]
            rw [storedTexts_cons_of_stored _ hf, storedTexts_cons_of_stored _ hg, htext, ih]
    | left hf _ ih => rw [storedTexts_cons_of_isTransient _ hf, ih]
    | right hg _ ih => rw [storedTexts_cons_of_isTransient _ hg, ih]
  · intro h
    -- the left list is gone through; where its next field is stored, the right list is gone through
    -- up to the field that answers it
    induction fields generalizing others with
    | nil =>
        induction others with
        | nil => exact .nil
        | cons g others ih =>
            by_cases hg : g.isTransient = true
            · rw [storedTexts_cons_of_isTransient _ hg] at h
              exact .right hg (ih h)
            · rw [storedTexts_cons_of_stored _ (by simpa using hg)] at h
              cases h
    | cons f fields ih =>
        by_cases hf : f.isTransient = true
        · rw [storedTexts_cons_of_isTransient _ hf] at h
          exact .left hf (ih h)
        rw [storedTexts_cons_of_stored _ (by simpa using hf)] at h
        induction others with
        | nil => cases h
        | cons g others ihOthers =>
            by_cases hg : g.isTransient = true
            · rw [storedTexts_cons_of_isTransient _ hg] at h
              exact .right hg (ihOthers h)
            · rw [storedTexts_cons_of_stored _ (by simpa using hg)] at h
              obtain ⟨htext, hrest⟩ := List.cons.inj h
              simp only [text, Prod.mk.injEq] at htext
              obtain ⟨hname, htype, htag⟩ := htext
              exact .both hname htype htag (ih hrest)

instance (fields others : List Field) : Decidable (SameStored fields others) :=
  decidable_of_iff _ sameStored_iff.symm

/-! ## Building -/

/-- A field is resolved by its name, its type and its tag. -/
theorem resolve_congr {f g : Field} (entity : String) (earlier : List PropertyShape)
    (hname : f.name = g.name) (htype : f.typeName = g.typeName) (htag : f.tag = g.tag) :
    f.resolve entity earlier = g.resolve entity earlier := by
  unfold resolve storageName
  rw [hname, htype, htag]

/-- Transient fields make no difference to the properties that come out, nor to the error. -/
theorem SameStored.resolveAll_eq {fields others : List Field} (h : SameStored fields others)
    (entity : String) (earlier : List PropertyShape) :
    (resolveAll entity earlier fields).2 = (resolveAll entity earlier others).2 := by
  induction h generalizing earlier with
  | nil => rfl
  | @both f g fields others hname htype htag _ ih =>
      rw [resolveAll_cons, resolveAll_cons, resolve_congr entity earlier hname htype htag]
      cases g.resolve entity earlier with
      | error e => rfl
      | ok property => exact ih (earlier ++ property.toList)
  | left hf _ ih =>
      rw [resolveAll_cons, resolve_of_isTransient hf, ← ih earlier]
      simp [bind, Except.bind]
  | right hg _ ih =>
      rw [resolveAll_cons, resolve_of_isTransient hg, ih earlier]
      simp [bind, Except.bind]

end Field

namespace Declaration

/-- Two declarations of one entity that differ in nothing but transient fields. -/
structure SameStored (declaration other : Declaration) : Prop where
  name : declaration.name = other.name
  fields : Field.SameStored declaration.fields other.fields

instance (declaration other : Declaration) : Decidable (declaration.SameStored other) :=
  decidable_of_iff (declaration.name = other.name ∧
    Field.SameStored declaration.fields other.fields)
    ⟨fun h => ⟨h.1, h.2⟩, fun h => ⟨h.name, h.fields⟩⟩

theorem SameStored.build_eq {declaration other : Declaration} (h : declaration.SameStored other) :
    declaration.build = other.build := by
  unfold build
  rw [h.name, h.fields.resolveAll_eq]

/-- Declarations are built up to the same one, to the same shapes or for the same error. -/
theorem buildAll_eq_of_sameStored {declarations others : List Declaration}
    (h : List.Forall₂ SameStored declarations others) :
    buildAll declarations = buildAll others := by
  induction h with
  | nil => rfl
  | cons hone _ ih => rw [buildAll, buildAll, hone.build_eq, ih]

end Declaration

/-! ## Deriving -/

/-- All that a derivation needs of its declarations is what they are built to. -/
theorem result_deriveModel_congr {declarations others : List Declaration}
    (h : Declaration.buildAll declarations = Declaration.buildAll others) (nameSpace : String)
    (previous : Snapshot) (options : DeriveOptions) :
    (deriveModel nameSpace declarations previous options).result =
      (deriveModel nameSpace others previous options).result := by
  unfold deriveModel
  cases previous.validate with
  | error e => rfl
  | ok _ =>
      rw [h]
      cases Declaration.buildAll others with
      | error e => rfl
      | ok shapes =>
          dsimp only
          cases ((Assigner.start previous nameSpace options.strategy options.source).assignAll
            shapes).result <;> rfl

/-- Transient fields are invisible. Taking any of them out of the declarations, or putting any of
them in wherever there is room, changes neither the model and the merged snapshot nor, where there
are none, the error. -/
theorem deriveModel_eq_of_sameStored {declarations others : List Declaration}
    (h : List.Forall₂ Declaration.SameStored declarations others) (nameSpace : String)
    (previous : Snapshot) (options : DeriveOptions) :
    (deriveModel nameSpace declarations previous options).result =
      (deriveModel nameSpace others previous options).result :=
  result_deriveModel_congr (Declaration.buildAll_eq_of_sameStored h) nameSpace previous options

/-- Transient fields in front, in between and behind: of a type that is not known, with the name and
the storage name of a stored field, and as a second identifier. -/
def litteredDeclarations : List Declaration :=
  [.ofParts "User" [("cache", "Vec<Row>", "transient"), ("name", "String", ""),
      ("name", "String", "nameInDb:\"id\" transient id"), ("id", "i64", "id"),
      ("key", "i64", "id transient")],
    .ofParts "Tag" [("id", "i64", "id"), ("id", "Unknown", "transient")]]

theorem deriveModel_eq_of_sameStored_littered :
    List.Forall₂ Declaration.SameStored mixedDeclarations litteredDeclarations ∧
      (deriveModel "app" litteredDeclarations mixedSnapshot ⟨.sequential, none⟩).result =
        (deriveModel "app" mixedDeclarations mixedSnapshot ⟨.sequential, none⟩).result ∧
      (deriveModel "app" litteredDeclarations mixedSnapshot ⟨.sequential, none⟩).result.isOk =
        true := by
  have h : List.Forall₂ Declaration.SameStored mixedDeclarations litteredDeclarations := by
    decide +kernel
  have heq := deriveModel_eq_of_sameStored h "app" mixedSnapshot ⟨.sequential, none⟩
  exact ⟨h, heq.symm, by decide +kernel⟩

end RecordSchema
