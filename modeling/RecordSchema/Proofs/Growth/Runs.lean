/-
Declaring more of an entity in one run or in several.

A run that declares the first fields of an entity issues the first of the numbers that a run with
all of them would have issued, and the run after it goes on from there. So the identifiers of a
declaration that grew do not tell how often it was declared on the way.
-/
import RecordSchema.Proofs.Acceptance
import RecordSchema.Proofs.Growth.Merge
import RecordSchema.Proofs.Idempotence

set_option autoImplicit false

namespace RecordSchema

/-! ## Two runs -/

section Derivation

variable {nameSpace : String} {declarations more : List Declaration}
  {previous between merged merged' : Snapshot} {options : DeriveOptions} {first model model' : Model}

/-- The outlines of declarations that grow grow. -/
theorem Declaration.forall₂_outline_grows
    (hgrows : List.Forall₂ Declaration.Grows declarations more) :
    List.Forall₂ Outline.Grows (declarations.map (·.outline)) (more.map (·.outline)) := by
  rw [List.forall₂_map_left_iff, List.forall₂_map_right_iff]
  exact hgrows.imp fun _ _ hgrow => hgrow.outline

/-- A run leaves the same with and without a run of the shorter declarations before it. -/
theorem Derives.eq_of_grows (hgrows : List.Forall₂ Declaration.Grows declarations more)
    (hfields : ∀ d ∈ more, d.FieldsDistinct)
    (hfirst : Derives nameSpace declarations previous options first between)
    (hsecond : Derives nameSpace more between options model merged)
    (hdirect : Derives nameSpace more previous options model' merged') :
    model' = model ∧ merged' = merged := by
  have houtlines := Declaration.forall₂_outline_grows hgrows
  have hdistinct := hfirst.distinct
  have hnodup : ∀ o ∈ more.map (·.outline), o.properties.Nodup :=
    List.forall_mem_map.mpr fun d hd => (hfields d hd).nodup_storedNames
  have hmerged : merged' = merged := by
    rw [hdirect.eq_merge, hsecond.eq_merge, hfirst.eq_merge]
    exact (Snapshot.merge_merge_grows (by rwa [List.map_map]) hfirst.fits houtlines hnodup).symm
  have hentities := hsecond.entities_eq (hmerged ▸ hdirect)
  have hunder := hdirect.under.trans hsecond.under.symm
  cases model
  cases model'
  cases hentities
  cases hunder
  exact ⟨rfl, hmerged⟩

/-- Once the shorter declarations have been run, the longer ones can be run exactly if they could
have been run without it. -/
theorem Derives.demand_grows_iff (hgrows : List.Forall₂ Declaration.Grows declarations more)
    (hfields : ∀ d ∈ more, d.FieldsDistinct)
    (hfirst : Derives nameSpace declarations previous options first between)
    (hadmits : previous.Admits nameSpace options (declarations.map (·.outline))) :
    between.Admits nameSpace options (more.map (·.outline)) ∧
        between.Slotted (more.map (·.outline)) ↔
      previous.Admits nameSpace options (more.map (·.outline)) ∧
        previous.Slotted (more.map (·.outline)) := by
  have houtlines := Declaration.forall₂_outline_grows hgrows
  have hdistinct : ((declarations.map (·.outline)).map (·.name)).Nodup := by
    rw [List.map_map]
    exact hfirst.distinct
  have hnodup : ∀ o ∈ more.map (·.outline), o.properties.Nodup :=
    List.forall_mem_map.mpr fun d hd => (hfields d hd).nodup_storedNames
  rw [Snapshot.admits_grows_iff hdistinct hfirst.fits houtlines hnodup
      hfirst.consistent.toUnambiguous.names,
    Snapshot.slotted_grows_iff hdistinct hfirst.fits houtlines hnodup, ← hfirst.eq_merge,
    and_iff_right hadmits]

/-- Appending fields to declarations in two runs comes to appending them in one. Both come out or
neither does, and they leave the same entities and the same snapshot: whether the entities were new
or recorded, and whether the further fields are new, live or retired before the first run. -/
theorem deriveModel_twice_iff (hlast : previous.entities = [] ∨ previous.lastEntityId ≠ none)
    (hgrows : List.Forall₂ Declaration.Grows declarations more)
    (hfields : ∀ d ∈ more, d.FieldsDistinct)
    (hbuildable : ∀ d ∈ declarations, ∃ shape, d.build = .ok shape) (model : Model)
    (merged : Snapshot) :
    (∃ first between,
      (deriveModel nameSpace declarations previous options).result = .ok (first, between) ∧
        (deriveModel nameSpace more between options).result = .ok (model, merged)) ↔
      (deriveModel nameSpace more previous options).result = .ok (model, merged) := by
  have houtlines := Declaration.forall₂_outline_grows hgrows
  have hfields' : ∀ d ∈ declarations, d.FieldsDistinct := by
    intro d hd
    obtain ⟨after, hafter, hgrow⟩ := exists_mem_of_forall₂ hgrows hd
    exact hgrow.fieldsDistinct (hfields after hafter)
  have hstored : ∀ s : Snapshot, ∀ d ∈ declarations, d.name ∉ s.entityNames →
      d.storedNames.Nodup := fun _ d hd _ => (hfields' d hd).nodup_storedNames
  have hstored' : ∀ s : Snapshot, ∀ d ∈ more, d.name ∉ s.entityNames →
      d.storedNames.Nodup := fun _ d hd _ => (hfields d hd).nodup_storedNames
  constructor
  · rintro ⟨first, between, hfirst, hsecond⟩
    have hbefore := deriveModel_of_ok hfields' hfirst
    have hafter := deriveModel_of_ok hfields hsecond
    obtain ⟨hvalid, shapes, hbuilt, -⟩ := deriveModel_eq_ok hfirst
    obtain ⟨hvalid', shapes', hbuilt', -⟩ := deriveModel_eq_ok hsecond
    -- both runs have met their demands, so the demand of the second is met without the first
    have hadmits := ((exists_deriveModel_iff hvalid hbuilt hbefore.distinct (hstored _)).mp
      ⟨first, between, hfirst⟩).1
    have hdemand := (exists_deriveModel_iff hvalid' hbuilt' hafter.distinct (hstored' _)).mp
      ⟨model, merged, hsecond⟩
    obtain ⟨model', merged', hdirect⟩ :=
      (exists_deriveModel_iff hvalid hbuilt' hafter.distinct (hstored' _)).mpr
        ((hbefore.demand_grows_iff hgrows hfields hadmits).mp hdemand)
    obtain ⟨rfl, rfl⟩ := Derives.eq_of_grows hgrows hfields hbefore hafter
      (deriveModel_of_ok hfields hdirect)
    exact hdirect
  · intro hdirect
    have hafter := deriveModel_of_ok hfields hdirect
    obtain ⟨hvalid, shapes', hbuilt', -⟩ := deriveModel_eq_ok hdirect
    obtain ⟨shapes, hbuilt⟩ := Declaration.exists_buildAll hbuildable
    have hnames : more.map (·.name) = declarations.map (·.name) :=
      (map_eq_of_forall₂ hgrows fun _ _ hgrow => hgrow.name.symm).symm
    have hdistinct : (declarations.map (·.name)).Nodup := hnames ▸ hafter.distinct
    -- the shorter declarations ask for no more, so they can be run first
    have hdemand := (exists_deriveModel_iff hvalid hbuilt' hafter.distinct (hstored' _)).mp
      ⟨model, merged, hdirect⟩
    have hadmits := hdemand.1.of_grows houtlines
    obtain ⟨first, between, hfirst⟩ :=
      (exists_deriveModel_iff hvalid hbuilt hdistinct (hstored _)).mpr
        ⟨hadmits, hdemand.2.of_grows houtlines⟩
    have hbefore := deriveModel_of_ok hfields' hfirst
    -- what that leaves is accepted, and the longer ones find the rest of their demand there
    obtain ⟨model', merged', hsecond⟩ := (exists_deriveModel_iff (hbefore.validate_of_last hlast)
      hbuilt' hafter.distinct (hstored' _)).mpr
        ((hbefore.demand_grows_iff hgrows hfields hadmits).mpr hdemand)
    obtain ⟨rfl, rfl⟩ := Derives.eq_of_grows hgrows hfields hbefore
      (deriveModel_of_ok hfields hsecond) hafter
    exact ⟨first, between, hfirst, hsecond⟩

end Derivation

/-! ## A declaration that grows -/

/-- A recorded entity with a live property and a retired one behind its identifier. -/
def contactSnapshot : Snapshot :=
  ⟨snapshotVersion, some ⟨7, 11⟩,
    [⟨⟨7, 11⟩, "User", none, false, some ⟨2, 110002⟩,
      [⟨⟨0, 110000⟩, "id", false⟩, ⟨⟨1, 110001⟩, "email", false⟩,
        ⟨⟨2, 110002⟩, "phone", true⟩]⟩]⟩

/-- The entity without the properties behind its identifier, and a new one. -/
def shortDeclarations : List Declaration :=
  [.ofParts "User" [("id", "i64", "id")], .ofParts "Tag" [("id", "i64", "id")]]

/-- The same with further fields: a retired one, a new one and a live one, and a new one of the new
entity. -/
def longDeclarations : List Declaration :=
  [.ofParts "User" [("id", "i64", "id"), ("phone", "String", ""), ("nick", "String", ""),
      ("email", "String", "")],
    .ofParts "Tag" [("id", "i64", "id"), ("label", "String", "")]]

/-- The run of the shorter declarations retires the live property. After the longer ones all are live,
and the new one has the number that it gets without the first run. -/
theorem deriveModel_twice_iff_contact :
    ∃ first between model merged,
      (deriveModel "app" shortDeclarations contactSnapshot ⟨.sequential, none⟩).result =
        .ok (first, between) ∧
      (deriveModel "app" longDeclarations between ⟨.sequential, none⟩).result =
        .ok (model, merged) ∧
      (deriveModel "app" longDeclarations contactSnapshot ⟨.sequential, none⟩).result =
        .ok (model, merged) ∧
      between.entities.map (fun e => e.properties.map fun p => (p.name, p.retired, p.id.id.toNat)) =
        [[("id", false, 0), ("email", true, 1), ("phone", true, 2)], [("id", false, 0)]] ∧
      merged.entities.map (fun e => e.properties.map fun p => (p.name, p.retired, p.id.id.toNat)) =
        [[("id", false, 0), ("email", false, 1), ("phone", false, 2), ("nick", false, 3)],
          [("id", false, 0), ("label", false, 1)]] := by
  obtain ⟨⟨model, merged⟩, hdirect⟩ := exists_eq_ok (x := (deriveModel "app" longDeclarations
    contactSnapshot ⟨.sequential, none⟩).result) (by decide +kernel)
  have hbuildable : ∀ d ∈ shortDeclarations, ∃ shape, d.build = .ok shape := by
    have hok : ∀ d ∈ shortDeclarations, d.build.isOk = true := by decide +kernel
    exact fun d hd => exists_eq_ok (hok d hd)
  obtain ⟨first, between, hfirst, hsecond⟩ := (deriveModel_twice_iff (.inr (by decide)) (by decide)
    (by decide) hbuildable model merged).mpr hdirect
  have hbetween := (deriveModel_of_ok (by decide) hfirst).eq_merge
  have hmerged := (deriveModel_of_ok (by decide) hdirect).eq_merge
  refine ⟨first, between, model, merged, hfirst, hsecond, hdirect, ?_, ?_⟩
  · rw [hbetween]
    decide +kernel
  · rw [hmerged]
    decide +kernel

end RecordSchema
