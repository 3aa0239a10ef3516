/-
Hashed runs, one declaration at a time.

What a declaration gets under the hashed strategy does not depend on what else is declared, nor on
the order: it gets what it would get alone, or the whole run is refused. `HashedRun` says so of a
run that comes out: the declarations have different names, what they ask for is free, and each of
them comes out alone. Each of the conditions holds of fewer declarations as well and in any order,
which is why two runs from one snapshot can be compared without looking at the assigner.
-/
import RecordSchema.Proofs.Assigner.Independence

set_option autoImplicit false

namespace RecordSchema

/-! ## Runs of one declaration -/

/-- What a declaration gets in a hashed run of its own. -/
def Snapshot.hashedEntity (s : Snapshot) (nameSpace : String) (source : Option String)
    (declaration : Declaration) : Except SchemaError Entity := do
  let shape ← declaration.build
  ((Assigner.start s nameSpace .hashed source).assign shape).result

/-- What declarations get alone is what their shapes get alone. -/
theorem Snapshot.map_hashedEntity {s : Snapshot} {nameSpace : String} {source : Option String}
    {declarations : List Declaration} {shapes : List EntityShape}
    (h : Declaration.buildAll declarations = .ok shapes) :
    declarations.map (s.hashedEntity nameSpace source) =
      shapes.map fun shape =>
        ((Assigner.start s nameSpace .hashed source).assign shape).result := by
  have hbuilt := congrArg (List.map (· >>= fun shape =>
    ((Assigner.start s nameSpace .hashed source).assign shape).result))
    (Declaration.buildAll_eq_ok_iff.mp h)
  rw [List.map_map, List.map_map] at hbuilt
  exact hbuilt

/-! ## Hashed runs -/

/-- A hashed run that comes out, said of its declarations one by one. -/
structure HashedRun (nameSpace : String) (declarations : List Declaration) (previous : Snapshot)
    (source : Option String) (model : Model) (merged : Snapshot) : Prop where
  valid : previous.validate = .ok ()
  distinct : (declarations.map (·.outline.name)).Nodup
  free : previous.CollisionFree nameSpace (declarations.map (·.outline))
  alone : declarations.map (previous.hashedEntity nameSpace source) = model.entities.map .ok
  under : model.nameSpace = nameSpace
  eq_merge : merged = previous.merge nameSpace ⟨.hashed, source⟩ (declarations.map (·.outline))

section Run

variable {nameSpace : String} {declarations : List Declaration} {previous merged : Snapshot}
  {source : Option String} {model : Model}

/-- Once the snapshot is accepted, the declarations are built and their shapes are assigned, a
derivation has come out. -/
theorem deriveModel_of_assignAll (options : DeriveOptions) {shapes : List EntityShape}
    {entities : List Entity} (hvalid : previous.validate = .ok ())
    (hbuilt : Declaration.buildAll declarations = .ok shapes)
    (hassigned : ((Assigner.start previous nameSpace options.strategy options.source).assignAll
      shapes).result = .ok entities) :
    (deriveModel nameSpace declarations previous options).result =
      .ok (⟨nameSpace, entities⟩, ((Assigner.start previous nameSpace options.strategy
        options.source).assignAll shapes).state.finish.2) := by
  unfold deriveModel
  rw [hvalid, hbuilt]
  dsimp only
  rw [hassigned]

/-- The records of an accepted snapshot have properties of different names. -/
theorem Snapshot.nodup_propertyNames_of_validate (hvalid : previous.validate = .ok ())
    {r : EntityRecord} (hr : r ∈ previous.entities) : r.propertyNames.Nodup :=
  ((Snapshot.validate_eq_ok_iff.mp hvalid).entities r hr).names

/-- A run starts coherent on an accepted snapshot. -/
theorem Assigner.coherent_start (hvalid : previous.validate = .ok ()) (nameSpace : String)
    (strategy : IdStrategy) (source : Option String) :
    (start previous nameSpace strategy source).Coherent :=
  (sound_start (Snapshot.validate_eq_ok_iff.mp hvalid).toUnambiguous _ _ _).coherent

/-- A hashed derivation that comes out has given each declaration what it gets alone. -/
theorem hashedRun_of_deriveModel
    (h : (deriveModel nameSpace declarations previous ⟨.hashed, source⟩).result =
      .ok (model, merged)) :
    HashedRun nameSpace declarations previous source model merged := by
  obtain ⟨hvalid, shapes, hbuilt, hassigned, hmerged, hunder⟩ := deriveModel_eq_ok h
  have hcovers := Assigner.covers_of_assignAll
    (Assigner.coherent_start hvalid nameSpace .hashed source) rfl
    (fun _ _ r hr _ => Snapshot.nodup_propertyNames_of_validate hvalid hr) hassigned
  obtain ⟨houtlines, -⟩ := Declaration.outline_of_buildAll hbuilt
  have hnames : shapes.map (·.name) = declarations.map (·.outline.name) :=
    Declaration.map_name_of_buildAll hbuilt
  have hadmits := hcovers.admits
  have hsnapshot := hcovers.snapshot
  rw [houtlines] at hadmits hsnapshot
  refine ⟨hvalid, ?_, Snapshot.admits_hashed_iff.mp hadmits, ?_, hunder, ?_⟩
  · exact hnames ▸ (Assigner.newTo_of_assignAll hassigned).1
  · rw [Snapshot.map_hashedEntity hbuilt]
    exact hcovers.alone
  · rw [hmerged]
    exact Assigner.finish_eq_merge hsnapshot hcovers.source
      (mem_seen_iff_of_buildAll hbuilt hcovers.seen)

/-- Declarations of different names that each come out alone come out together, if what they ask for
is free. -/
theorem HashedRun.deriveModel (h : HashedRun nameSpace declarations previous source model merged) :
    (deriveModel nameSpace declarations previous ⟨.hashed, source⟩).result =
      .ok (model, merged) := by
  obtain ⟨hvalid, hdistinct, hfree, halone, hunder, heq⟩ := h
  have hbuild : ∀ d ∈ declarations, ∃ shape, d.build = .ok shape := by
    intro d hd
    obtain ⟨entity, -, hentity⟩ := exists_ok_of_map_eq_map_ok halone hd
    obtain ⟨shape, hshape, -⟩ := bind_eq_ok_iff.mp hentity
    exact ⟨shape, hshape⟩
  obtain ⟨shapes, hbuilt⟩ := Declaration.exists_buildAll hbuild
  obtain ⟨houtlines, -⟩ := Declaration.outline_of_buildAll hbuilt
  have hnames : shapes.map (·.name) = declarations.map (·.outline.name) :=
    Declaration.map_name_of_buildAll hbuilt
  rw [Snapshot.map_hashedEntity hbuilt] at halone
  have hassigned := Assigner.assignAll_of_alone
    (Assigner.coherent_start hvalid nameSpace .hashed source) rfl
    (fun _ _ r hr _ => Snapshot.nodup_propertyNames_of_validate hvalid hr)
    ((newTo_empty_iff _).mpr (hnames ▸ hdistinct))
    (houtlines ▸ Snapshot.admits_hashed_iff.mpr hfree) halone
  have hresult := deriveModel_of_assignAll ⟨.hashed, source⟩ hvalid hbuilt hassigned
  rw [hresult, (hashedRun_of_deriveModel hresult).eq_merge, heq, ← hunder]

/-! ## Fewer declarations, in any order -/

namespace HashedRun

variable (h : HashedRun nameSpace declarations previous source model merged)
include h

/-- What a run gives is a function of the declaration. -/
theorem exists_entityOf : ∃ entityOf : Declaration → Entity,
    model.entities = declarations.map entityOf ∧
      ∀ d ∈ declarations, previous.hashedEntity nameSpace source d = .ok (entityOf d) := by
  have hsome : ∀ d : Declaration, ∃ entity : Entity,
      d ∈ declarations → previous.hashedEntity nameSpace source d = .ok entity := by
    intro d
    by_cases hd : d ∈ declarations
    · obtain ⟨entity, -, hentity⟩ := exists_ok_of_map_eq_map_ok h.alone hd
      exact ⟨entity, fun _ => hentity⟩
    · exact ⟨⟨d.name, default, [], 0, default⟩, fun hmem => absurd hmem hd⟩
  choose entityOf hentityOf using hsome
  refine ⟨entityOf, ?_, hentityOf⟩
  have hmap : declarations.map (previous.hashedEntity nameSpace source) =
      (declarations.map entityOf).map .ok := by
    rw [List.map_map]
    exact List.map_congr_left hentityOf
  have hinj : Function.Injective (Except.ok : Entity → Except SchemaError Entity) :=
    fun _ _ => Except.ok.inj
  exact List.map_injective_iff.mpr hinj (h.alone.symm.trans hmap)

/-- Some of the declarations of a run, in any order, are a run of their own. -/
theorem subperm {part : List Declaration} {entityOf : Declaration → Entity}
    (hsub : part.Subperm declarations)
    (hentityOf : ∀ d ∈ declarations, previous.hashedEntity nameSpace source d = .ok (entityOf d)) :
    HashedRun nameSpace part previous source ⟨nameSpace, part.map entityOf⟩
      (previous.merge nameSpace ⟨.hashed, source⟩ (part.map (·.outline))) where
  valid := h.valid
  distinct := by
    obtain ⟨middle, hperm, hsublist⟩ := hsub
    exact (hperm.map _).nodup_iff.mp (h.distinct.sublist (hsublist.map _))
  free := by
    obtain ⟨middle, hperm, hsublist⟩ := hsub
    exact h.free.subperm ⟨_, hperm.map _, hsublist.map _⟩
  alone := by
    rw [List.map_map]
    exact List.map_congr_left fun d hd => hentityOf d (hsub.subset hd)
  under := rfl
  eq_merge := rfl

/-- A run records each declared entity as if it were declared alone. -/
theorem entity?_of_mem {d : Declaration} (hd : d ∈ declarations) :
    merged.entity? d.name =
      (previous.extend nameSpace ⟨.hashed, source⟩ [d.outline]).entity? d.name := by
  have hdistinct := h.distinct
  rw [h.eq_merge]
  exact Snapshot.entity?_merge_of_mem (by rwa [List.map_map]) (List.mem_map_of_mem hd)

/-- Declaring in another order changes no more than the order of the new records. -/
theorem eqUpToOrderFrom {part : List Declaration} (hperm : part.Perm declarations) :
    merged.EqUpToOrderFrom previous.entities.length
      (previous.merge nameSpace ⟨.hashed, source⟩ (part.map (·.outline))) := by
  have hdistinct := h.distinct
  have hadmits : previous.Admits nameSpace ⟨.hashed, source⟩ (declarations.map (·.outline)) :=
    Snapshot.admits_hashed_iff.mpr h.free
  rw [h.eq_merge]
  exact Snapshot.merge_perm (by rwa [List.map_map]) (hperm.map _) hadmits.ids.1

end HashedRun

/-- Under the hashed strategy the declarations of a run do not bear on each other: a run of some of
them, in any order, comes out as well, gives each of them the same entity, and records it the same.
If it is a run of all of them, then only the order of the new records may differ. -/
theorem deriveModel_independent
    (h : (deriveModel nameSpace declarations previous ⟨.hashed, source⟩).result =
      .ok (model, merged)) :
    ∃ entityOf : Declaration → Entity, model.entities = declarations.map entityOf ∧
      ∀ part, part.Subperm declarations → ∃ merged',
        (deriveModel nameSpace part previous ⟨.hashed, source⟩).result =
          .ok (⟨nameSpace, part.map entityOf⟩, merged') ∧
        (∀ d ∈ part, ∃ r, merged'.entity? d.name = some r ∧ merged.entity? d.name = some r) ∧
        (part.Perm declarations → merged.EqUpToOrderFrom previous.entities.length merged') := by
  have hrun := hashedRun_of_deriveModel h
  obtain ⟨entityOf, hentities, hentityOf⟩ := hrun.exists_entityOf
  refine ⟨entityOf, hentities, fun part hsub => ?_⟩
  have hpart := hrun.subperm hsub hentityOf
  refine ⟨_, hpart.deriveModel, fun d hd => ?_, hrun.eqUpToOrderFrom⟩
  -- both have the record that the declaration gets alone
  obtain ⟨r, hr⟩ := previous.exists_entity?_extend nameSpace ⟨.hashed, source⟩ d.outline
  refine ⟨r, ?_, ?_⟩
  · exact (hpart.entity?_of_mem hd).trans hr
  · exact (hrun.entity?_of_mem (hsub.subset hd)).trans hr

end Run

/-! ## Runs of the same declarations -/

/-- A recorded entity and two new ones. -/
def scatteredDeclarations : List Declaration :=
  mixedDeclarations ++ [.ofParts "Log" [("id", "i64", "id"), ("text", "String", "")]]

/-- From the last to the first the declarations get the same entities, and the new records change
places; so they do without the one in the middle. -/
theorem deriveModel_independent_scattered :
    ∃ model merged, (deriveModel "app" scatteredDeclarations mixedSnapshot
        ⟨.hashed, none⟩).result = .ok (model, merged) ∧
      (∃ merged', (deriveModel "app" scatteredDeclarations.reverse mixedSnapshot
          ⟨.hashed, none⟩).result = .ok (⟨"app", model.entities.reverse⟩, merged') ∧
        merged.EqUpToOrderFrom 2 merged' ∧
        merged'.entities.map (·.name) = ["User", "Note", "Log", "Tag"]) ∧
      ∃ merged', (deriveModel "app" (scatteredDeclarations.reverse.eraseIdx 1) mixedSnapshot
          ⟨.hashed, none⟩).result = .ok (⟨"app", model.entities.reverse.eraseIdx 1⟩, merged') ∧
        merged'.entity? "Log" = merged.entity? "Log" := by
  obtain ⟨⟨model, merged⟩, h⟩ := exists_eq_ok (x := (deriveModel "app" scatteredDeclarations
    mixedSnapshot ⟨.hashed, none⟩).result) (by decide +kernel)
  obtain ⟨entityOf, hentities, hpart⟩ := deriveModel_independent h
  have hreverse := List.reverse_perm scatteredDeclarations
  obtain ⟨reversed, hresult, -, hsame⟩ := hpart _ hreverse.subperm
  obtain ⟨fewer, hresult', hrecords, -⟩ := hpart (scatteredDeclarations.reverse.eraseIdx 1)
    ((List.eraseIdx_sublist _ _).subperm.trans hreverse.subperm)
  refine ⟨model, merged, h, ⟨reversed, ?_, hsame hreverse, ?_⟩, fewer, ?_, ?_⟩
  · rw [hentities, ← List.map_reverse]
    exact hresult
  · rw [(hashedRun_of_deriveModel hresult).eq_merge]
    decide +kernel
  · rw [hentities]
    exact hresult'
  · obtain ⟨r, hfewer, hmerged⟩ := hrecords
      (.ofParts "Log" [("id", "i64", "id"), ("text", "String", "")]) (by decide)
    exact hfewer.trans hmerged.symm

end RecordSchema
