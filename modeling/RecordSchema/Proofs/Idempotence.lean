/-
A run again.

A run leaves every record of a declared entity as its declaration says: live, of the run's unit, with
all declared properties and only those live. Running the same declarations on what it left finds
nothing to add and nothing to change, so neither the name space nor the strategy matters any more: no
new identifier is issued. The merged snapshot comes out as it went in, and a model is determined by
its shapes and the records, so the entities are the same, too.

Nothing is assumed of the declarations. That the snapshot left by the first run is accepted says as
much as is needed: a new entity whose fields share a name would have been recorded with both.
-/
import RecordSchema.Run
import RecordSchema.Proofs.Assigner.Accounts
import RecordSchema.Proofs.Settled
import RecordSchema.Proofs.Slots

set_option autoImplicit false

namespace RecordSchema

/-! ## A record again -/

namespace EntityRecord

variable {r : EntityRecord} {source : Option String} {names : List String}

/-- Nothing is new to a settled record. -/
theorem Settled.newNames_eq (h : r.Settled source names) : r.newNames names = [] := by
  rw [List.eq_nil_iff_forall_not_mem]
  intro name hname
  obtain ⟨hdeclared, hnew⟩ := mem_newNames_iff.mp hname
  exact hnew (h.recorded name hdeclared)

/-- Declaring a settled record again leaves it as it is. -/
theorem Settled.declared_eq (h : r.Settled source names) : r.declared source names = r := by
  have hadded : r.added names = [] := by
    rw [added, h.newNames_eq]
    rfl
  have hproperties : r.properties.map (fun p => { p with retired := !names.contains p.name }) =
      r.properties := by
    refine (List.map_congr_left fun p hp => ?_).trans (List.map_id' _)
    rw [← h.retired p hp]
  unfold declared
  rw [hadded, List.append_nil, hproperties, ← h.source, ← h.live]
  rfl

/-- Merging a settled record again leaves it as it is. -/
theorem Settled.merged_eq {outlines : List Outline} {outline : Outline}
    (hfind : outlines.find? (·.name = r.name) = some outline)
    (h : r.Settled source outline.properties) : r.merged source outlines = r := by
  rw [merged_of_find? hfind]
  exact h.declared_eq

/-- A merge settles the records of what is declared, and a second one changes none of the others. -/
theorem merged_merged (r : EntityRecord) (source : Option String) (outlines : List Outline) :
    (r.merged source outlines).merged source outlines = r.merged source outlines := by
  cases hfind : outlines.find? (·.name = r.name) with
  | some outline =>
      rw [merged_of_find? hfind]
      exact (settled_declared r source outline.properties).merged_eq hfind
  | none =>
      rw [merged_of_find?_none hfind]
      by_cases hsource : r.source = source
      · rw [if_pos hsource, merged_of_find?_none (r := { r with retired := true }) hfind]
        exact if_pos hsource
      · rw [if_neg hsource, merged_of_find?_none hfind]
        exact if_neg hsource

end EntityRecord

/-! ## A merge again -/

namespace Snapshot

section Merge

variable {s : Snapshot} {nameSpace : String} {options : DeriveOptions} {outlines : List Outline}

/-- What is settled is recorded. -/
theorem Settled.newOutlines_eq {source : Option String} (h : s.Settled source outlines) :
    s.newOutlines outlines = [] := by
  rw [newOutlines, List.filter_eq_nil_iff]
  intro outline ho
  obtain ⟨r, hr, hname, -⟩ := h outline ho
  have hmem : outline.name ∈ s.entityNames := hname ▸ List.mem_map_of_mem hr
  simpa using hmem

theorem Settled.newRecords_eq {source : Option String} (h : s.Settled source outlines)
    (nameSpace : String) (options : DeriveOptions) :
    s.newRecords nameSpace options outlines = [] := by
  rw [newRecords, h.newOutlines_eq]
  rfl

/-- Merging the same declarations of the same unit again changes nothing, whatever the name space and
the strategy. -/
theorem merge_merge (hdistinct : (outlines.map (·.name)).Nodup) (nameSpace' : String)
    (strategy' : IdStrategy) :
    (s.merge nameSpace options outlines).merge nameSpace' ⟨strategy', options.source⟩ outlines =
      s.merge nameSpace options outlines := by
  have hsettled : (s.merge nameSpace options outlines).Settled options.source outlines :=
    settled_merge hdistinct
  -- the second merge makes no records, and those that the first one made are settled already
  have hnone := hsettled.newRecords_eq nameSpace' ⟨strategy', options.source⟩
  have hnew : (s.newRecords nameSpace options outlines).map (·.merged options.source outlines) =
      s.newRecords nameSpace options outlines := by
    refine (List.map_congr_left fun r hr => ?_).trans (List.map_id' _)
    obtain ⟨outline, ho, hname, hr⟩ := settled_of_mem_newRecords hr
    exact hr.merged_eq ((find?_key_eq_some_iff hdistinct).mpr ⟨ho, hname.symm⟩)
  ext1
  · rfl
  · change highestOf ((s.merge nameSpace options outlines).lastEntityId.toList ++
      ((s.merge nameSpace options outlines).newRecords nameSpace' ⟨strategy', options.source⟩
        outlines).map (·.id)) = _
    rw [hnone, List.map_nil, List.append_nil, highestOf_toList]
  · change (s.merge nameSpace options outlines).entities.map (·.merged options.source outlines) ++
      (s.merge nameSpace options outlines).newRecords nameSpace' ⟨strategy', options.source⟩
        outlines = (s.merge nameSpace options outlines).entities
    rw [hnone, List.append_nil]
    change (s.entities.map (·.merged options.source outlines) ++
      s.newRecords nameSpace options outlines).map (·.merged options.source outlines) = _
    rw [List.map_append, hnew, List.map_map]
    simp only [Function.comp_def, EntityRecord.merged_merged]
    rfl

/-- What is settled asks for nothing. -/
theorem Settled.admits {source : Option String} (hnames : s.entityNames.Nodup)
    (h : s.Settled source outlines) (nameSpace : String) (options : DeriveOptions) :
    s.Admits nameSpace options outlines := by
  have hdemand : outlines.flatMap (s.demandedUids nameSpace) = [] := by
    rw [List.flatMap_eq_nil_iff]
    intro outline ho
    obtain ⟨r, hr, hname, hsettled⟩ := h outline ho
    rw [demandedUids_of_entity? nameSpace ((entity?_eq_some_iff hnames).mpr ⟨hr, hname⟩),
      EntityRecord.addedNumbers, hsettled.newNames_eq]
    rfl
  refine ⟨?_, ?_, ?_, ?_⟩
  · rw [h.newRecords_eq]
    exact List.forall_mem_nil _
  · rw [h.newRecords_eq]
    exact newTo_nil _
  · rw [hdemand]
    exact newTo_nil _
  · rw [hdemand]
    exact fun uid huid => absurd huid List.not_mem_nil

end Merge

end Snapshot

/-! ## Entities of the same shape and record -/

/-- A slot is determined by the numeric ID. -/
theorem Property.ext_of_hasSlot {p q : Property} (hp : p.HasSlot) (hq : q.HasSlot)
    (hshape : p.shape = q.shape) (hid : p.id = q.id) : p = q := by
  have hoffset := (hp.vtableOffset_eq_iff hq).mpr (congrArg IdUid.id hid)
  cases p
  cases q
  cases hshape
  cases hid
  cases hoffset
  rfl

/-- Properties of the same shapes that have the identifiers of one record are the same. -/
private theorem properties_eq {r : EntityRecord} {ps qs : List Property}
    (hshapes : ps.map (·.shape) = qs.map (·.shape))
    (hp : ∀ p ∈ ps, (r.property? p.name).map (·.id) = some p.id ∧ p.HasSlot)
    (hq : ∀ q ∈ qs, (r.property? q.name).map (·.id) = some q.id ∧ q.HasSlot) : ps = qs := by
  induction ps generalizing qs with
  | nil => exact (List.map_eq_nil_iff.mp hshapes.symm).symm
  | cons p ps ih =>
      cases qs with
      | nil => cases hshapes
      | cons q qs =>
          obtain ⟨hshape, hrest⟩ := List.cons.inj hshapes
          obtain ⟨⟨hpid, hpslot⟩, hps⟩ := List.forall_mem_cons.mp hp
          obtain ⟨⟨hqid, hqslot⟩, hqs⟩ := List.forall_mem_cons.mp hq
          have hname : p.name = q.name := congrArg PropertyShape.name hshape
          have hid : p.id = q.id := by
            rw [hname, hqid, Option.some.injEq] at hpid
            exact hpid.symm
          rw [Property.ext_of_hasSlot hpslot hqslot hshape hid, ih hrest hps hqs]

/-- A shape and a record determine the entity. -/
theorem Entity.Realizes.unique {e e' : Entity} {shape : EntityShape} {r : EntityRecord}
    (h : e.Realizes shape r) (h' : e'.Realizes shape r) : e = e' := by
  have hproperties : e.properties = e'.properties :=
    properties_eq (h.shapes.trans h'.shapes.symm) (fun p hp => ⟨h.ids p hp, h.slots p hp⟩)
      fun q hq => ⟨h'.ids q hq, h'.slots q hq⟩
  have hname := h.name.trans h'.name.symm
  have hid := h.id.trans h'.id.symm
  have hindex := h.idIndex.trans h'.idIndex.symm
  have hlast := Option.some.inj (h.last.symm.trans h'.last)
  cases e
  cases e'
  cases hname
  cases hid
  cases hproperties
  cases hindex
  cases hlast
  rfl

/-- Lists that realize the same shapes with records of one snapshot are the same. -/
theorem entities_eq_of_realizes {s : Snapshot} (hnames : s.entityNames.Nodup)
    {shapes : List EntityShape} {entities entities' : List Entity}
    (h : List.Forall₂ (fun shape (e : Entity) => ∃ r ∈ s.entities, e.Realizes shape r)
      shapes entities)
    (h' : List.Forall₂ (fun shape (e : Entity) => ∃ r ∈ s.entities, e.Realizes shape r)
      shapes entities') : entities = entities' := by
  refine List.right_unique_forall₂' ?_ h h'
  rintro shape e e' ⟨r, hr, hrealizes⟩ ⟨r', hr', hrealizes'⟩
  obtain rfl : r = r' := List.inj_on_of_nodup_map hnames hr hr'
    (hrealizes.recordName.trans hrealizes'.recordName.symm)
  exact hrealizes.unique hrealizes'

/-! ## Runs -/

section Derivation

variable {nameSpace : String} {declarations : List Declaration} {previous merged : Snapshot}
  {options : DeriveOptions} {model : Model}

/-- A run that leaves an accepted snapshot has given every new entity properties of different
names. -/
theorem nodup_storedNames_of_validate
    (h : (deriveModel nameSpace declarations previous options).result = .ok (model, merged))
    (hvalid : merged.validate = .ok ()) :
    ∀ d ∈ declarations, d.name ∉ previous.entityNames → d.storedNames.Nodup := by
  have hmerged := Snapshot.validate_eq_ok_iff.mp hvalid
  have hall := forall₂_of_deriveModel (P := fun outline _ =>
    outline.name ∉ previous.entityNames → outline.properties.Nodup) h (by
      intro b shape entity hb hassign hkept hnew
      obtain ⟨-, r, hr, hname, hnames⟩ := Assigner.placedApart_of_assign hb hassign hnew
      rw [← hnames]
      exact (hmerged.entities r (hkept r hr hname)).names)
  intro d hd
  obtain ⟨-, -, hd⟩ := exists_mem_of_forall₂ hall hd
  exact hd

namespace Derives

variable (h : Derives nameSpace declarations previous options model merged)
include h

/-- The records that a run leaves have slots for what it declared. -/
theorem slotted : merged.Slotted (declarations.map (·.outline)) := by
  intro outline ho n hn
  obtain ⟨r, hr, hname, hrecord⟩ := h.settled outline ho
  obtain ⟨d, hd, rfl⟩ := List.mem_map.mp ho
  have hfound : merged.entity? d.outline.name = some r :=
    (Snapshot.entity?_eq_some_iff h.unambiguous.names).mpr ⟨hr, hname⟩
  -- nothing is added, so it is the number of a recorded property
  rw [Snapshot.propertyNumbers_of_entity? hfound, EntityRecord.declaredNumbers,
    EntityRecord.addedNumbers, hrecord.newNames_eq] at hn
  change n ∈ _ ++ [] at hn
  rw [List.append_nil] at hn
  obtain ⟨p, hp, rfl⟩ := List.mem_map.mp hn
  obtain ⟨hpmem, hstored⟩ := List.mem_filter.mp hp
  have hdeclared : p.name ∈ d.outline.properties := by simpa using hstored
  exact h.id_le_maxPropertyId hd hr hname hpmem hdeclared

/-- After a run no declared entity is new. -/
theorem mem_entityNames {d : Declaration} (hd : d ∈ declarations) :
    d.name ∈ merged.entityNames := by
  obtain ⟨r, hr, hname, -⟩ := h.settled d.outline (List.mem_map_of_mem hd)
  have hrecorded : r.name ∈ merged.entityNames := List.mem_map_of_mem hr
  rwa [hname] at hrecorded

/-- Merging the declarations of a run into the snapshot it left changes nothing. -/
theorem merge_again (nameSpace' : String) (strategy' : IdStrategy) :
    merged.merge nameSpace' ⟨strategy', options.source⟩ (declarations.map (·.outline)) = merged := by
  have hdistinct := h.distinct
  rw [h.eq_merge]
  exact Snapshot.merge_merge (by rwa [List.map_map]) nameSpace' strategy'

/-- A run on the snapshot left by one comes out: nothing that could be refused is asked for. -/
theorem exists_again (hvalid : merged.validate = .ok ()) (nameSpace' : String)
    (strategy' : IdStrategy) :
    ∃ out, (deriveModel nameSpace' declarations merged ⟨strategy', options.source⟩).result =
      .ok out := by
  obtain ⟨shapes, hbuilt, -⟩ := h.realized
  obtain ⟨model', merged', hresult⟩ := (exists_deriveModel_iff hvalid hbuilt h.distinct
    fun d hd hnew => absurd (h.mem_entityNames hd) hnew).mpr
      ⟨h.settled.admits h.unambiguous.names nameSpace' ⟨strategy', options.source⟩, h.slotted⟩
  exact ⟨(model', merged'), hresult⟩

/-- Runs of the same declarations that leave the same snapshot have the same entities. -/
theorem entities_eq {nameSpace' : String} {previous' : Snapshot} {options' : DeriveOptions}
    {model' : Model} (h' : Derives nameSpace' declarations previous' options' model' merged) :
    model'.entities = model.entities := by
  -- both runs have built the same shapes
  obtain ⟨shapes, hbuilt, hrealized⟩ := h.realized
  obtain ⟨shapes', hbuilt', hrealized'⟩ := h'.realized
  obtain rfl : shapes = shapes' := Except.ok.inj (hbuilt.symm.trans hbuilt')
  exact entities_eq_of_realizes h.unambiguous.names hrealized' hrealized

/-- A run on the snapshot left by one leaves that snapshot and has the same entities. -/
theorem eq_of_again {nameSpace' : String} {strategy' : IdStrategy} {model' : Model}
    {merged' : Snapshot}
    (hagain : (deriveModel nameSpace' declarations merged ⟨strategy', options.source⟩).result =
      .ok (model', merged')) :
    model' = ⟨nameSpace', model.entities⟩ ∧ merged' = merged := by
  have h' := deriveModel_of_ok_of_new
    (fun d hd hnew => absurd (h.mem_entityNames hd) hnew) hagain
  have hmerged : merged' = merged := h'.eq_merge.trans (h.merge_again nameSpace' strategy')
  have hentities := h.entities_eq (hmerged ▸ h')
  have hunder := h'.under
  cases model'
  cases hentities
  cases hunder
  exact ⟨rfl, hmerged⟩

end Derives

/-- Running the same declarations of the same unit on what a run left, in any name space and under
any strategy, gives the same entities and leaves the same snapshot, if that is accepted. A run on
files then has no model file to write. -/
theorem deriveModel_idempotent
    (h : (deriveModel nameSpace declarations previous options).result = .ok (model, merged))
    (hvalid : merged.validate = .ok ()) :
    (∀ nameSpace' strategy', (deriveModel nameSpace' declarations merged
        ⟨strategy', options.source⟩).result = .ok (⟨nameSpace', model.entities⟩, merged)) ∧
    ∀ (run : Options) (disk : Disk), run.sourceUnit = options.source →
      disk.contains run.modelPath = true →
      ∃ generated, (run.derive disk declarations merged).result = .ok generated ∧
        generated.model.entities = model.entities ∧ generated.snapshot = merged ∧
        run.modelOutput generated = none := by
  have hderives := deriveModel_of_ok_of_new (nodup_storedNames_of_validate h hvalid) h
  have hagain : ∀ nameSpace' strategy', (deriveModel nameSpace' declarations merged
      ⟨strategy', options.source⟩).result = .ok (⟨nameSpace', model.entities⟩, merged) := by
    intro nameSpace' strategy'
    obtain ⟨⟨model', merged'⟩, hresult⟩ := hderives.exists_again hvalid nameSpace' strategy'
    obtain ⟨rfl, rfl⟩ := hderives.eq_of_again hresult
    exact hresult
  refine ⟨hagain, fun run disk hunit hcontains => ?_⟩
  have hresult := hagain run.effectiveNameSpace run.strategy
  rw [← hunit] at hresult
  have hwritten : (merged != merged || !disk.contains run.modelPath) = false := by
    rw [hcontains, bne_self_eq_false]
    rfl
  refine ⟨⟨⟨run.effectiveNameSpace, model.entities⟩,
    Binding.ofModel ⟨run.effectiveNameSpace, model.entities⟩ run.sourceUnit, merged, false⟩,
    ?_, rfl, rfl, rfl⟩
  unfold Options.derive
  simp only [hresult, hwritten]

end Derivation

/-- A run that revives, retires and mints in order, and then one in another name space that would
hash. -/
theorem deriveModel_idempotent_mixed :
    ∃ model merged,
      (deriveModel "app" mixedDeclarations mixedSnapshot ⟨.sequential, none⟩).result =
        .ok (model, merged) ∧
      merged.validate = .ok () ∧ merged ≠ mixedSnapshot ∧
      (deriveModel "other" mixedDeclarations merged ⟨.hashed, none⟩).result =
        .ok (⟨"other", model.entities⟩, merged) := by
  obtain ⟨⟨model, merged⟩, h⟩ := exists_eq_ok (x := (deriveModel "app" mixedDeclarations
    mixedSnapshot ⟨.sequential, none⟩).result) (by decide +kernel)
  have hmerged := (deriveModel_of_ok_of_new (by decide +kernel) h).eq_merge
  have hvalid : merged.validate = .ok () := by
    rw [hmerged]
    decide +kernel
  refine ⟨model, merged, h, hvalid, ?_, (deriveModel_idempotent h hvalid).1 "other" .hashed⟩
  rw [hmerged]
  decide +kernel

end RecordSchema
