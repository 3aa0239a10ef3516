/-
What an entity gets, whatever else is declared.

An assigner looks at three things when it identifies an entity: the record of its name, the numeric
IDs and UIDs that are taken, and, where it counts, the highest ID. Under the hashed strategy it does
not count, so apart from what is taken an entity gets its identifiers from its own record and its
own shape: two assigners that have the same record for it give it the same, if both give it
anything. What a whole run gives is then what each shape is given alone, and the run comes out
exactly if each shape comes out alone and what they all ask for is new.

Nothing here asks the properties of a new entity to have different names, so an assigner is only
known to be coherent, not sound.
-/
import Mathlib.Data.List.Flatten
import Mathlib.Data.List.Perm.Subperm
import RecordSchema.Proofs.Assigner.Frame
import RecordSchema.Proofs.HashedMerge

set_option autoImplicit false

namespace RecordSchema

/-! ## What an entity gets -/

namespace Snapshot

variable {s t : Snapshot} {nameSpace : String} {options : DeriveOptions} {outline : Outline}

/-- Where the merge of an outline fits, its numbers fit their words. -/
theorem Fits.wordSized (hnames : s.entityNames.Nodup)
    (h : s.Fits nameSpace options [outline]) : s.WordSized [outline] := by
  intro o ho n hn
  obtain rfl := List.mem_singleton.mp ho
  cases hfound : s.entity? o.name with
  | some r =>
      obtain ⟨hr, hname⟩ := (entity?_eq_some_iff hnames).mp hfound
      rw [propertyNumbers_of_entity? hfound, EntityRecord.declaredNumbers, List.mem_append] at hn
      rcases hn with hold | hadded
      · obtain ⟨p, -, rfl⟩ := List.mem_map.mp hold
        exact Nat.le_sub_one_of_lt p.id.id.toNat_lt_size
      · obtain ⟨k, hk, rfl⟩ := EntityRecord.mem_addedNumbers_iff.mp hadded
        exact Nat.le_sub_one_of_lt (h.renewed r hr o ho hname.symm k hk).1
  | none =>
      have hnew := entity?_eq_none_iff.mp hfound
      rw [propertyNumbers_of_notMem hnew, List.mem_range] at hn
      have hlt := (h.fresh o (by
        rw [newOutlines_cons_of_notMem hnew]
        exact List.mem_cons_self) n hn).1
      rw [Nat.zero_add] at hlt
      exact Nat.le_sub_one_of_lt hlt

/-- Whether the numbers of an entity fit depends on its record alone. -/
theorem wordSized_congr (h : t.unmarked? outline.name = s.unmarked? outline.name) :
    t.WordSized [outline] ↔ s.WordSized [outline] := by
  unfold WordSized NumbersUpTo
  rw [List.forall_mem_singleton, List.forall_mem_singleton, propertyNumbers_congr h]

/-- What is asked for is new to fewer records as well. -/
theorem CollisionFree.subperm {outlines more : List Outline} (h : s.CollisionFree nameSpace more)
    (hsub : outlines.Subperm more) : s.CollisionFree nameSpace outlines := by
  obtain ⟨middle, hperm, hsublist⟩ := hsub
  have hids : (s.newOutlines outlines).Subperm (s.newOutlines more) :=
    ⟨s.newOutlines middle, hperm.filter _, hsublist.filter _⟩
  have huids : (outlines.flatMap (s.demandedUids nameSpace)).Subperm
      (more.flatMap (s.demandedUids nameSpace)) :=
    ⟨_, hperm.flatMap_right _, hsublist.flatMap _⟩
  refine ⟨h.ids.subperm ?_, h.uids.subperm huids, fun uid huid => ?_⟩
  · obtain ⟨l, hl, hl'⟩ := hids
    exact ⟨_, hl.map _, hl'.map _⟩
  · exact h.range uid (List.Subperm.subset huids huid)

/-- What is asked for is new to each outline of a list. -/
theorem CollisionFree.of_mem {outlines : List Outline} (h : s.CollisionFree nameSpace outlines)
    (ho : outline ∈ outlines) : s.CollisionFree nameSpace [outline] :=
  h.subperm ⟨[outline], .refl _, List.singleton_sublist.mpr ho⟩

/-- The record of an entity after it was declared, in two snapshots that have the same record for it
before. -/
theorem entity?_extend_congr {source : Option String}
    (h : t.unmarked? outline.name = s.unmarked? outline.name) :
    (t.extend nameSpace ⟨.hashed, source⟩ [outline]).entity? outline.name =
      (s.extend nameSpace ⟨.hashed, source⟩ [outline]).entity? outline.name := by
  have hmatch : ∀ s : Snapshot,
      (s.extend nameSpace ⟨.hashed, source⟩ [outline]).entity? outline.name =
        some ((s.unmarked? outline.name).elim
          (.fresh source outline (s.issuedId nameSpace .hashed 0 outline.name))
          (·.declared source outline.properties)) := by
    intro s
    cases hfound : s.entity? outline.name with
    | some r =>
        rw [entity?_extend_of_entity? hfound, unmarked?_of_entity? hfound]
        rfl
    | none =>
        have hnew := entity?_eq_none_iff.mp hfound
        rw [entity?_extend_of_notMem hnew, unmarked?_of_notMem hnew]
        rfl
  rw [hmatch, hmatch, h]
  rfl

/-- The identifiers that an entity gets: those that its record has for it in the end, or, if it has
none, the one that is issued to its name and those that count its properties. -/
def Answers (s : Snapshot) (nameSpace : String) (options : DeriveOptions) (outline : Outline)
    (id : IdUid) (ids : List IdUid) : Prop :=
  match s.unmarked? outline.name with
  | some r => id = r.id ∧ outline.properties.map (fun name =>
      ((r.declared options.source outline.properties).property? name).map (·.id)) = ids.map some
  | none => id = s.issuedId nameSpace options.strategy 0 outline.name ∧
      ids = (PropertyRecord.numbered id.uid 0 outline.properties).map (·.id)

/-- Under the hashed strategy the record of an entity is all that its identifiers depend on. -/
theorem Answers.unique {source : Option String} {id id' : IdUid} {ids ids' : List IdUid}
    (h : s.Answers nameSpace ⟨.hashed, source⟩ outline id ids)
    (h' : t.Answers nameSpace ⟨.hashed, source⟩ outline id' ids')
    (hsame : t.unmarked? outline.name = s.unmarked? outline.name) : id = id' ∧ ids = ids' := by
  unfold Answers at h h'
  rw [hsame] at h'
  cases hfound : s.unmarked? outline.name with
  | some r =>
      rw [hfound] at h h'
      obtain ⟨rfl, hids⟩ := h
      obtain ⟨rfl, hids'⟩ := h'
      exact ⟨rfl, List.map_injective_iff.mpr (Option.some_injective _) (hids.symm.trans hids')⟩
  | none =>
      rw [hfound] at h h'
      obtain ⟨rfl, rfl⟩ := h
      obtain ⟨rfl, rfl⟩ := h'
      exact ⟨rfl, rfl⟩

end Snapshot

namespace Assigner

/-! ## One entity -/

/-- What identifying an entity without a refusal has done, whether or not its properties have
different names. -/
structure Grows (a : Assigner) (outline : Outline) (id : IdUid) (ids : List IdUid)
    (after : Assigner) : Prop where
  coherent : after.Coherent
  fits : a.snapshot.Fits a.nameSpace a.options [outline]
  admits : a.snapshot.Admits a.nameSpace a.options [outline]
  snapshot : after.snapshot = a.snapshot.extend a.nameSpace a.options [outline]
  rest : after = { a with ledger := after.ledger, snapshot := after.snapshot }
  answers : a.snapshot.Answers a.nameSpace a.options outline id ids

section One

variable {a : Assigner} {outline : Outline} {r : EntityRecord} {id : IdUid} {ids : List IdUid}

/-- Words are below the bound of their size. -/
private theorem forall_lt_of_map {uids : List Nat} {words : List UInt64}
    (h : words.map (·.toNat) = uids) : ∀ uid ∈ uids, uid < UInt64.size := by
  intro uid huid
  rw [← h] at huid
  obtain ⟨word, -, rfl⟩ := List.mem_map.mp huid
  exact word.toNat_lt_size

/-- A recorded entity that is renewed has got the UIDs that it asked for. -/
private theorem grows_of_reuse (ha : a.Coherent) {i : Nat}
    (hr : a.snapshot.entities.find? (·.name = outline.name) = some r)
    (hi : a.snapshot.entities.findIdx? (·.name = outline.name) = some i)
    (hrecord : r.propertyNames.Nodup) (hroom : r.HasRoom outline.properties)
    (h : (a.reuse i r outline.properties).result = .ok (id, ids)) :
    a.Grows outline id ids (a.reuse i r outline.properties).state := by
  obtain ⟨hmem, hname⟩ := (find?_key_eq_some_iff ha.names).mp hr
  have hfound : a.snapshot.entity? outline.name = some r := hr
  obtain ⟨rfl, hrun⟩ := reuse_of_ok h
  obtain ⟨hnum, hnew, hdeclared, hledger, hids⟩ := Renewal.run_of_ok hrecord hroom hrun
  have hsnapshot := snapshot_reuse ha.names hr hi hdeclared
  have hnone : a.snapshot.newOutlines [outline] = [] :=
    Snapshot.newOutlines_cons_of_mem (hname ▸ List.mem_map_of_mem hmem) []
  have huids := Snapshot.map_uid_added_eq_demandedUids a.nameSpace hfound hnum
  refine ⟨ha.extend_of_mem hmem hname hsnapshot hledger,
    Snapshot.Fits.singleton_of_mem _ _ ha.names hmem hname hnum, ?_, hsnapshot, rfl, ?_⟩
  · refine ⟨?_, ?_, ?_, ?_⟩
    · rw [Snapshot.newRecords, hnone]
      exact List.forall_mem_nil _
    · rw [Snapshot.newRecords, hnone]
      exact newTo_nil _
    · rw [List.flatMap_singleton, ← huids]
      exact ha.newTo_iff.mp hnew
    · rw [List.flatMap_singleton]
      exact forall_lt_of_map huids
  · unfold Snapshot.Answers
    rw [Snapshot.unmarked?_of_entity? (s := a.snapshot) hfound]
    exact ⟨rfl, hids⟩

/-- An entity that is minted has got the numeric ID and the UIDs that it asked for. -/
private theorem grows_of_mint (ha : a.Coherent) (hname : outline.name ∉ a.snapshot.entityNames)
    (h : (a.mint outline.name outline.properties).result = .ok (id, ids)) :
    a.Grows outline id ids (a.mint outline.name outline.properties).state := by
  have hmints := mint_of_ok h
  have hsnapshot := hmints.snapshot hname
  have hnum := hmints.numberable
  have huid : id.uid = entityUid (Hash.entityHash a.nameSpace outline.name) := by
    rw [hmints.issued, Snapshot.uid_issuedId]
  have huids := Snapshot.map_uids_fresh_eq_demandedUids a.source hname huid hnum
  rw [huid] at hnum
  have hid := hmints.newId
  have hrange := hmints.range
  rw [hmints.issued] at hid hrange
  refine ⟨ha.extend_of_notMem hname hmints hsnapshot,
    Snapshot.Fits.singleton_of_notMem _ _ hname hnum, ⟨?_, ?_, ?_, ?_⟩, hsnapshot, ?_, ?_⟩
  · rw [Snapshot.newRecords_singleton_of_notMem _ _ hname, List.map_singleton,
      List.forall_mem_singleton]
    exact hrange
  · rw [Snapshot.newRecords_singleton_of_notMem _ _ hname, List.map_singleton,
      newTo_singleton_iff]
    exact hid
  · rw [List.flatMap_singleton, ← huids]
    exact ha.newTo_iff.mp hmints.newTo
  · rw [List.flatMap_singleton]
    exact forall_lt_of_map huids
  · rw [hmints.state]
  · unfold Snapshot.Answers
    rw [Snapshot.unmarked?_of_notMem hname]
    exact ⟨hmints.issued, hmints.ids⟩

/-- An entity that is identified has got what it asked for, and extends the snapshot by its
outline. -/
theorem grows_of_identify (ha : a.Coherent)
    (hrecord : ∀ r ∈ a.snapshot.entities, r.name = outline.name →
      r.propertyNames.Nodup ∧ r.HasRoom outline.properties)
    (h : (a.identify outline.name outline.properties).result = .ok (id, ids)) :
    a.Grows outline id ids (a.identify outline.name outline.properties).state := by
  by_cases hmem : outline.name ∈ a.snapshot.entityNames
  · obtain ⟨i, r, hr, hi, heq⟩ := identify_of_mem hmem outline.properties
    obtain ⟨hrmem, hrname⟩ := (find?_key_eq_some_iff ha.names).mp hr
    obtain ⟨hnodup, hroom⟩ := hrecord r hrmem hrname
    rw [heq] at h ⊢
    exact grows_of_reuse ha hr hi hnodup hroom h
  · rw [identify_of_notMem hmem] at h ⊢
    exact grows_of_mint ha hmem h

end One

/-! ## One shape -/

section Shape

variable {a b : Assigner} {shape : EntityShape} {entity : Entity}

/-- A shape that is assigned has got what it asked for, and its entity is completed from that. -/
theorem grows_of_assign (ha : a.Coherent)
    (hrecord : ∀ r ∈ a.snapshot.entities, r.name = shape.name → r.propertyNames.Nodup)
    (h : (a.assign shape).result = .ok entity) :
    ∃ id ids, ({ a with seen := shape.name :: a.seen } : Assigner).Grows shape.outline id ids
        (a.assign shape).state ∧
      (a.assign shape).state.complete shape id ids = .ok entity := by
  obtain ⟨-, -, id, ids, hidentify, hcomplete, hstate⟩ := assign_eq_ok h
  obtain ⟨id', ids', hidentify', -, -, -, hslots⟩ := laidOut_of_assign h
  obtain ⟨rfl, rfl⟩ : id = id' ∧ ids = ids' := by
    rw [hidentify, Except.ok.injEq, Prod.mk.injEq] at hidentify'
    exact hidentify'
  refine ⟨id, ids, ?_, hcomplete⟩
  have hdeclared : ({ a with seen := shape.name :: a.seen } : Assigner).Coherent :=
    ⟨ha.names, ha.ledger⟩
  rw [hstate]
  refine grows_of_identify hdeclared (fun r hr hname => ⟨hrecord r hr hname, ?_⟩) hidentify
  -- a renewal whose answer has only IDs with a slot had a word for each of them
  have hmem : shape.name ∈ a.snapshot.entityNames := List.mem_map.mpr ⟨r, hr, hname⟩
  obtain ⟨i, r', hr', -, heq⟩ := identify_of_mem
    (a := { a with seen := shape.name :: a.seen }) hmem (shape.properties.map (·.name))
  obtain rfl : r' = r :=
    Option.some.inj (hr'.symm.trans ((find?_key_eq_some_iff ha.names).mpr ⟨hr, hname⟩))
  rw [heq] at hidentify
  exact Renewal.hasRoom_of_run (hrecord r' hr hname) (reuse_of_ok hidentify).2 hslots

/-- A shape that is not empty and new to a run is what is completed from its identifiers. -/
theorem assign_of_identify (hne : shape.properties ≠ []) (hseen : shape.name ∉ a.seen)
    {id : IdUid} {ids : List IdUid}
    (h : (({ a with seen := shape.name :: a.seen } : Assigner).identify shape.name
      (shape.properties.map (·.name))).result = .ok (id, ids)) :
    (a.assign shape).result = (a.assign shape).state.complete shape id ids ∧
      (a.assign shape).state = (({ a with seen := shape.name :: a.seen } : Assigner).identify
        shape.name (shape.properties.map (·.name))).state := by
  have hempty : ¬shape.properties.isEmpty = true := by simpa using hne
  have hnew : ¬a.seen.contains shape.name = true := by simpa using hseen
  unfold assign
  rw [if_neg hempty, if_neg hnew]
  dsimp only
  rw [h]
  exact ⟨rfl, rfl⟩

/-- Completing an entity takes no more of the assigner than its record. -/
theorem complete_congr (h : b.snapshot.entity? shape.name = a.snapshot.entity? shape.name)
    (id : IdUid) (ids : List IdUid) : b.complete shape id ids = a.complete shape id ids := by
  unfold complete
  rw [h]

/-- A shape gets the same from two assigners with the same settings that have the same record for
it, whatever its marks, if what it asks for is free in the second as well. -/
theorem assign_of_alike (ha : a.Coherent) (hb : b.Coherent) (hnameSpace : b.nameSpace = a.nameSpace)
    (hoptions : b.options = a.options) (hhashed : a.strategy = .hashed)
    (hrecord : ∀ r ∈ a.snapshot.entities, r.name = shape.name → r.propertyNames.Nodup)
    (hsame : b.snapshot.unmarked? shape.name = a.snapshot.unmarked? shape.name)
    (hseen : shape.name ∉ b.seen)
    (hadmits : b.snapshot.Admits b.nameSpace b.options [shape.outline])
    (h : (a.assign shape).result = .ok entity) : (b.assign shape).result = .ok entity := by
  have hne := (assign_eq_ok h).1
  obtain ⟨id, ids, hgrows, hcomplete⟩ := grows_of_assign ha hrecord h
  have hrecord' : ∀ r ∈ b.snapshot.entities, r.name = shape.name → r.propertyNames.Nodup := by
    intro r hr hname
    obtain ⟨old, hold, hmarks⟩ := Snapshot.exists_entity?_of_unmarked? hsame
      ((Snapshot.entity?_eq_some_iff hb.names).mpr ⟨hr, hname⟩)
    obtain ⟨hmem, holdName⟩ := (Snapshot.entity?_eq_some_iff ha.names).mp hold
    have hnames : old.unmarked.propertyNames = r.unmarked.propertyNames := by rw [hmarks]
    change old.propertyNames = r.propertyNames at hnames
    exact hnames ▸ hrecord old hmem holdName
  have hwords : b.snapshot.WordSized [shape.outline] :=
    (Snapshot.wordSized_congr hsame).mpr (hgrows.fits.wordSized ha.names)
  have hdeclared : ({ b with seen := shape.name :: b.seen } : Assigner).Coherent :=
    ⟨hb.names, hb.ledger⟩
  obtain ⟨⟨id', ids'⟩, hidentify⟩ := exists_identify_ok hdeclared hrecord' hadmits hwords
  obtain ⟨hresult, hstate⟩ := assign_of_identify hne hseen hidentify
  have hgrows' := grows_of_identify hdeclared (fun r hr hname => ⟨hrecord' r hr hname,
    hwords.hasRoom ((Snapshot.entity?_eq_some_iff hb.names).mpr ⟨hr, hname⟩)⟩) hidentify
  -- the settings of both are those of the first, under the hashed strategy
  have hsettings : b.options = ⟨.hashed, a.source⟩ := by rw [hoptions, options, hhashed]
  have hsettings' : a.options = ⟨.hashed, a.source⟩ := hoptions.symm.trans hsettings
  have hanswers : a.snapshot.Answers a.nameSpace a.options shape.outline id ids := hgrows.answers
  have hanswers' : b.snapshot.Answers b.nameSpace b.options shape.outline id' ids' :=
    hgrows'.answers
  have hsnapshot : (a.assign shape).state.snapshot =
    a.snapshot.extend a.nameSpace a.options [shape.outline] := hgrows.snapshot
  have hsnapshot' : (b.assign shape).state.snapshot =
      b.snapshot.extend b.nameSpace b.options [shape.outline] := hstate ▸ hgrows'.snapshot
  rw [hsettings'] at hanswers hsnapshot
  rw [hnameSpace, hsettings] at hanswers' hsnapshot'
  obtain ⟨rfl, rfl⟩ := hanswers.unique hanswers' hsame
  rw [hresult, ← hcomplete]
  refine complete_congr ?_ id ids
  rw [hsnapshot, hsnapshot']
  exact Snapshot.entity?_extend_congr hsame

end Shape

/-! ## One shape after the other -/

/-- An assigner after one shape: the settings are the same, one more name is declared, and the
snapshot is extended by the outline of the shape, whose demand was met. -/
structure Follows (a : Assigner) (shape : EntityShape) (after : Assigner) : Prop where
  coherent : after.Coherent
  nameSpace : after.nameSpace = a.nameSpace
  options : after.options = a.options
  seen : after.seen = shape.name :: a.seen
  fits : a.snapshot.Fits a.nameSpace a.options [shape.outline]
  admits : a.snapshot.Admits a.nameSpace a.options [shape.outline]
  snapshot : after.snapshot = a.snapshot.extend a.nameSpace a.options [shape.outline]

section Follows

variable {a after : Assigner} {shape : EntityShape} {shapes : List EntityShape} {entity : Entity}

/-- An assigner follows one that has assigned a shape. -/
theorem follows_of_assign (ha : a.Coherent)
    (hrecord : ∀ r ∈ a.snapshot.entities, r.name = shape.name → r.propertyNames.Nodup)
    (h : (a.assign shape).result = .ok entity) : a.Follows shape (a.assign shape).state := by
  obtain ⟨id, ids, hgrows, -⟩ := grows_of_assign ha hrecord h
  refine ⟨hgrows.coherent, ?_, ?_, ?_, hgrows.fits, hgrows.admits, hgrows.snapshot⟩
  · rw [hgrows.rest]
  · rw [hgrows.rest]
    rfl
  · rw [hgrows.rest]

/-- The outlines of shapes with other names have other names. -/
private theorem name_notMem_outlines (hne : ∀ s ∈ shapes, s.name ≠ shape.name) :
    shape.outline.name ∉ (shapes.map (·.outline)).map (·.name) := by
  rw [List.map_map]
  intro hmem
  obtain ⟨s, hs, hname⟩ := List.mem_map.mp hmem
  exact hne s hs hname

namespace Follows

variable (h : a.Follows shape after)
include h

theorem source : after.source = a.source := congrArg DeriveOptions.source h.options

/-- The strategy stays what it was. -/
theorem hashed (hhashed : a.strategy = .hashed) : after.strategy = .hashed :=
  (congrArg DeriveOptions.strategy h.options).trans hhashed

/-- Every other name has the record that it had. -/
theorem entity?_of_ne {name : String} (hne : name ≠ shape.name) :
    after.snapshot.entity? name = a.snapshot.entity? name := by
  rw [h.snapshot]
  exact Snapshot.entity?_extend_of_ne _ _ hne

/-- The properties of a record of another name have different names if they had before. -/
theorem nodup_propertyNames (ha : a.Coherent) {name : String} (hne : name ≠ shape.name)
    (hrecord : ∀ r ∈ a.snapshot.entities, r.name = name → r.propertyNames.Nodup) :
    ∀ r ∈ after.snapshot.entities, r.name = name → r.propertyNames.Nodup := by
  intro r hr hname
  have hfound := (Snapshot.entity?_eq_some_iff h.coherent.names).mpr ⟨hr, hname⟩
  rw [h.entity?_of_ne hne] at hfound
  exact hrecord r ((Snapshot.entity?_eq_some_iff ha.names).mp hfound).1 hname

/-- The demand of all shapes is met before the first exactly if that of the others is met after
it. -/
theorem admits_iff (ha : a.Coherent) (hne : ∀ s ∈ shapes, s.name ≠ shape.name) :
    a.snapshot.Admits a.nameSpace a.options ((shape :: shapes).map (·.outline)) ↔
      after.snapshot.Admits after.nameSpace after.options (shapes.map (·.outline)) := by
  rw [h.nameSpace, h.options, h.snapshot, List.map_cons,
    Snapshot.admits_cons_iff ha.names (name_notMem_outlines hne) h.fits]
  exact and_iff_right h.admits

/-- Extending by the others afterwards is extending by all shapes. -/
theorem extend_eq (hne : ∀ s ∈ shapes, s.name ≠ shape.name) :
    after.snapshot.extend after.nameSpace after.options (shapes.map (·.outline)) =
      a.snapshot.extend a.nameSpace a.options ((shape :: shapes).map (·.outline)) := by
  rw [h.nameSpace, h.options, h.snapshot, List.map_cons]
  exact Snapshot.extend_cons _ _ (name_notMem_outlines hne)

end Follows

end Follows

/-! ## All shapes -/

section Shapes

variable {a b : Assigner} {shapes : List EntityShape} {entities : List Entity}

/-- A hashed demand that is met for a list is met for each of its outlines. -/
theorem admits_of_mem (hhashed : a.strategy = .hashed) {shape : EntityShape}
    (h : a.snapshot.Admits a.nameSpace a.options (shapes.map (·.outline))) (hs : shape ∈ shapes) :
    a.snapshot.Admits a.nameSpace a.options [shape.outline] := by
  have hoptions : a.options = ⟨.hashed, a.source⟩ := by rw [options, hhashed]
  rw [hoptions, Snapshot.admits_hashed_iff] at h ⊢
  exact h.of_mem (List.mem_map_of_mem hs)

/-- What shapes get alone they get alone from another assigner with the same settings that has the
same records for them, if what they ask for is free there as well. -/
theorem alone_of_alike (ha : a.Coherent) (hb : b.Coherent) (hnameSpace : b.nameSpace = a.nameSpace)
    (hoptions : b.options = a.options) (hhashed : a.strategy = .hashed)
    (hrecord : ∀ shape ∈ shapes, ∀ r ∈ a.snapshot.entities, r.name = shape.name →
      r.propertyNames.Nodup)
    (hsame : ∀ shape ∈ shapes, b.snapshot.entity? shape.name = a.snapshot.entity? shape.name)
    (hseen : ∀ shape ∈ shapes, shape.name ∉ b.seen)
    (hadmits : ∀ shape ∈ shapes, b.snapshot.Admits b.nameSpace b.options [shape.outline])
    (h : shapes.map (fun shape => (a.assign shape).result) = entities.map .ok) :
    shapes.map (fun shape => (b.assign shape).result) = entities.map .ok := by
  rw [← h]
  refine List.map_congr_left fun shape hs => ?_
  obtain ⟨entity, -, hentity⟩ := exists_ok_of_map_eq_map_ok h hs
  have hmarks : b.snapshot.unmarked? shape.name = a.snapshot.unmarked? shape.name :=
    congrArg (Option.map EntityRecord.unmarked) (hsame shape hs)
  rw [hentity]
  exact assign_of_alike ha hb hnameSpace hoptions hhashed (hrecord shape hs) hmarks
    (hseen shape hs) (hadmits shape hs) hentity

/-- A name that is new after the first shape is not that of the shape. -/
theorem ne_of_newTo {shape : EntityShape}
    (h : NewTo a.seen ((shape :: shapes).map (·.name))) :
    ∀ other ∈ shapes, other.name ≠ shape.name := by
  rw [List.map_cons, newTo_cons_iff] at h
  intro other hother hc
  exact h.2.2 other.name (List.mem_map_of_mem hother) (hc ▸ List.mem_cons_self)

/-- What a hashed run has done that was not refused. Each of its entities is the one that its shape
gets alone. -/
structure Covers (a : Assigner) (shapes : List EntityShape) (entities : List Entity)
    (after : Assigner) : Prop where
  admits : a.snapshot.Admits a.nameSpace a.options (shapes.map (·.outline))
  alone : shapes.map (fun shape => (a.assign shape).result) = entities.map .ok
  snapshot : after.snapshot = a.snapshot.extend a.nameSpace a.options (shapes.map (·.outline))
  seen : after.seen = (shapes.map (·.name)).reverse ++ a.seen
  source : after.source = a.source

/-- A hashed run that comes out gives each shape what it gets alone, and what they all ask for is
new. -/
theorem covers_of_assignAll (ha : a.Coherent) (hhashed : a.strategy = .hashed)
    (hrecord : ∀ shape ∈ shapes, ∀ r ∈ a.snapshot.entities, r.name = shape.name →
      r.propertyNames.Nodup)
    (h : (a.assignAll shapes).result = .ok entities) :
    a.Covers shapes entities (a.assignAll shapes).state := by
  induction shapes generalizing a entities with
  | nil =>
      cases h
      exact ⟨(Snapshot.accounts_nil ()).1, rfl, (Snapshot.extend_nil _ _ _).symm, rfl, rfl⟩
  | cons shape shapes ih =>
      have hnewTo := newTo_of_assignAll h
      have hne := ne_of_newTo hnewTo
      obtain ⟨hrecord₁, hrecords⟩ := List.forall_mem_cons.mp hrecord
      obtain ⟨entity, rest, hone, hmore, rfl, hstate⟩ := assignAll_cons_of_ok h
      have hfollows := follows_of_assign ha hrecord₁ hone
      have hrest : ∀ s ∈ shapes, ∀ r ∈ (a.assign shape).state.snapshot.entities,
          r.name = s.name → r.propertyNames.Nodup := fun s hs =>
        hfollows.nodup_propertyNames ha (hne s hs) (hrecords s hs)
      have hcovers := ih hfollows.coherent (hfollows.hashed hhashed) hrest hmore
      -- the demand of the others was met after the first shape, so that of all is met before it
      have hall := (hfollows.admits_iff ha hne).mpr hcovers.admits
      refine ⟨hall, ?_, ?_, ?_, ?_⟩
      · rw [List.map_cons, List.map_cons, hone]
        refine congrArg (List.cons _) ?_
        -- and what they got after it is what they get without it
        refine alone_of_alike hfollows.coherent ha hfollows.nameSpace.symm hfollows.options.symm
          (hfollows.hashed hhashed) hrest (fun s hs => (hfollows.entity?_of_ne (hne s hs)).symm)
          (fun s hs => ?_) (fun s hs => ?_) hcovers.alone
        · exact hnewTo.2 s.name (List.mem_map_of_mem (List.mem_cons_of_mem _ hs))
        · exact admits_of_mem hhashed hall (List.mem_cons_of_mem _ hs)
      · rw [hstate, hcovers.snapshot, hfollows.extend_eq hne]
      · rw [hstate, hcovers.seen, hfollows.seen, List.map_cons, List.reverse_cons,
          List.append_assoc]
        rfl
      · rw [hstate, hcovers.source, hfollows.source]

/-- Shapes with new and different names that each come out alone come out together under the hashed
strategy, if what they all ask for is new. -/
theorem assignAll_of_alone (ha : a.Coherent) (hhashed : a.strategy = .hashed)
    (hrecord : ∀ shape ∈ shapes, ∀ r ∈ a.snapshot.entities, r.name = shape.name →
      r.propertyNames.Nodup)
    (hnewTo : NewTo a.seen (shapes.map (·.name)))
    (hadmits : a.snapshot.Admits a.nameSpace a.options (shapes.map (·.outline)))
    (halone : shapes.map (fun shape => (a.assign shape).result) = entities.map .ok) :
    (a.assignAll shapes).result = .ok entities := by
  induction shapes generalizing a entities with
  | nil =>
      obtain rfl := List.map_eq_nil_iff.mp halone.symm
      rfl
  | cons shape shapes ih =>
      rcases entities with _ | ⟨entity, rest⟩
      · cases halone
      obtain ⟨hone, hrestAlone⟩ := List.cons.inj halone
      have hne := ne_of_newTo hnewTo
      obtain ⟨hrecord₁, hrecords⟩ := List.forall_mem_cons.mp hrecord
      have hfollows := follows_of_assign ha hrecord₁ hone
      -- after the first shape the demand of the others is still met
      have hadmitsRest := (hfollows.admits_iff ha hne).mp hadmits
      rw [List.map_cons, newTo_cons_iff, ← hfollows.seen] at hnewTo
      have hmore : ((a.assign shape).state.assignAll shapes).result = .ok rest := by
        apply ih hfollows.coherent (hfollows.hashed hhashed) _ hnewTo.2 hadmitsRest
        · refine alone_of_alike ha hfollows.coherent hfollows.nameSpace hfollows.options hhashed
            hrecords (fun s hs => hfollows.entity?_of_ne (hne s hs)) (fun s hs => ?_)
            (fun s hs => ?_) hrestAlone
          · exact hnewTo.2.2 s.name (List.mem_map_of_mem hs)
          · exact admits_of_mem (hfollows.hashed hhashed) hadmitsRest hs
        · intro s hs
          exact hfollows.nodup_propertyNames ha (hne s hs) (hrecords s hs)
      change (a.assign shape).result = .ok entity at hone
      rw [assignAll]
      dsimp only
      rw [hone]
      dsimp only
      rw [hmore]
      rfl

end Shapes

end Assigner

end RecordSchema
