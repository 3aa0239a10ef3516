/-
Units that share a snapshot.

Several units may keep their entities in one model file, each with runs of its own. A run retires
what its unit recorded and no longer declares, takes over what it declares, and adds what is new. So
all that it changes of the entities of another run are marks, which the other sets anew, and all
that it takes from it are identifiers. Under the hashed strategy both runs ask for the same
identifiers in either order, and that they are free does not depend on the order either.

In between the snapshot must be accepted. It is, if the highest entity identifier is on record or no
entity is.
-/
import RecordSchema.Proofs.Acceptance
import RecordSchema.Proofs.History.Basic
import RecordSchema.Proofs.Independence

set_option autoImplicit false

namespace RecordSchema

/-! ## A run before and after that of another unit -/

section Transfer

variable {nameSpace : String} {declarations : List Declaration} {s t merged : Snapshot}
  {source : Option String} {model : Model}

/-- A declaration gets the same alone in two snapshots that have the same record for it, whatever
its marks, if what it asks for is free in the second as well. -/
theorem Snapshot.hashedEntity_congr (hs : s.validate = .ok ()) (ht : t.validate = .ok ())
    {d : Declaration} {entity : Entity} (hsame : t.unmarked? d.name = s.unmarked? d.name)
    (hfree : t.CollisionFree nameSpace [d.outline])
    (h : s.hashedEntity nameSpace source d = .ok entity) :
    t.hashedEntity nameSpace source d = .ok entity := by
  obtain ⟨shape, hbuild, hassign⟩ := bind_eq_ok_iff.mp h
  obtain ⟨houtline, -⟩ := Declaration.outline_of_build hbuild
  have hname : shape.name = d.name := congrArg Outline.name houtline
  apply bind_eq_ok_iff.mpr
  refine ⟨shape, hbuild, ?_⟩
  refine Assigner.assign_of_alike (Assigner.coherent_start hs nameSpace .hashed source)
    (Assigner.coherent_start ht nameSpace .hashed source) rfl rfl rfl
    (fun r hr _ => Snapshot.nodup_propertyNames_of_validate hs hr) ?_ List.not_mem_nil ?_ hassign
  · rw [hname]
    exact hsame
  · rw [houtline]
    exact Snapshot.admits_hashed_iff.mpr hfree

/-- A run comes out the same against another snapshot that has the same records for its entities,
whatever their marks, if what it asks for is free there as well. -/
theorem HashedRun.transfer (h : HashedRun nameSpace declarations s source model merged)
    (hvalid : t.validate = .ok ())
    (hsame : ∀ o ∈ declarations.map (·.outline), t.unmarked? o.name = s.unmarked? o.name)
    (hfree : t.CollisionFree nameSpace (declarations.map (·.outline))) :
    HashedRun nameSpace declarations t source model
      (t.merge nameSpace ⟨.hashed, source⟩ (declarations.map (·.outline))) where
  valid := hvalid
  distinct := h.distinct
  free := hfree
  alone := by
    rw [← h.alone]
    refine List.map_congr_left fun d hd => ?_
    obtain ⟨entity, -, hentity⟩ := exists_ok_of_map_eq_map_ok h.alone hd
    have hmem : d.outline ∈ declarations.map (·.outline) := List.mem_map_of_mem hd
    rw [hentity]
    exact Snapshot.hashedEntity_congr h.valid hvalid (hsame d.outline hmem) (hfree.of_mem hmem)
      hentity
  under := h.under
  eq_merge := rfl

end Transfer

/-! ## Two runs -/

section Swap

variable {nameSpace nameSpace' : String} {declarations more : List Declaration}
  {s between merged : Snapshot} {a b : Option String} {model model' : Model}

/-- Two hashed runs of different units that declare different entities come out the same in the
other order. -/
theorem HashedRun.swap (hlast : s.entities = [] ∨ s.lastEntityId ≠ none) (hunits : a ≠ b)
    (hnames : (declarations.map (·.name)).Disjoint (more.map (·.name)))
    (hfields : ∀ d ∈ declarations, d.FieldsDistinct) (hfields' : ∀ d ∈ more, d.FieldsDistinct)
    (hfirst : HashedRun nameSpace declarations s a model between)
    (hsecond : HashedRun nameSpace' more between b model' merged) :
    ∃ between' merged', HashedRun nameSpace' more s b model' between' ∧
      HashedRun nameSpace declarations between' a model merged' ∧
      merged.EqUpToOrderFrom s.entities.length merged' := by
  have hdisjoint : ((declarations.map (·.outline)).map (·.name)).Disjoint
      ((more.map (·.outline)).map (·.name)) := by
    rw [List.map_map, List.map_map]
    exact hnames
  have hdistinct : ((declarations.map (·.outline)).map (·.name)).Nodup := by
    rw [List.map_map]
    exact hfirst.distinct
  have hdistinct' : ((more.map (·.outline)).map (·.name)).Nodup := by
    rw [List.map_map]
    exact hsecond.distinct
  have hrecorded := (Snapshot.validate_eq_ok_iff.mp hfirst.valid).names
  obtain rfl := hfirst.eq_merge
  have hfits := (deriveModel_of_ok hfields hfirst.deriveModel).fits
  have hfree : s.CollisionFree nameSpace' (more.map (·.outline)) :=
    hsecond.free.before_merge hrecorded hdistinct hfits hdisjoint
  -- the second run can come first, because the first has left what its entities stand for
  have hfirst' := hsecond.transfer hfirst.valid
    (fun o ho => (s.unmarked?_merge_of_disjoint nameSpace a hdisjoint o ho).symm) hfree
  have hderives := deriveModel_of_ok hfields' hfirst'.deriveModel
  -- and then the first can come second, against a snapshot that is accepted
  have hfree' := hfirst.free.swap hrecorded hdistinct hfits hdisjoint hsecond.free hdistinct'
    hderives.fits
  have hsecond' := hfirst.transfer (hderives.validate_of_last hlast)
    (s.unmarked?_merge_of_disjoint nameSpace' b (List.disjoint_symm hdisjoint)) hfree'
  refine ⟨_, _, hfirst', hsecond', ?_⟩
  rw [hsecond.eq_merge]
  apply Snapshot.merge_comm hunits hdisjoint
  exact hfirst.free.nodup_id_newRecords hrecorded hdistinct hfits hdisjoint hsecond.free b

end Swap

namespace Snapshot

/-- What two runs give one after the other: both models, and the snapshot that the second leaves. -/
def deriveBoth (s : Snapshot) (p q : Request) : Except SchemaError (Model × Model × Snapshot) := do
  let (first, between) ← p.derive s
  let (second, merged) ← q.derive between
  return (first, second, merged)

section Both

variable {s : Snapshot} {p q : Request}

/-- Two runs come out if the first does and then the second does. -/
theorem deriveBoth_eq_ok_iff {first second : Model} {merged : Snapshot} :
    s.deriveBoth p q = .ok (first, second, merged) ↔
      ∃ between, p.derive s = .ok (first, between) ∧ q.derive between = .ok (second, merged) := by
  unfold deriveBoth
  rw [bind_eq_ok_iff]
  constructor
  · rintro ⟨⟨model, between⟩, hfirst, h⟩
    obtain ⟨⟨model', merged'⟩, hsecond, h⟩ := bind_eq_ok_iff.mp h
    cases h
    exact ⟨between, hfirst, hsecond⟩
  · rintro ⟨between, hfirst, hsecond⟩
    exact ⟨(first, between), hfirst, bind_eq_ok_iff.mpr ⟨(second, merged), hsecond, rfl⟩⟩

/-- If the runs of two units come out in one order, they do in the other, with the same models. -/
theorem deriveBoth_swap (hlast : s.entities = [] ∨ s.lastEntityId ≠ none)
    (hp : p.options.strategy = .hashed) (hq : q.options.strategy = .hashed)
    (hunits : p.options.source ≠ q.options.source)
    (hnames : (p.declarations.map (·.name)).Disjoint (q.declarations.map (·.name)))
    (hfields : p.FieldsDistinct) (hfields' : q.FieldsDistinct) {first second : Model}
    {merged : Snapshot} (h : s.deriveBoth p q = .ok (first, second, merged)) :
    ∃ merged', s.deriveBoth q p = .ok (second, first, merged') ∧
      merged.EqUpToOrderFrom s.entities.length merged' := by
  obtain ⟨nameSpace, declarations, ⟨strategy, a⟩⟩ := p
  obtain ⟨nameSpace', more, ⟨strategy', b⟩⟩ := q
  cases hp
  cases hq
  obtain ⟨between, hfirst, hsecond⟩ := deriveBoth_eq_ok_iff.mp h
  obtain ⟨between', merged', hfirst', hsecond', hsame⟩ := HashedRun.swap hlast hunits hnames hfields
    hfields' (hashedRun_of_deriveModel hfirst) (hashedRun_of_deriveModel hsecond)
  refine ⟨merged', ?_, hsame⟩
  exact deriveBoth_eq_ok_iff.mpr ⟨between', hfirst'.deriveModel, hsecond'.deriveModel⟩

/-- Hashed runs of two units that declare different entities come out in either order or in neither.
They give the same models in both, and leave snapshots that differ in the order of the new records
alone. -/
theorem deriveBoth_comm (hlast : s.entities = [] ∨ s.lastEntityId ≠ none)
    (hp : p.options.strategy = .hashed) (hq : q.options.strategy = .hashed)
    (hunits : p.options.source ≠ q.options.source)
    (hnames : (p.declarations.map (·.name)).Disjoint (q.declarations.map (·.name)))
    (hfields : p.FieldsDistinct) (hfields' : q.FieldsDistinct) :
    ((∃ out, s.deriveBoth p q = .ok out) ↔ ∃ out, s.deriveBoth q p = .ok out) ∧
      ∀ {first second merged first' second' merged'},
        s.deriveBoth p q = .ok (first, second, merged) →
        s.deriveBoth q p = .ok (second', first', merged') →
        first' = first ∧ second' = second ∧ merged.EqUpToOrderFrom s.entities.length merged' := by
  refine ⟨⟨?_, ?_⟩, ?_⟩
  · rintro ⟨⟨first, second, merged⟩, h⟩
    obtain ⟨merged', h', -⟩ := deriveBoth_swap hlast hp hq hunits hnames hfields hfields' h
    exact ⟨_, h'⟩
  · rintro ⟨⟨second, first, merged⟩, h⟩
    obtain ⟨merged', h', -⟩ := deriveBoth_swap hlast hq hp hunits.symm (List.disjoint_symm hnames)
      hfields' hfields h
    exact ⟨_, h'⟩
  · intro first second merged first' second' merged' h h'
    obtain ⟨_, hswapped, hsame⟩ :=
      deriveBoth_swap hlast hp hq hunits hnames hfields hfields' h
    cases hswapped.symm.trans h'
    exact ⟨rfl, rfl, hsame⟩

end Both

/-! ## Units that take from each other -/

/-- Records of two units, live and retired, and the highest identifier. -/
def sharedSnapshot : Snapshot :=
  ⟨snapshotVersion, some ⟨9, 14⟩,
    [⟨⟨7, 11⟩, "User", some "a", false, some ⟨0, 110000⟩, [⟨⟨0, 110000⟩, "id", false⟩]⟩,
      ⟨⟨2, 12⟩, "Note", some "b", true, some ⟨0, 120000⟩, [⟨⟨0, 120000⟩, "id", true⟩]⟩,
      ⟨⟨3, 13⟩, "Old", some "a", false, none, []⟩, ⟨⟨9, 14⟩, "Gone", some "b", false, none, []⟩]⟩

/-- A unit that declares an entity of the other and a new one. -/
def takingRequest (unit recorded new : String) : Request :=
  ⟨"app", [.ofParts recorded [("id", "i64", "id"), ("text", "String", "")],
    .ofParts new [("id", "i64", "id")]], ⟨.hashed, some unit⟩⟩

/-- Each of two units takes an entity over from the other, one of them retired, and drops one of its
own. -/
theorem deriveBoth_comm_taking :
    ∃ first second merged merged',
      sharedSnapshot.deriveBoth (takingRequest "a" "Note" "Tag") (takingRequest "b" "User" "Log") =
        .ok (first, second, merged) ∧
      sharedSnapshot.deriveBoth (takingRequest "b" "User" "Log") (takingRequest "a" "Note" "Tag") =
        .ok (second, first, merged') ∧
      merged.EqUpToOrderFrom 4 merged' ∧ merged ≠ merged' := by
  have hnames : ((takingRequest "a" "Note" "Tag").declarations.map (·.name)).Disjoint
      ((takingRequest "b" "User" "Log").declarations.map (·.name)) := by
    rw [List.disjoint_left]
    decide
  obtain ⟨hiff, hsame⟩ := deriveBoth_comm (s := sharedSnapshot) (.inr (by decide)) rfl rfl
    (by decide) hnames (by decide) (by decide)
  obtain ⟨⟨first, second, merged⟩, h⟩ := exists_eq_ok (x := sharedSnapshot.deriveBoth
    (takingRequest "a" "Note" "Tag") (takingRequest "b" "User" "Log")) (by decide +kernel)
  obtain ⟨⟨second', first', merged'⟩, h'⟩ := hiff.mp ⟨_, h⟩
  obtain ⟨rfl, rfl, horder⟩ := hsame h h'
  refine ⟨first', second', merged, merged', h, h', horder, ?_⟩
  rintro rfl
  have hdiffer : (sharedSnapshot.deriveBoth (takingRequest "a" "Note" "Tag")
      (takingRequest "b" "User" "Log")).toOption.map (·.2.2) ≠
      (sharedSnapshot.deriveBoth (takingRequest "b" "User" "Log")
        (takingRequest "a" "Note" "Tag")).toOption.map (·.2.2) := by
    decide +kernel
  rw [h, h'] at hdiffer
  exact hdiffer rfl

/-- Without the highest identifier on record the order matters: an entity that is added below a
recorded one leaves a snapshot that the next run refuses, unless that run came before. -/
example :
    let s : Snapshot :=
      ⟨snapshotVersion, none, [⟨⟨16777215, 1⟩, "Zed", none, false, none, []⟩]⟩
    let p : Request := ⟨"app", [.ofParts "User" [("id", "i64", "id")]], ⟨.hashed, some "a"⟩⟩
    let q : Request := ⟨"app", [], ⟨.hashed, some "b"⟩⟩
    (s.deriveBoth p q).isOk = false ∧ (s.deriveBoth q p).isOk = true := by
  decide +kernel

end Snapshot

end RecordSchema
