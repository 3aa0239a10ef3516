/-
Declarations whose tags are spelled differently.

What is made of a field depends on its tag through the answers of its capabilities alone, and
identifiers do not depend on the tag at all once it is known which fields are stored. So from
declarations that are spelled differently the same comes out, but for the order in which a property
keeps its capabilities: the models are alike and the merged snapshots are equal.
-/
import RecordSchema.Proofs.Assigner.Independence
import RecordSchema.Proofs.Entity.Build
import RecordSchema.Proofs.Independence
import RecordSchema.Proofs.Tag.Spelling

set_option autoImplicit false

namespace RecordSchema

open Tag

/-! ## Declarations -/

/-- Two fields that differ in nothing but the spelling of their tag, and in their position. -/
structure Field.Respelled (field other : Field) : Prop where
  name : field.name = other.name
  typeName : field.typeName = other.typeName
  tag : field.tag = other.tag ∨ Tag.Respelled field.tag other.tag

/-- Two declarations that differ in nothing but the spelling of their tags. -/
structure Declaration.Respelled (declaration other : Declaration) : Prop where
  name : declaration.name = other.name
  fields : List.Forall₂ Field.Respelled declaration.fields other.fields

theorem Field.Respelled.symm {field other : Field} (h : field.Respelled other) :
    other.Respelled field :=
  ⟨h.name.symm, h.typeName.symm, h.tag.imp Eq.symm Tag.Respelled.symm⟩

theorem Declaration.Respelled.symm {declaration other : Declaration}
    (h : declaration.Respelled other) : other.Respelled declaration :=
  ⟨h.name.symm, (h.fields.imp fun _ _ => Field.Respelled.symm).flip⟩

/-! ## What is alike -/

/-- Two properties of a shape that have everything in common but the order of their capabilities. -/
structure PropertyShape.Alike (p q : PropertyShape) : Prop where
  name : p.name = q.name
  storageName : p.storageName = q.storageName
  typeName : p.typeName = q.typeName
  mapping : p.mapping = q.mapping
  flags : p.flags = q.flags
  capabilities : p.capabilities.SameAnswers q.capabilities

structure EntityShape.Alike (shape other : EntityShape) : Prop where
  name : shape.name = other.name
  properties : List.Forall₂ PropertyShape.Alike shape.properties other.properties
  idIndex : shape.idIndex = other.idIndex

structure Property.Alike (p q : Property) : Prop where
  shape : p.shape.Alike q.shape
  id : p.id = q.id
  vtableOffset : p.vtableOffset = q.vtableOffset

structure Entity.Alike (entity other : Entity) : Prop where
  name : entity.name = other.name
  id : entity.id = other.id
  properties : List.Forall₂ Property.Alike entity.properties other.properties
  idIndex : entity.idIndex = other.idIndex
  lastPropertyId : entity.lastPropertyId = other.lastPropertyId

/-- Two models that have everything in common but the order in which properties keep their
capabilities. -/
structure Model.Alike (model other : Model) : Prop where
  nameSpace : model.nameSpace = other.nameSpace
  entities : List.Forall₂ Entity.Alike model.entities other.entities

/-! ## Building -/

section Field

variable {field other : Field} (h : field.Respelled other)
include h

theorem Field.Respelled.exists_sameAnswers {caps : Capabilities}
    (hcaps : Capabilities.parse field.tag = .ok caps) :
    ∃ others, Capabilities.parse other.tag = .ok others ∧ caps.SameAnswers others := by
  rcases h.tag with htag | htag
  · exact ⟨caps, htag ▸ hcaps, Capabilities.sameAnswers_of_get?_eq fun _ => rfl⟩
  · exact Capabilities.exists_sameAnswers_of_respelled htag hcaps

theorem Field.Respelled.isTransient_of_isTransient (hf : field.isTransient = true) :
    other.isTransient = true := by
  obtain ⟨caps, hcaps, htransient⟩ := Field.isTransient_iff.mp hf
  obtain ⟨others, hothers, hsame⟩ := h.exists_sameAnswers hcaps
  exact Field.isTransient_iff.mpr ⟨others, hothers, hsame.isTransient ▸ htransient⟩

theorem Field.Respelled.isTransient_iff : field.isTransient = true ↔ other.isTransient = true :=
  ⟨h.isTransient_of_isTransient, h.symm.isTransient_of_isTransient⟩

/-- A field in another spelling is stored by a property like the one that stores it. -/
theorem PropertyShape.Stores.exists_alike {p : PropertyShape} (hp : p.Stores field) :
    ∃ q, p.Alike q ∧ q.Stores other := by
  obtain ⟨others, hothers, hsame⟩ := h.exists_sameAnswers hp.tag
  obtain ⟨base, hbase, hfits, hmapping⟩ := hp.mapping
  have hresolve := resolveType_of_fits hbase hfits
  rw [hsame.resolveType, ← hmapping, h.typeName] at hresolve
  -- the mapping is known to be what the other capabilities resolve to, so they have to fit
  have hfitsOther : ∃ base, (other.typeName, base) ∈ typeTable ∧ base.Fits others ∧
      p.mapping = base.under others := by
    rcases exists_fits_or_fault other.typeName others with ⟨base, hbase, hfits⟩ | ⟨e, hfault⟩
    · rw [resolveType_of_fits hbase hfits, Except.ok.injEq] at hresolve
      exact ⟨base, hbase, hfits, hresolve.symm⟩
    · rw [resolveType_of_fault hfault] at hresolve
      cases hresolve
  refine ⟨{ p with capabilities := others }, ⟨rfl, rfl, rfl, rfl, hsame.flags, hsame⟩, ?_⟩
  refine ⟨hothers, hsame.isTransient ▸ hp.stored, hp.name.trans h.name,
    hp.typeName.trans h.typeName, hfitsOther, hsame.nameInDb? ▸ hp.named, ?_,
    PropertyFlag.ofCapabilities_eq others⟩
  rw [hp.storageName, hsame.nameInDb?, h.name]

end Field

/-- Identifiers stand at the same places among properties that are alike. -/
theorem PropertyShape.map_isId_of_alike {ps qs : List PropertyShape}
    (h : List.Forall₂ PropertyShape.Alike ps qs) :
    ps.map (·.capabilities.isId) = qs.map (·.capabilities.isId) :=
  map_eq_of_forall₂ h fun _ _ hpq => hpq.capabilities.isId

/-- Fields in another spelling pass if the fields do, and are stored alike. -/
theorem Passing.exists_alike {fields others : List Field} {ps : List PropertyShape}
    (hps : Passing fields ps) (h : List.Forall₂ Field.Respelled fields others) :
    ∃ qs, List.Forall₂ PropertyShape.Alike ps qs ∧ Passing others qs := by
  have hstored : List.Forall₂ Field.Respelled (fields.filter fun f => !f.isTransient)
      (others.filter fun f => !f.isTransient) := by
    refine List.rel_filter (fun f g hfg => ?_) h
    simpa using not_congr hfg.isTransient_iff
  -- every property has its field, and that its other spelling, which has a property alike
  obtain ⟨qs, halike, hqs⟩ := exists_between_of_forall₂ <|
    (forall₂_trans hps.stores hstored).imp fun p g ⟨f, hp, hfg⟩ => hp.exists_alike hfg
  refine ⟨qs, halike, fun g hg => ?_, hqs, ?_, ?_⟩
  · obtain ⟨f, hf, hfg⟩ := exists_mem_of_forall₂ h.flip hg
    obtain ⟨caps, hcaps⟩ := hps.tags f hf
    obtain ⟨others, hothers, -⟩ := Field.Respelled.exists_sameAnswers hfg hcaps
    exact ⟨others, hothers⟩
  · rw [← map_eq_of_forall₂ halike fun _ _ hpq => hpq.storageName]
    exact hps.distinct
  · -- so there are as many identifiers
    have hcount := congrArg (List.countP id) (PropertyShape.map_isId_of_alike halike)
    rw [List.countP_map, List.countP_map] at hcount
    exact hcount ▸ hps.identified

/-- A declaration in another spelling is built to a shape like that of the declaration. -/
theorem EntityShape.Builds.exists_alike {shape : EntityShape} {declaration other : Declaration}
    (hshape : shape.Builds declaration) (h : declaration.Respelled other) :
    ∃ built, shape.Alike built ∧ built.Builds other := by
  obtain ⟨qs, halike, hqs⟩ := hshape.properties.exists_alike h.fields
  refine ⟨⟨other.name, qs, shape.idIndex⟩, ⟨hshape.name.trans h.name, halike, rfl⟩, rfl, hqs, ?_⟩
  obtain ⟨p, hp, hid⟩ := hshape.identifier
  have hat := congrArg (·[shape.idIndex]?) (PropertyShape.map_isId_of_alike halike)
  simp only [List.getElem?_map, hp, Option.map_some, hid] at hat
  exact Option.map_eq_some_iff.mp hat.symm

/-- Declarations in another spelling are built to shapes like those of the declarations. -/
theorem Declaration.exists_alike_of_buildAll {declarations others : List Declaration}
    {shapes : List EntityShape} (h : List.Forall₂ Declaration.Respelled declarations others)
    (hbuilt : buildAll declarations = .ok shapes) :
    ∃ built, List.Forall₂ EntityShape.Alike shapes built ∧ buildAll others = .ok built := by
  have hbuilds := (forall₂_builds_of_buildAll hbuilt).imp (S := flip EntityShape.Builds)
    fun _ _ hd => hd
  obtain ⟨built, halike, hothers⟩ := exists_between_of_forall₂ <|
    (forall₂_trans hbuilds.flip h).imp fun shape other ⟨d, hshape, hd⟩ => hshape.exists_alike hd
  refine ⟨built, halike, buildAll_eq_ok_iff.mpr ?_⟩
  exact (map_eq_of_forall₂ hothers fun shape other hb => (build_of_builds hb).symm).symm

/-! ## Assigning -/

namespace Assigner

theorem layOut_alike {entity : String} {shapes others : List PropertyShape}
    (h : List.Forall₂ PropertyShape.Alike shapes others) {ids : List IdUid} {ps : List Property}
    (hlaid : layOut entity (shapes.zip ids) = .ok ps) :
    ∃ qs, layOut entity (others.zip ids) = .ok qs ∧ List.Forall₂ Property.Alike ps qs := by
  induction h generalizing ids ps with
  | nil =>
      cases hlaid
      exact ⟨[], rfl, .nil⟩
  | @cons shape other shapes others hone _ ih =>
      cases ids with
      | nil =>
          cases hlaid
          exact ⟨[], rfl, .nil⟩
      | cons id ids =>
          rw [List.zip_cons_cons, layOut] at hlaid
          -- an offset is worked out from the name and the identifier alone
          obtain ⟨offset, hoffset, hlaid⟩ := bind_eq_ok_iff.mp hlaid
          obtain ⟨more, hmore, hlaid⟩ := bind_eq_ok_iff.mp hlaid
          cases hlaid
          obtain ⟨qs, hqs, halike⟩ := ih hmore
          refine ⟨⟨other, id, offset⟩ :: qs, ?_, .cons ⟨hone, rfl, rfl⟩ halike⟩
          rw [List.zip_cons_cons, layOut, ← hone.name, hoffset, hqs]
          rfl

theorem complete_alike {a : Assigner} {shape other : EntityShape} (h : shape.Alike other)
    {id : IdUid} {ids : List IdUid} {entity : Entity}
    (hcomplete : a.complete shape id ids = .ok entity) :
    ∃ entity', a.complete other id ids = .ok entity' ∧ entity.Alike entity' := by
  obtain ⟨hname, hid, hindex, hlast, hlaid⟩ := complete_of_ok hcomplete
  obtain ⟨qs, hqs, halike⟩ := layOut_alike h.properties hlaid
  refine ⟨⟨shape.name, id, qs, other.idIndex, entity.lastPropertyId⟩, ?_,
    hname, hid, halike, hindex.trans h.idIndex, rfl⟩
  unfold complete
  rw [← h.name]
  dsimp only
  rw [hlast]
  dsimp only
  rw [hqs]
  rfl

/-- Which identifiers are given depends on names alone. -/
theorem assign_alike {a : Assigner} {shape other : EntityShape} (h : shape.Alike other)
    {entity : Entity} (hone : (a.assign shape).result = .ok entity) :
    ∃ entity', (a.assign other).result = .ok entity' ∧ entity.Alike entity' ∧
      (a.assign other).state = (a.assign shape).state := by
  obtain ⟨hne, hseen, id, ids, hidentify, hcomplete, hstate⟩ := assign_eq_ok hone
  have hnames : shape.properties.map (·.name) = other.properties.map (·.name) :=
    map_eq_of_forall₂ h.properties fun _ _ hpq => hpq.name
  have hneOther : other.properties ≠ [] := by
    intro hnil
    have hlength := h.properties.length_eq
    rw [hnil, List.length_nil, List.length_eq_zero_iff] at hlength
    exact hne hlength
  -- an entity is identified by its name and those of its properties, which are the same
  rw [h.name, hnames] at hidentify hstate
  obtain ⟨hresult, hstateOther⟩ := assign_of_identify hneOther (h.name ▸ hseen) hidentify
  have hsame : (a.assign other).state = (a.assign shape).state := hstateOther.trans hstate.symm
  obtain ⟨entity', hcomplete', halike⟩ := complete_alike h hcomplete
  rw [hsame, hcomplete'] at hresult
  exact ⟨entity', hresult, halike, hsame⟩

theorem assignAll_alike {a : Assigner} {shapes others : List EntityShape}
    (h : List.Forall₂ EntityShape.Alike shapes others) {entities : List Entity}
    (hall : (a.assignAll shapes).result = .ok entities) :
    ∃ entities', (a.assignAll others).result = .ok entities' ∧
      List.Forall₂ Entity.Alike entities entities' ∧
      (a.assignAll others).state = (a.assignAll shapes).state := by
  induction h generalizing a entities with
  | nil =>
      cases hall
      exact ⟨[], rfl, .nil, rfl⟩
  | @cons shape other shapes others halike _ ih =>
      obtain ⟨entity, rest, hone, hmore, rfl, hstate⟩ := assignAll_cons_of_ok hall
      obtain ⟨entity', hone', hentity, hstateOne⟩ := assign_alike halike hone
      obtain ⟨rest', hmore', hrest, hstateRest⟩ := ih hmore
      refine ⟨entity' :: rest', ?_, .cons hentity hrest, ?_⟩
      · rw [assignAll, hone', hstateOne]
        dsimp only
        rw [hmore']
        rfl
      · rw [assignAll, hone', hstateOne, hstate]
        exact hstateRest

end Assigner

/-! ## Deriving -/

/-- From declarations in another spelling a model like that of the declarations is derived, with the
same merged snapshot. -/
theorem exists_alike_of_deriveModel {nameSpace : String} {declarations others : List Declaration}
    {previous merged : Snapshot} {options : DeriveOptions} {model : Model}
    (h : List.Forall₂ Declaration.Respelled declarations others)
    (hrun : (deriveModel nameSpace declarations previous options).result = .ok (model, merged)) :
    ∃ model', (deriveModel nameSpace others previous options).result = .ok (model', merged) ∧
      model.Alike model' := by
  obtain ⟨hvalid, shapes, hbuilt, hassigned, rfl, hunder⟩ := deriveModel_eq_ok hrun
  obtain ⟨built, halike, hbuiltOthers⟩ := Declaration.exists_alike_of_buildAll h hbuilt
  obtain ⟨entities, hentities, hmodel, hstate⟩ := Assigner.assignAll_alike halike hassigned
  refine ⟨⟨nameSpace, entities⟩, ?_, hunder, hmodel⟩
  rw [deriveModel_of_assignAll options hvalid hbuiltOthers hentities, hstate]

/-- The spelling of tags does not matter. Of two tags that are spelled differently both are read or
neither is, and what is read gives the same flags, the same answers and the same column for every
type. Of two runs on declarations whose tags are spelled differently both come out or neither does,
and what comes out are the same merged snapshot and models that have every identifier, every offset
and all else in common but the order of capabilities. -/
theorem deriveModel_respelled :
    (∀ tag other, Tag.Respelled tag other →
      (Capabilities.parse tag).isOk = (Capabilities.parse other).isOk ∧
      ∀ caps others, Capabilities.parse tag = .ok caps → Capabilities.parse other = .ok others →
        caps.SameAnswers others) ∧
    ∀ nameSpace declarations others previous options,
      List.Forall₂ Declaration.Respelled declarations others →
      (deriveModel nameSpace declarations previous options).result.isOk =
        (deriveModel nameSpace others previous options).result.isOk ∧
      ∀ model merged model' merged',
        (deriveModel nameSpace declarations previous options).result = .ok (model, merged) →
        (deriveModel nameSpace others previous options).result = .ok (model', merged') →
        model.Alike model' ∧ merged' = merged := by
  constructor
  · intro tag other h
    constructor
    · refine isOk_eq_of_imp (fun caps hcaps => ?_) fun caps hcaps => ?_
      · obtain ⟨others, hothers, -⟩ := Capabilities.exists_sameAnswers_of_respelled h hcaps
        exact ⟨others, hothers⟩
      · obtain ⟨others, hothers, -⟩ := Capabilities.exists_sameAnswers_of_respelled h.symm hcaps
        exact ⟨others, hothers⟩
    · intro caps others hcaps hothers
      obtain ⟨read, hread, hsame⟩ := Capabilities.exists_sameAnswers_of_respelled h hcaps
      rw [hothers, Except.ok.injEq] at hread
      exact hread ▸ hsame
  · intro nameSpace declarations others previous options h
    constructor
    · refine isOk_eq_of_imp (fun out hout => ?_) fun out hout => ?_
      · obtain ⟨model, hmodel, -⟩ := exists_alike_of_deriveModel h hout
        exact ⟨_, hmodel⟩
      · obtain ⟨model, hmodel, -⟩ := exists_alike_of_deriveModel
          (h.imp fun _ _ => Declaration.Respelled.symm).flip hout
        exact ⟨_, hmodel⟩
    · intro model merged model' merged' hrun hother
      obtain ⟨derived, hderived, halike⟩ := exists_alike_of_deriveModel h hrun
      rw [hother, Except.ok.injEq, Prod.mk.injEq] at hderived
      obtain ⟨rfl, rfl⟩ := hderived
      exact ⟨halike, rfl⟩

/-- An index, a storage name and an identifier. -/
def plainDeclarations : List Declaration :=
  [.ofParts "User"
      [("id", "u64", "id"), ("mail", "String", "unique index:\"hash\" nameInDb:\"Mail\"")],
    .ofParts "Note" [("at", "i64", "date"), ("key", "i64", "id")]]

/-- The same in another order, in capitals and with other blanks. The case of a storage name is
kept, since it is not that of an index kind. -/
def loudDeclarations : List Declaration :=
  [.ofParts "User"
      [("id", "u64", " ID "), ("mail", "String", "NAMEINDB:\" Mail\"\tINDEX:\"HASH\"  Unique")],
    .ofParts "Note" [("at", "i64", "DATE"), ("key", "i64", "id")]]

theorem deriveModel_respelled_loud :
    Tag.Respelled "unique index:\"hash\" nameInDb:\"Mail\""
        "NAMEINDB:\" Mail\"\tINDEX:\"HASH\"  Unique" ∧
      (Capabilities.parse "NAMEINDB:\" Mail\"\tINDEX:\"HASH\"  Unique").isOk = true ∧
      List.Forall₂ Declaration.Respelled plainDeclarations loudDeclarations ∧
      ∃ model model' merged,
        (deriveModel "app" plainDeclarations mixedSnapshot ⟨.hashed, none⟩).result =
          .ok (model, merged) ∧
        (deriveModel "app" loudDeclarations mixedSnapshot ⟨.hashed, none⟩).result =
          .ok (model', merged) ∧
        model.Alike model' := by
  have htag : Tag.Respelled "unique index:\"hash\" nameInDb:\"Mail\""
      "NAMEINDB:\" Mail\"\tINDEX:\"HASH\"  Unique" :=
    ⟨by decide +kernel, by decide +kernel, by decide +kernel⟩
  have hid : Tag.Respelled "id" " ID " := ⟨by decide +kernel, by decide +kernel, by decide +kernel⟩
  have hdate : Tag.Respelled "date" "DATE" :=
    ⟨by decide +kernel, by decide +kernel, by decide +kernel⟩
  have hdeclarations : List.Forall₂ Declaration.Respelled plainDeclarations loudDeclarations :=
    .cons ⟨rfl, .cons ⟨rfl, rfl, .inr hid⟩ (.cons ⟨rfl, rfl, .inr htag⟩ .nil)⟩
      (.cons ⟨rfl, .cons ⟨rfl, rfl, .inr hdate⟩ (.cons ⟨rfl, rfl, .inl rfl⟩ .nil)⟩ .nil)
  obtain ⟨htags, hruns⟩ := deriveModel_respelled
  obtain ⟨hread, -⟩ := htags _ _ htag
  obtain ⟨hout, hsame⟩ := hruns "app" _ _ mixedSnapshot ⟨.hashed, none⟩ hdeclarations
  have hok : (deriveModel "app" plainDeclarations mixedSnapshot ⟨.hashed, none⟩).result.isOk =
      true := by
    decide +kernel
  obtain ⟨⟨model, merged⟩, hmodel⟩ := exists_eq_ok hok
  obtain ⟨⟨model', merged'⟩, hmodel'⟩ := exists_eq_ok (hout ▸ hok)
  obtain ⟨halike, rfl⟩ := hsame _ _ _ _ hmodel hmodel'
  exact ⟨htag, hread ▸ by decide +kernel, hdeclarations, model, model', _, hmodel, hmodel', halike⟩

end RecordSchema
