/-
When an assigner refuses nothing.

A sound assigner identifies an entity whenever the demand of the entity is met and its numbers fit
their words, so a refusal means that one of the two fails, or that a number has no slot. The
induction over a run carries both to a list of shapes: `Snapshot.Accounts` says which demand an
outcome shows to be met and which error shows which one not to be.
-/
import RecordSchema.Proofs.Assigner.Refusal
import RecordSchema.Proofs.Demand
import RecordSchema.Proofs.Derive

set_option autoImplicit false

namespace RecordSchema

/-! ## Renewing -/

namespace Renewal

/-- A property is added if its UID fits and is new. -/
theorem exists_mint_ok {r : Renewal} {name : String}
    (hfits : r.record.id.uid.toNat * uidScale + r.nextId.toNat < UInt64.size)
    (hnew : UInt64.ofNat (r.record.id.uid.toNat * uidScale + r.nextId.toNat) ∉ r.ledger.uids) :
    ∃ id, (r.mint name).result = .ok id := by
  have huid : propertyUid? r.record.id.uid r.nextId =
      some (UInt64.ofNat (r.record.id.uid.toNat * uidScale + r.nextId.toNat)) :=
    propertyUid?_eq_some_iff.mpr (UInt64.toNat_ofNat_of_lt' hfits)
  have hledger : r.ledger.mint (UInt64.ofNat (r.record.id.uid.toNat * uidScale + r.nextId.toNat))
      (.property r.record.name name) = .ok (r.ledger.enter
        (UInt64.ofNat (r.record.id.uid.toNat * uidScale + r.nextId.toNat))
        (.property r.record.name name)) :=
    Ledger.mint_eq_ok_iff.mpr ⟨hnew, rfl⟩
  unfold mint
  dsimp only
  rw [huid]
  dsimp only
  rw [hledger]
  exact ⟨_, rfl⟩

/-- Several names come out if the first does and then the rest. -/
theorem exists_properties_cons {r : Renewal} {name : String} {names : List String} {id : IdUid}
    (hone : (r.property name).result = .ok id)
    (hmore : ∃ ids, ((r.property name).state.properties names).result = .ok ids) :
    ∃ ids, (r.properties (name :: names)).result = .ok ids := by
  obtain ⟨ids, hmore⟩ := hmore
  rw [properties]
  dsimp only
  rw [hone]
  dsimp only
  rw [hmore]
  exact ⟨id :: ids, rfl⟩

/-- Where the demand of several names is met, the first that is new is added, and then the demand of
the rest is met. -/
private theorem exists_mint_of_demand {r : Renewal} {name : String} {names : List String}
    (hname : name ∉ r.record.propertyNames)
    (hnum : Numberable r.record.id.uid r.nextId.toNat (r.record.newNames (name :: names)).length)
    (hnew : NewTo r.ledger.uids ((r.newRecords (name :: names)).map (·.id.uid))) :
    ∃ id, (r.mint name).result = .ok id ∧
      Numberable r.record.id.uid (r.withNew name id).nextId.toNat
        ((r.withNew name id).record.newNames names).length ∧
      NewTo (r.withNew name id).ledger.uids
        (((r.withNew name id).newRecords names).map (·.id.uid)) := by
  -- which names are left does not depend on the identifier, so any will do until it is known
  have hnames : ∀ id, r.record.newNames (name :: names) =
      name :: (r.withNew name id).record.newNames names := fun id =>
    EntityRecord.newNames_cons_of_notMem hname (r.propertyNames_withNew name id) names
  have hrecords : ∀ id, r.newRecords (name :: names) =
      ⟨⟨UInt32.ofNat r.nextId.toNat,
        UInt64.ofNat (r.record.id.uid.toNat * uidScale + r.nextId.toNat)⟩, name, false⟩ ::
        PropertyRecord.numbered r.record.id.uid (r.nextId.toNat + 1)
          ((r.withNew name id).record.newNames names) := by
    intro id
    rw [newRecords, hnames id, PropertyRecord.numbered_cons]
  have hfirst := hnum 0 (by rw [hnames ⟨0, 0⟩]; exact Nat.zero_lt_succ _)
  rw [hrecords ⟨0, 0⟩, List.map_cons, newTo_cons_iff] at hnew
  obtain ⟨id, hone⟩ : ∃ id, (r.mint name).result = .ok id := exists_mint_ok hfirst.2 hnew.1
  obtain ⟨-, huid, -, -⟩ := mint_of_ok hone
  have hid : UInt64.ofNat (r.record.id.uid.toNat * uidScale + r.nextId.toNat) = id.uid := by
    rw [← huid, UInt64.ofNat_toNat]
  refine ⟨id, hone, ?_⟩
  change Numberable r.record.id.uid (nextPropertyId r.nextId).toNat _ ∧
    NewTo (id.uid :: r.ledger.uids) ((PropertyRecord.numbered r.record.id.uid
      (nextPropertyId r.nextId).toNat ((r.withNew name id).record.newNames names)).map _)
  have hnamesRest : (r.withNew name ⟨0, 0⟩).record.newNames names =
      (r.withNew name id).record.newNames names :=
    (List.cons.inj ((hnames ⟨0, 0⟩).symm.trans (hnames id))).2
  rw [hid, hnamesRest] at hnew
  rw [hnames id, List.length_cons, numberable_succ_iff] at hnum
  -- if there is another name, its number fits a word, so the counter goes on
  cases hrest : (r.withNew name id).record.newNames names with
  | nil => exact ⟨fun k hk => absurd hk (Nat.not_lt_zero k), newTo_nil _⟩
  | cons n ns =>
      rw [hrest] at hnum hnew
      have hnext : (nextPropertyId r.nextId).toNat = r.nextId.toNat + 1 := by
        have hlt := (hnum.2 0 (Nat.zero_lt_succ _)).1
        rw [nextPropertyId_toNat]
        omega
      rw [hnext]
      exact ⟨hnum.2, hnew.2⟩

/-- Declared names are gone through without a refusal if the numbers of the new ones fit their words
and their UIDs are new. -/
theorem exists_properties_ok {r : Renewal} {names : List String}
    (hr : r.record.propertyNames.Nodup)
    (hnum : Numberable r.record.id.uid r.nextId.toNat (r.record.newNames names).length)
    (hnew : NewTo r.ledger.uids ((r.newRecords names).map (·.id.uid))) :
    ∃ ids, (r.properties names).result = .ok ids := by
  induction names generalizing r with
  | nil => exact ⟨[], rfl⟩
  | cons name names ih =>
      cases hp : r.record.property? name with
      | some p =>
          -- a recorded property takes nothing, so the rest asks for what all asked for
          obtain ⟨i, hi, heq⟩ := property_of_find? hp
          have hnames := newNames_reuse hr hp hi names
          have hrecords : (r.reuse i p).state.newRecords names = r.newRecords (name :: names) := by
            rw [newRecords, hnames]
            rfl
          have hone : (r.property name).result = .ok p.id := by
            rw [heq]
            rfl
          refine exists_properties_cons hone ?_
          rw [heq]
          refine ih (propertyNames_reuse hr hp hi ▸ hr) ?_ ?_
          · rw [hnames]
            exact hnum
          · rw [hrecords]
            exact hnew
      | none =>
          -- a new property takes the first of what is asked for
          have hname := EntityRecord.property?_eq_none_iff.mp hp
          obtain ⟨id, hone, hnumRest, hnewRest⟩ := exists_mint_of_demand hname hnum hnew
          have hfirst : (r.property name).result = .ok id := by rwa [property_of_notMem hname]
          refine exists_properties_cons hfirst ?_
          rw [property_of_notMem hname, (mint_of_ok hone).2.2.2]
          refine ih ?_ hnumRest hnewRest
          rw [propertyNames_withNew, nodup_append_iff_newTo]
          exact ⟨hr, newTo_singleton_iff.mpr hname⟩

end Renewal

/-! ## Minting -/

/-- The properties of a new entity are minted if their numbers fit their words and their UIDs are
new. -/
theorem Ledger.exists_mintProperties_ok {ledger : Ledger} (entity : String) {uid : UInt64}
    {position : Nat} {names : List String} (hnum : Numberable uid position names.length)
    (hnew : NewTo ledger.uids ((PropertyRecord.numbered uid position names).map (·.id.uid))) :
    ∃ after records, ledger.mintProperties entity uid position names = (after, .ok records) := by
  induction names generalizing ledger position with
  | nil => exact ⟨ledger, [], rfl⟩
  | cons name names ih =>
      obtain ⟨⟨hposition, hfits⟩, hnumRest⟩ := numberable_succ_iff.mp hnum
      rw [PropertyRecord.numbered_cons, List.map_cons, newTo_cons_iff] at hnew
      have huid : propertyUid? uid (positionalId position) =
          some (UInt64.ofNat (uid.toNat * uidScale + position)) := by
        rw [propertyUid?_eq_some_iff, UInt64.toNat_ofNat_of_lt' hfits, positionalId_toNat]
        omega
      have hledger : ledger.mint (UInt64.ofNat (uid.toNat * uidScale + position))
          (.property entity name) = .ok (ledger.enter
            (UInt64.ofNat (uid.toNat * uidScale + position)) (.property entity name)) :=
        mint_eq_ok_iff.mpr ⟨hnew.1, rfl⟩
      have hnewRest : NewTo (ledger.enter (UInt64.ofNat (uid.toNat * uidScale + position))
          (.property entity name)).uids
          ((PropertyRecord.numbered uid (position + 1) names).map (·.id.uid)) := hnew.2
      obtain ⟨after, records, hrest⟩ := ih hnumRest hnewRest
      rw [mintProperties, huid]
      dsimp only
      rw [hledger]
      dsimp only
      rw [hrest]
      exact ⟨after, _, rfl⟩

namespace Assigner

/-- A new entity gets the numeric ID that the merge issues to it, if that has 24 bits. -/
theorem exists_freshEntityId {a : Assigner} {name : String}
    (hbounded : (a.snapshot.issuedId a.nameSpace a.strategy 0 name).id.toNat ≤ maxEntityId) :
    ∃ id, a.freshEntityId (Hash.entityHash a.nameSpace name) = .ok id := by
  unfold freshEntityId
  cases hstrategy : a.strategy with
  | hashed => exact ⟨_, rfl⟩
  | sequential =>
      rw [hstrategy] at hbounded
      exact ⟨_, nextSequentialId_eq_ok_iff.mpr ⟨rfl, hbounded⟩⟩

/-- An entity is minted if the identifier that the merge issues to it is new, its numeric ID has 24
bits, and the UIDs of its properties are new as well. -/
theorem exists_mint_ok {a : Assigner} {outline : Outline}
    (hbounded : (a.snapshot.issuedId a.nameSpace a.strategy 0 outline.name).id.toNat ≤ maxEntityId)
    (hid : (a.snapshot.issuedId a.nameSpace a.strategy 0 outline.name).id ∉
      a.snapshot.entities.map (·.id.id))
    (hnum : Numberable (entityUid (Hash.entityHash a.nameSpace outline.name)) 0
      outline.properties.length)
    (hnew : NewTo a.ledger.uids (EntityRecord.fresh a.source outline
      (a.snapshot.issuedId a.nameSpace a.strategy 0 outline.name)).uids) :
    ∃ both, (a.mint outline.name outline.properties).result = .ok both := by
  obtain ⟨n, hfresh⟩ := exists_freshEntityId hbounded
  obtain ⟨hissued, -⟩ := freshEntityId_eq_ok hfresh
  rw [← hissued] at hid hnew
  -- the three things that are claimed, in the order in which a mint claims them
  have hholder : a.holder? n = none := holder?_eq_none_iff.mpr hid
  rw [EntityRecord.uids, newTo_cons_iff] at hnew
  have hledger : a.ledger.mint (entityUid (Hash.entityHash a.nameSpace outline.name))
      (.entity outline.name) = .ok (a.ledger.enter
        (entityUid (Hash.entityHash a.nameSpace outline.name)) (.entity outline.name)) :=
    Ledger.mint_eq_ok_iff.mpr ⟨hnew.1, rfl⟩
  have hnewRest : NewTo (a.ledger.enter (entityUid (Hash.entityHash a.nameSpace outline.name))
      (.entity outline.name)).uids ((PropertyRecord.numbered
        (entityUid (Hash.entityHash a.nameSpace outline.name)) 0 outline.properties).map
          (·.id.uid)) := hnew.2
  obtain ⟨after, records, hproperties⟩ :=
    Ledger.exists_mintProperties_ok outline.name hnum hnewRest
  unfold mint
  dsimp only
  rw [hfresh]
  dsimp only
  rw [hholder]
  dsimp only
  rw [hledger]
  dsimp only
  rw [hproperties]
  exact ⟨_, rfl⟩

/-! ## Identifying -/

/-- UIDs are new to the ledger of a coherent assigner exactly if they are new to its snapshot, as
integers. -/
theorem Coherent.newTo_iff {a : Assigner} (ha : a.Coherent) {uids : List UInt64} :
    NewTo a.ledger.uids uids ↔
      NewTo (a.snapshot.uids.map (·.toNat)) (uids.map (·.toNat)) := by
  have hinj : Function.Injective UInt64.toNat := fun _ _ => UInt64.toNat_inj.mp
  rw [NewTo.congr ha.ledger]
  exact (newTo_map_iff hinj).symm

/-- A coherent assigner identifies an entity whose demand is met and whose numbers fit, if the
record of the entity, where there is one, has properties of different names. -/
theorem exists_identify_ok {a : Assigner} (ha : a.Coherent) {outline : Outline}
    (hrecord : ∀ r ∈ a.snapshot.entities, r.name = outline.name → r.propertyNames.Nodup)
    (h : a.snapshot.Admits a.nameSpace a.options [outline])
    (hwords : a.snapshot.WordSized [outline]) :
    ∃ both, (a.identify outline.name outline.properties).result = .ok both := by
  have hfits := h.fits ha.names hwords
  have huids := h.uids
  rw [List.flatMap_singleton] at huids
  by_cases hmem : outline.name ∈ a.snapshot.entityNames
  · obtain ⟨i, r, hr, -, heq⟩ := identify_of_mem hmem outline.properties
    obtain ⟨hrmem, hname⟩ := (find?_key_eq_some_iff ha.names).mp hr
    -- a renewal starts at the number after the last, where the demand starts, too
    have hnum := hfits.renewed r hrmem outline (List.mem_singleton_self _) hname.symm
    have hroom := hwords.hasRoom hr
    obtain ⟨hnumIff, hadded⟩ := Renewal.start_of_hasRoom a.ledger a.source hroom
    obtain ⟨ids, hids⟩ := Renewal.exists_properties_ok (r := Renewal.start a.ledger a.source r)
      (hrecord r hrmem hname) (hnumIff.mpr hnum) (by
        rw [hadded]
        refine ha.newTo_iff.mpr ?_
        rwa [Snapshot.map_uid_added_eq_demandedUids a.nameSpace hr hnum])
    rw [heq, result_reuse, hids]
    exact ⟨_, rfl⟩
  · have hone : a.snapshot.newOutlines [outline] = [outline] :=
      Snapshot.newOutlines_cons_of_notMem hmem []
    have hnum := hfits.fresh outline (by rw [hone]; exact List.mem_singleton_self _)
    have huid := a.snapshot.uid_issuedId a.nameSpace a.strategy 0 outline.name
    have hid := h.ids
    have hbounded := h.bounded
    rw [Snapshot.newRecords_singleton_of_notMem _ _ hmem, List.map_singleton] at hid hbounded
    rw [newTo_singleton_iff] at hid
    rw [List.forall_mem_singleton] at hbounded
    rw [identify_of_notMem hmem]
    refine exists_mint_ok hbounded hid hnum (ha.newTo_iff.mpr ?_)
    rwa [Snapshot.map_uids_fresh_eq_demandedUids a.source hmem huid (huid ▸ hnum)]

/-- The identifiers of an answer have slots exactly if the numbers of the declared properties do. -/
theorem Identifies.slotted_iff {a after : Assigner} (ha : a.Sound) {outline : Outline} {id : IdUid}
    {ids : List IdUid} (h : Identifies a outline id ids after) :
    a.snapshot.Slotted [outline] ↔ ∀ id ∈ ids, id.id.toNat ≤ maxPropertyId := by
  obtain ⟨r, hr, hname, -, hids⟩ := h.record
  have hnames := h.sound.unambiguous.names
  have hrecord := (h.sound.unambiguous.entities r hr).names
  rw [h.snapshot] at hr hnames
  have hfound : (a.snapshot.extend a.nameSpace a.options [outline]).entity? outline.name = some r :=
    (Snapshot.entity?_eq_some_iff hnames).mpr ⟨hr, hname⟩
  have hnumbers : ∀ n, n ∈ a.snapshot.propertyNumbers outline ↔
      ∃ p ∈ r.properties, p.name ∈ outline.properties ∧ p.id.id.toNat = n := fun n =>
    Snapshot.mem_propertyNumbers_iff ha.unambiguous.names h.fits hfound
  unfold Snapshot.Slotted Snapshot.NumbersUpTo
  rw [List.forall_mem_singleton]
  constructor
  · intro hslotted i hi
    -- an identifier of the answer is that of a property with a declared name
    have hmem : some i ∈ outline.properties.map fun name => (r.property? name).map (·.id) := by
      rw [hids]
      exact List.mem_map_of_mem hi
    obtain ⟨name, hdeclared, hlookup⟩ := List.mem_map.mp hmem
    obtain ⟨p, hp, rfl⟩ := Option.map_eq_some_iff.mp hlookup
    obtain ⟨hpmem, rfl⟩ := (find?_key_eq_some_iff hrecord).mp hp
    exact hslotted _ ((hnumbers _).mpr ⟨p, hpmem, hdeclared, rfl⟩)
  · intro hall n hn
    obtain ⟨p, hp, hdeclared, rfl⟩ := (hnumbers n).mp hn
    have hlookup : r.property? p.name = some p := (find?_key_eq_some_iff hrecord).mpr ⟨hp, rfl⟩
    refine hall p.id ?_
    have hmem : some p.id ∈ ids.map some := by
      rw [← hids]
      exact List.mem_map.mpr ⟨p.name, hdeclared, by rw [hlookup]; rfl⟩
    simpa using hmem

end Assigner

/-! ## Outcomes and demands -/

/-- What the outcome of a run shows. One that comes out shows that the demand was met and that every
number has a slot. A collision shows that the demand was not met or that a number does not fit its
word, and an overflow of the layout that a number has no slot; there are no other refusals. -/
def Snapshot.Accounts {α : Type} (s : Snapshot) (nameSpace : String) (options : DeriveOptions)
    (outlines : List Outline) : Except SchemaError α → Prop
  | .ok _ => s.Admits nameSpace options outlines ∧ s.Slotted outlines
  | .error e =>
    (e.kind = .identifierCollision ∧
      ¬(s.Admits nameSpace options outlines ∧ s.WordSized outlines)) ∨
    (e.kind = .layoutOverflow ∧ ¬s.Slotted outlines)

namespace Snapshot

variable {s : Snapshot} {nameSpace : String} {options : DeriveOptions} {outline : Outline}
  {outlines : List Outline}

/-- A run that declares nothing asks for nothing. -/
theorem accounts_nil {α : Type} (x : α) :
    s.Accounts nameSpace options [] (.ok x : Except SchemaError α) :=
  ⟨⟨List.forall_mem_nil _, newTo_nil _, newTo_nil _, List.forall_mem_nil _⟩,
    List.forall_mem_nil _⟩

/-- What the refusal of the first outline shows, it shows of the whole list. -/
theorem Accounts.of_head {α β : Type} {e : SchemaError} (h : outline.name ∉ outlines.map (·.name))
    (hone : s.Accounts nameSpace options [outline] (.error e : Except SchemaError α)) :
    s.Accounts nameSpace options (outline :: outlines) (.error e : Except SchemaError β) := by
  rcases hone with ⟨hkind, hnot⟩ | ⟨hkind, hnot⟩
  · refine Or.inl ⟨hkind, fun hall => hnot ⟨hall.1.head, ?_⟩⟩
    exact ((numbersUpTo_cons_iff nameSpace options h).mp hall.2).1
  · refine Or.inr ⟨hkind, fun hall => hnot ?_⟩
    exact ((numbersUpTo_cons_iff nameSpace options h).mp hall).1

/-- Where the first outline comes out, the outcome of the rest shows of the whole list what it shows
of the rest. -/
theorem Accounts.cons {α β γ : Type} {x : α} {result : Except SchemaError β} (f : β → γ)
    (hnames : s.entityNames.Nodup) (h : outline.name ∉ outlines.map (·.name))
    (hone : s.Accounts nameSpace options [outline] (.ok x : Except SchemaError α))
    (hrest : (s.extend nameSpace options [outline]).Accounts nameSpace options outlines result) :
    s.Accounts nameSpace options (outline :: outlines) (result.map f) := by
  obtain ⟨hadmits, hslotted⟩ := hone
  have hfits := hadmits.fits hnames hslotted.wordSized
  have hadmitsIff := admits_cons_iff hnames h hfits
  cases result with
  | ok y =>
      exact ⟨hadmitsIff.mpr ⟨hadmits, hrest.1⟩,
        (numbersUpTo_cons_iff nameSpace options h).mpr ⟨hslotted, hrest.2⟩⟩
  | error e =>
      rcases hrest with ⟨hkind, hnot⟩ | ⟨hkind, hnot⟩
      · refine Or.inl ⟨hkind, fun hall => hnot ⟨(hadmitsIff.mp hall.1).2, ?_⟩⟩
        exact ((numbersUpTo_cons_iff nameSpace options h).mp hall.2).2
      · refine Or.inr ⟨hkind, fun hall => hnot ?_⟩
        exact ((numbersUpTo_cons_iff nameSpace options h).mp hall).2

end Snapshot

namespace Assigner

/-- Assigning one shape accounts for its outline. -/
theorem accounts_assign {a : Assigner} (ha : a.Sound) {shape : EntityShape}
    (hne : shape.properties ≠ []) (hseen : shape.name ∉ a.seen)
    (hnames : shape.name ∉ a.snapshot.entityNames → shape.outline.properties.Nodup) :
    a.snapshot.Accounts a.nameSpace a.options [shape.outline] (a.assign shape).result := by
  have hdeclared : ({ a with seen := shape.name :: a.seen } : Assigner).Sound :=
    ⟨ha.unambiguous, ha.ledger⟩
  cases h : (a.assign shape).result with
  | ok entity =>
      -- what was recorded is unambiguous, which it could not be had anything been taken
      obtain ⟨id, ids, hidentify, -, -, -, hids⟩ := laidOut_of_assign h
      have hidentifies : Identifies _ shape.outline id ids _ :=
        identify_of_ok hdeclared hnames
          (fun r hr hname => hasRoom_of_identify hdeclared hidentify hids hr hname) hidentify
      refine ⟨?_, (hidentifies.slotted_iff hdeclared).mpr hids⟩
      refine Snapshot.admits_of_unambiguous ha.unambiguous.names hidentifies.fits ?_
      exact hidentifies.snapshot ▸ hidentifies.sound.unambiguous
  | error e =>
      rcases assign_eq_error hne hseen h with ⟨cause, hidentify, rfl⟩ | ⟨id, ids, hidentify, hc⟩
      · refine Or.inl ⟨(refuses_of_identify hidentify).isCollision, ?_⟩
        -- had the demand been met, the entity would have been identified
        rintro ⟨hadmits, hwords⟩
        have hok : ∃ both, (({ a with seen := shape.name :: a.seen } : Assigner).identify
            shape.outline.name shape.outline.properties).result = .ok both :=
          exists_identify_ok hdeclared.coherent
            (fun r hr _ => (ha.unambiguous.entities r hr).names) hadmits hwords
        obtain ⟨both, hok⟩ := hok
        cases hok.symm.trans hidentify
      -- it was identified, and an identifier without a slot is that of a declared number
      · obtain ⟨hkind, i, hi, hlt⟩ := complete_of_error (ne_nil_of_identify hne hidentify) hc
        refine Or.inr ⟨hkind, fun hslotted => ?_⟩
        have hidentifies : Identifies _ shape.outline id ids _ :=
          identify_of_ok hdeclared hnames (fun r hr hname => hslotted.wordSized.hasRoom
            ((Snapshot.entity?_eq_some_iff ha.unambiguous.names).mpr ⟨hr, hname⟩)) hidentify
        have hle := (hidentifies.slotted_iff hdeclared).mp hslotted i hi
        omega

/-- Assigning shapes one after the other accounts for all their outlines. -/
theorem accounts_assignAll {a : Assigner} (ha : a.Sound) {shapes : List EntityShape}
    (hne : ∀ shape ∈ shapes, shape.properties ≠ [])
    (hseen : NewTo a.seen (shapes.map (·.name)))
    (hnames : ∀ shape ∈ shapes,
      shape.name ∉ a.snapshot.entityNames → shape.outline.properties.Nodup) :
    a.snapshot.Accounts a.nameSpace a.options (shapes.map (·.outline))
      (a.assignAll shapes).result := by
  induction shapes generalizing a with
  | nil => exact Snapshot.accounts_nil []
  | cons shape shapes ih =>
      have hhead := accounts_assign ha (hne shape List.mem_cons_self)
        (hseen.2 shape.name List.mem_cons_self) (hnames shape List.mem_cons_self)
      rw [List.map_cons, newTo_cons_iff] at hseen
      have hnew : shape.outline.name ∉ (shapes.map (·.outline)).map (·.name) := by
        rw [List.map_map]
        exact fun hc => hseen.2.2 shape.name hc List.mem_cons_self
      rw [assignAll, List.map_cons]
      dsimp only
      cases hone : (a.assign shape).result with
      | error e =>
          rw [hone] at hhead
          exact hhead.of_head hnew
      | ok entity =>
          rw [hone] at hhead
          -- the next state is sound, and its snapshot is the one that the demand of the rest is about
          obtain ⟨-, hsound, -, hsnapshot, hrest, -⟩ :=
            assign_of_ok ha (hnames shape List.mem_cons_self) hone
          have honeSeen : (a.assign shape).state.seen = shape.name :: a.seen := by rw [hrest]
          have hmore := ih hsound (fun s hs => hne s (List.mem_cons_of_mem _ hs))
            (honeSeen ▸ hseen.2) (fun s hs hs' => hnames s (List.mem_cons_of_mem _ hs)
              fun hold => hs' (by
                rw [hsnapshot, Snapshot.entityNames_extend]
                exact List.mem_append_left _ hold))
          have honeNameSpace : (a.assign shape).state.nameSpace = a.nameSpace := by rw [hrest]
          have honeOptions : (a.assign shape).state.options = a.options := by rw [hrest]; rfl
          rw [hsnapshot, honeNameSpace, honeOptions] at hmore
          exact hhead.cons (entity :: ·) ha.unambiguous.names hnew hmore

end Assigner

/-! ## Derivations -/

/-- A derivation from an accepted snapshot whose declarations can all be built accounts for their
outlines. -/
theorem deriveModel_accounts {nameSpace : String} {declarations : List Declaration}
    {previous : Snapshot} {options : DeriveOptions} {shapes : List EntityShape}
    (hvalid : previous.validate = .ok ())
    (hbuilt : Declaration.buildAll declarations = .ok shapes)
    (hdistinct : (declarations.map (·.name)).Nodup)
    (hnew : ∀ d ∈ declarations, d.name ∉ previous.entityNames → d.storedNames.Nodup) :
    previous.Accounts nameSpace options (declarations.map (·.outline))
      (deriveModel nameSpace declarations previous options).result := by
  have hconsistent := Snapshot.validate_eq_ok_iff.mp hvalid
  obtain ⟨houtlines, hne⟩ := Declaration.outline_of_buildAll hbuilt
  have hnames := Declaration.map_name_of_buildAll hbuilt
  have hnodup : ∀ shape ∈ shapes,
      shape.name ∉ previous.entityNames → shape.outline.properties.Nodup :=
    Declaration.forall_outline_of_buildAll hbuilt
      (P := fun o => o.name ∉ previous.entityNames → o.properties.Nodup) hnew
  have haccounts := Assigner.accounts_assignAll
    (Assigner.sound_start hconsistent.toUnambiguous nameSpace options.strategy options.source) hne
    ((newTo_empty_iff _).mpr (hnames ▸ hdistinct)) hnodup
  rw [houtlines] at haccounts
  unfold deriveModel
  rw [hvalid, hbuilt]
  dsimp only
  cases hassigned : ((Assigner.start previous nameSpace options.strategy
      options.source).assignAll shapes).result with
  | error e =>
      rw [hassigned] at haccounts
      exact haccounts
  | ok entities =>
      rw [hassigned] at haccounts
      exact haccounts

/-- Such a derivation comes out exactly if what it asks for is there and its numbers have slots. -/
theorem exists_deriveModel_iff {nameSpace : String} {declarations : List Declaration}
    {previous : Snapshot} {options : DeriveOptions} {shapes : List EntityShape}
    (hvalid : previous.validate = .ok ())
    (hbuilt : Declaration.buildAll declarations = .ok shapes)
    (hdistinct : (declarations.map (·.name)).Nodup)
    (hnew : ∀ d ∈ declarations, d.name ∉ previous.entityNames → d.storedNames.Nodup) :
    (∃ model merged, (deriveModel nameSpace declarations previous options).result =
        .ok (model, merged)) ↔
      previous.Admits nameSpace options (declarations.map (·.outline)) ∧
        previous.Slotted (declarations.map (·.outline)) := by
  have haccounts : previous.Accounts nameSpace options (declarations.map (·.outline))
      (deriveModel nameSpace declarations previous options).result :=
    deriveModel_accounts hvalid hbuilt hdistinct hnew
  constructor
  · rintro ⟨model, merged, h⟩
    rw [h] at haccounts
    exact haccounts
  · rintro ⟨hadmits, hslotted⟩
    cases hresult : (deriveModel nameSpace declarations previous options).result with
    | ok out => exact ⟨out.1, out.2, rfl⟩
    -- either refusal would show something asked for, or a number without a slot
    | error e =>
        rw [hresult] at haccounts
        rcases haccounts with ⟨-, hnot⟩ | ⟨-, hnot⟩
        · exact absurd ⟨hadmits, hslotted.wordSized⟩ hnot
        · exact absurd hslotted hnot

end RecordSchema
