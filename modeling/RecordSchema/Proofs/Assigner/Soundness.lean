/-
What identifying one entity comes to.

Between two entities of a run the assigner is sound: its snapshot is unambiguous, and its ledger
holds exactly the UIDs that the snapshot records. So a UID that the ledger lets through is new to
the snapshot, and `identify_of_ok` concludes that an entity which is identified, whether it was
recorded or not, extends the snapshot by its outline and leaves the assigner sound.

A numeric ID of a property is known to be in range only once the property has been laid out. What
is needed before that is only that there is a word for it (`EntityRecord.HasRoom`), and that follows
if every identifier of the answer has a slot.
-/
import RecordSchema.Proofs.Assigner.Minting
import RecordSchema.Proofs.Assigner.Renewal

set_option autoImplicit false

namespace RecordSchema

namespace EntityRecord

/-- The identifiers of a record's properties are found by their names. -/
theorem map_property?_of_nodup {r : EntityRecord} (h : r.propertyNames.Nodup) :
    r.propertyNames.map (fun name => (r.property? name).map (·.id)) =
      (r.properties.map (·.id)).map some := by
  rw [propertyNames, List.map_map, List.map_map]
  refine List.map_congr_left fun p hp => ?_
  have hfound : r.property? p.name = some p := (find?_key_eq_some_iff h).mpr ⟨hp, rfl⟩
  simp only [Function.comp_apply, hfound, Option.map_some]

end EntityRecord

namespace Assigner

/-! ## Soundness -/

/-- The ledger of an assigner holds what its snapshot records, each UID for one thing. -/
structure Sound (a : Assigner) : Prop where
  unambiguous : a.snapshot.Unambiguous
  ledger : ∀ uid, uid ∈ a.ledger.uids ↔ uid ∈ a.snapshot.uids

/-- The names that an assigner's snapshot records are distinct, and its ledger holds what it
records. This is what is left of soundness where the properties of a new entity may share a name. -/
structure Coherent (a : Assigner) : Prop where
  names : a.snapshot.entityNames.Nodup
  ledger : ∀ uid, uid ∈ a.ledger.uids ↔ uid ∈ a.snapshot.uids

theorem Sound.coherent {a : Assigner} (h : a.Sound) : a.Coherent :=
  ⟨h.unambiguous.names, h.ledger⟩

/-- A run starts sound on a snapshot that is accepted. -/
theorem sound_start {s : Snapshot} (h : s.Unambiguous) (nameSpace : String)
    (strategy : IdStrategy) (source : Option String) :
    (start s nameSpace strategy source).Sound := by
  refine ⟨h, fun uid => ?_⟩
  change uid ∈ (Ledger.ofSnapshot s).uids ↔ uid ∈ s.uids
  rw [Ledger.uids_ofSnapshot, List.mem_reverse]

/-- UIDs that are new to the ledger are new to the snapshot. -/
theorem Coherent.newTo {a : Assigner} (ha : a.Coherent) {uids : List UInt64}
    (h : NewTo a.ledger.uids uids) : NewTo a.snapshot.uids uids :=
  (NewTo.congr ha.ledger).mp h

/-! ## One entity -/

/-- What identifying an entity without a refusal has done. -/
structure Identifies (a : Assigner) (outline : Outline) (id : IdUid) (ids : List IdUid)
    (after : Assigner) : Prop where
  sound : after.Sound
  fits : a.snapshot.Fits a.nameSpace a.options [outline]
  snapshot : after.snapshot = a.snapshot.extend a.nameSpace a.options [outline]
  rest : after = { a with ledger := after.ledger, snapshot := after.snapshot }
  record : ∃ r ∈ after.snapshot.entities, r.name = outline.name ∧ r.id = id ∧
    outline.properties.map (fun name => (r.property? name).map (·.id)) = ids.map some

/-- A recorded entity is renewed. -/
theorem identify_of_mem {a : Assigner} {name : String} (h : name ∈ a.snapshot.entityNames)
    (properties : List String) :
    ∃ i r, a.snapshot.entities.find? (·.name = name) = some r ∧
      a.snapshot.entities.findIdx? (·.name = name) = some i ∧
      a.identify name properties = a.reuse i r properties := by
  cases hr : a.snapshot.entities.find? (·.name = name) with
  | none => exact absurd h ((find?_key_eq_none_iff EntityRecord.name _).mp hr)
  | some r =>
      obtain ⟨i, hi, -⟩ := findIdx?_of_find? hr
      refine ⟨i, r, rfl, hi, ?_⟩
      unfold identify Snapshot.entity?
      rw [hi, hr]

/-- An entity that was never recorded is minted. -/
theorem identify_of_notMem {a : Assigner} {name : String} (h : name ∉ a.snapshot.entityNames)
    (properties : List String) : a.identify name properties = a.mint name properties := by
  have hr := (find?_key_eq_none_iff EntityRecord.name a.snapshot.entities).mpr h
  unfold identify Snapshot.entity?
  rw [hr]
  split
  · rename_i heq
    cases heq
  · rfl

theorem reuse_of_ok {a : Assigner} {i : Nat} {r : EntityRecord} {properties : List String}
    {id : IdUid} {ids : List IdUid} (h : (a.reuse i r properties).result = .ok (id, ids)) :
    id = r.id ∧ (Renewal.run a.ledger a.source r properties).result = .ok ids := by
  unfold reuse at h
  dsimp only at h
  cases hrun : (Renewal.run a.ledger a.source r properties).result with
  | error e =>
      rw [hrun] at h
      cases h
  | ok ids' =>
      rw [hrun] at h
      cases h
      exact ⟨rfl, rfl⟩

/-! ### Recorded entities -/

section Recorded

variable {a : Assigner} {outline : Outline} {r : EntityRecord}

/-- An assigner that declares a record of its snapshot and enters the UIDs of the properties added
to it stays coherent. -/
theorem Coherent.extend_of_mem (ha : a.Coherent) {after : Assigner}
    (hr : r ∈ a.snapshot.entities) (hname : r.name = outline.name)
    (hsnapshot : after.snapshot = a.snapshot.extend a.nameSpace a.options [outline])
    (hledger : after.ledger = a.ledger.enterProperties r.name (r.added outline.properties)) :
    after.Coherent := by
  have hnil : a.snapshot.newOutlines [outline] = [] :=
    Snapshot.newOutlines_cons_of_mem (hname ▸ List.mem_map_of_mem hr) []
  refine ⟨?_, fun uid => ?_⟩
  · rw [hsnapshot, Snapshot.entityNames_extend, hnil, List.map_nil, List.append_nil]
    exact ha.names
  · -- both sides have gained the same UIDs, only in another order
    have hperm := a.snapshot.uids_extend_of_mem a.nameSpace a.options ha.names hr hname
    rw [hsnapshot, hperm.mem_iff, hledger, Ledger.uids_enterProperties, List.mem_append,
      List.mem_append, List.mem_reverse, ha.ledger, or_comm]

/-- It stays sound if there are numbers for these properties and their UIDs are new. -/
private theorem Sound.extend_of_mem (ha : a.Sound) {after : Assigner}
    (hr : r ∈ a.snapshot.entities) (hname : r.name = outline.name)
    (hnum : Numberable r.id.uid r.nextNumber (r.newNames outline.properties).length)
    (hnew : NewTo a.ledger.uids ((r.added outline.properties).map (·.id.uid)))
    (hsnapshot : after.snapshot = a.snapshot.extend a.nameSpace a.options [outline])
    (hledger : after.ledger = a.ledger.enterProperties r.name (r.added outline.properties)) :
    after.Sound := by
  refine ⟨?_, (ha.coherent.extend_of_mem hr hname hsnapshot hledger).ledger⟩
  rw [hsnapshot]
  exact ha.unambiguous.extend_of_mem hr hname hnum (ha.coherent.newTo hnew)

/-- Replacing a record by its declared form at the position of its name is extending the snapshot by
the outline. -/
theorem snapshot_reuse (hnames : a.snapshot.entityNames.Nodup) {i : Nat}
    (hr : a.snapshot.entities.find? (·.name = outline.name) = some r)
    (hi : a.snapshot.entities.findIdx? (·.name = outline.name) = some i)
    (hrecord : (Renewal.run a.ledger a.source r outline.properties).state.record =
      r.declared a.source outline.properties) :
    (a.reuse i r outline.properties).state.snapshot =
      a.snapshot.extend a.nameSpace a.options [outline] := by
  obtain ⟨hmem, hname⟩ := (find?_key_eq_some_iff hnames).mp hr
  have hset := set_findIdx?_eq_map hnames hr hi
    fun e => e.declared a.source outline.properties
  have hredeclared : ∀ e : EntityRecord, e.redeclared a.source [outline] =
      if e.name = outline.name then e.declared a.source outline.properties else e := by
    intro e
    by_cases he : outline.name = e.name
    · rw [if_pos he.symm]
      simp [EntityRecord.redeclared, he]
    · rw [if_neg (Ne.symm he)]
      simp [EntityRecord.redeclared, he]
  have hnone : a.snapshot.newRecords a.nameSpace a.options [outline] = [] :=
    Snapshot.newRecords_singleton_of_mem _ _ (hname ▸ List.mem_map_of_mem hmem)
  ext1
  · rfl
  · change a.snapshot.lastEntityId = a.snapshot.mergedLastId a.nameSpace a.options [outline]
    rw [Snapshot.mergedLastId, hnone, List.map_nil, List.append_nil, highestOf_toList]
  · change a.snapshot.entities.set i _ =
      a.snapshot.entities.map (·.redeclared a.source [outline]) ++
        a.snapshot.newRecords a.nameSpace a.options [outline]
    rw [hrecord, hset, hnone, List.append_nil]
    simp only [hredeclared]

/-- Renewing a recorded entity extends the snapshot by its outline. -/
private theorem identifies_of_reuse (ha : a.Sound) {i : Nat} {id : IdUid} {ids : List IdUid}
    (hr : a.snapshot.entities.find? (·.name = outline.name) = some r)
    (hi : a.snapshot.entities.findIdx? (·.name = outline.name) = some i)
    (h : (a.reuse i r outline.properties).result = .ok (id, ids))
    (hroom : r.HasRoom outline.properties) :
    Identifies a outline id ids (a.reuse i r outline.properties).state := by
  obtain ⟨hmem, hname⟩ := (find?_key_eq_some_iff ha.unambiguous.names).mp hr
  obtain ⟨rfl, hrun⟩ := reuse_of_ok h
  obtain ⟨hnum, hnew, hrecord, hledger, hfound⟩ :=
    Renewal.run_of_ok (ha.unambiguous.entities r hmem).names hroom hrun
  have hsnapshot := snapshot_reuse ha.unambiguous.names hr hi hrecord
  obtain ⟨before, after, hs, hbefore, hafter⟩ :=
    exists_split_of_nodup_map ha.unambiguous.names hmem
  refine ⟨ha.extend_of_mem hmem hname hnum hnew hsnapshot hledger,
    Snapshot.Fits.singleton_of_mem _ _ ha.unambiguous.names hmem hname hnum, hsnapshot, rfl,
    r.declared a.source outline.properties, ?_, hname, rfl, hfound⟩
  rw [hsnapshot, a.snapshot.entities_extend_of_split _ _ hs hbefore hafter hname]
  exact List.mem_append_right _ List.mem_cons_self

end Recorded

/-! ### New entities -/

section New

variable {a : Assigner} {outline : Outline} {id : IdUid}

/-- An assigner that records a fresh entity and enters its UIDs stays coherent. -/
theorem Coherent.extend_of_notMem (ha : a.Coherent) {after : Assigner} {ids : List IdUid}
    (hname : outline.name ∉ a.snapshot.entityNames) (h : Mints a outline id ids after)
    (hsnapshot : after.snapshot = a.snapshot.extend a.nameSpace a.options [outline]) :
    after.Coherent := by
  refine ⟨?_, fun uid => ?_⟩
  · rw [hsnapshot, Snapshot.entityNames_extend, Snapshot.newOutlines_cons_of_notMem hname,
      nodup_append_iff_newTo]
    exact ⟨ha.names, newTo_singleton_iff.mpr hname⟩
  · have hledger : after.ledger = a.ledger.enterRecord (.fresh a.source outline id) := by
      rw [h.state]
    have huids := a.snapshot.uids_extend_of_notMem a.nameSpace a.options hname
    change _ = a.snapshot.uids ++ (EntityRecord.fresh a.source outline
      (a.snapshot.issuedId a.nameSpace a.strategy 0 outline.name)).uids at huids
    rw [hsnapshot, huids, ← h.issued, hledger, Ledger.uids_enterRecord, List.mem_append,
      List.mem_append, List.mem_reverse, ha.ledger, or_comm]

/-- It stays sound if the properties of the entity have names of their own. -/
private theorem Sound.extend_of_notMem (ha : a.Sound) {after : Assigner} {ids : List IdUid}
    (hnames : outline.properties.Nodup) (hname : outline.name ∉ a.snapshot.entityNames)
    (h : Mints a outline id ids after)
    (hsnapshot : after.snapshot = a.snapshot.extend a.nameSpace a.options [outline]) :
    after.Sound := by
  refine ⟨?_, (ha.coherent.extend_of_notMem hname h hsnapshot).ledger⟩
  rw [hsnapshot]
  exact ha.unambiguous.extend_of_notMem hname h.issued h.newId h.range hnames h.numberable
    (ha.coherent.newTo h.newTo)

/-- Appending the record of a minted entity is extending the snapshot by its outline. -/
theorem Mints.snapshot {after : Assigner} {ids : List IdUid}
    (hname : outline.name ∉ a.snapshot.entityNames) (h : Mints a outline id ids after) :
    after.snapshot = a.snapshot.extend a.nameSpace a.options [outline] := by
  have hentities := a.snapshot.entities_extend_of_notMem a.nameSpace a.options hname
  rw [h.state]
  ext1
  · rfl
  · change _ = a.snapshot.mergedLastId a.nameSpace a.options [outline]
    rw [Snapshot.mergedLastId, Snapshot.newRecords_singleton_of_notMem _ _ hname, h.issued]
    rfl
  · rw [hentities, h.issued]
    rfl

/-- Minting an entity extends the snapshot by its outline. -/
private theorem identifies_of_mint (ha : a.Sound) {ids : List IdUid}
    (hnames : outline.properties.Nodup) (hname : outline.name ∉ a.snapshot.entityNames)
    (h : (a.mint outline.name outline.properties).result = .ok (id, ids)) :
    Identifies a outline id ids (a.mint outline.name outline.properties).state := by
  have hmints := mint_of_ok h
  have hsnapshot := hmints.snapshot hname
  have hnum := hmints.numberable
  rw [hmints.issued, Snapshot.uid_issuedId] at hnum
  refine ⟨ha.extend_of_notMem hnames hname hmints hsnapshot,
    Snapshot.Fits.singleton_of_notMem _ _ hname hnum, hsnapshot, ?_,
    .fresh a.source outline id, ?_, rfl, rfl, ?_⟩
  · rw [hmints.state]
  · rw [hmints.state]
    exact List.mem_append_right _ (List.mem_singleton_self _)
  · -- the properties of the record have the names of the outline, in its order
    have hfresh := EntityRecord.propertyNames_fresh a.source outline id
    have hfound := EntityRecord.map_property?_of_nodup (hfresh ▸ hnames)
    rw [hfresh] at hfound
    rw [hfound, hmints.ids]
    rfl

end New

/-- If every identifier of the answer has a slot, there was a word for each new number. -/
theorem hasRoom_of_identify {a : Assigner} (ha : a.Sound) {outline : Outline} {id : IdUid}
    {ids : List IdUid} (h : (a.identify outline.name outline.properties).result = .ok (id, ids))
    (hids : ∀ id ∈ ids, id.id.toNat ≤ maxPropertyId) {r : EntityRecord}
    (hr : r ∈ a.snapshot.entities) (hname : r.name = outline.name) :
    r.HasRoom outline.properties := by
  have hmem : outline.name ∈ a.snapshot.entityNames := hname ▸ List.mem_map_of_mem hr
  obtain ⟨i, r', hr', -, heq⟩ := identify_of_mem hmem outline.properties
  have hfound := (find?_key_eq_some_iff ha.unambiguous.names).mpr ⟨hr, hname⟩
  obtain rfl : r' = r := Option.some.inj (hr'.symm.trans hfound)
  rw [heq] at h
  exact Renewal.hasRoom_of_run (ha.unambiguous.entities r' hr).names (reuse_of_ok h).2 hids

/-- An entity that is identified extends the snapshot by its outline and leaves the assigner sound.
Only where the entity is new do its properties need names of their own, and only where it was
recorded can they be out of numbers. -/
theorem identify_of_ok {a : Assigner} (ha : a.Sound) {outline : Outline}
    (hnames : outline.name ∉ a.snapshot.entityNames → outline.properties.Nodup)
    (hroom : ∀ r ∈ a.snapshot.entities, r.name = outline.name → r.HasRoom outline.properties)
    {id : IdUid} {ids : List IdUid}
    (h : (a.identify outline.name outline.properties).result = .ok (id, ids)) :
    Identifies a outline id ids (a.identify outline.name outline.properties).state := by
  by_cases hmem : outline.name ∈ a.snapshot.entityNames
  · obtain ⟨i, r, hr, hi, heq⟩ := identify_of_mem hmem outline.properties
    obtain ⟨hrmem, hrname⟩ := (find?_key_eq_some_iff ha.unambiguous.names).mp hr
    rw [heq] at h ⊢
    exact identifies_of_reuse ha hr hi h (hroom r hrmem hrname)
  · rw [identify_of_notMem hmem] at h ⊢
    exact identifies_of_mint ha (hnames hmem) hmem h

end Assigner

end RecordSchema
