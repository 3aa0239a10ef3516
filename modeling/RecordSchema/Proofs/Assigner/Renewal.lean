/-
What the renewal of a recorded entity comes to.

A renewal goes through the declared names one by one: it revives the properties that are recorded,
appends those that are not, and in the end retires the rest. `run_of_ok` says that a renewal which
refuses nothing has turned the record into `EntityRecord.declared` and has entered the UIDs of the
added properties, which were new.

The counter of a renewal stays where it is at the highest word, while the numbers in the merged
record go on. The two never differ: a second property of the same number would claim the same UID,
and a first one has no slot. That there is a word for the first new property (`HasRoom`) is asked of
the record where a renewal is not yet known to have given only IDs with a slot.
-/
import RecordSchema.Proofs.Merge

set_option autoImplicit false

namespace RecordSchema

/-! ## Looking up properties -/

namespace EntityRecord

/-- The record once declared names have been gone through and new properties appended, before the
undeclared ones are retired. -/
def listed (r : EntityRecord) (names : List String) (new : List PropertyRecord) : EntityRecord :=
  { r with
    lastPropertyId := (new.getLast?.map (·.id)).or r.lastPropertyId
    properties :=
      r.properties.map (fun p => { p with retired := p.retired && !names.contains p.name }) ++ new }

/-- A property is found where its name was recorded, else among the new ones. -/
theorem map_id_property?_listed (r : EntityRecord) (names : List String)
    (new : List PropertyRecord) (name : String) :
    ((r.listed names new).property? name).map (·.id) =
      ((r.property? name).map (·.id)).or ((new.find? (·.name = name)).map (·.id)) := by
  unfold property? listed
  dsimp only
  rw [List.find?_append, List.find?_map]
  change (((r.properties.find? (·.name = name)).map _).or _).map _ = _
  cases r.properties.find? (·.name = name) <;> rfl

theorem property?_eq_none_iff {r : EntityRecord} {name : String} :
    r.property? name = none ↔ name ∉ r.propertyNames :=
  find?_key_eq_none_iff PropertyRecord.name r.properties

/-- A recorded name needs no new property. -/
theorem newNames_cons_of_mem {r : EntityRecord} {name : String} (h : name ∈ r.propertyNames)
    (names : List String) : r.newNames (name :: names) = r.newNames names := by
  simp [newNames, h]

/-- The first of some names that is not recorded comes first among the new ones, and counts as
recorded for the rest. -/
theorem newNames_cons_of_notMem {r after : EntityRecord} {name : String}
    (h : name ∉ r.propertyNames) (hafter : after.propertyNames = r.propertyNames ++ [name])
    (names : List String) : r.newNames (name :: names) = name :: after.newNames names := by
  have hfilter : (names.filter fun n => !r.propertyNames.contains n).filter (fun n => !n == name) =
      names.filter fun n => !after.propertyNames.contains n := by
    rw [List.filter_filter, hafter]
    refine List.filter_congr fun n _ => ?_
    by_cases hn : n = name <;> simp [hn]
  rw [newNames, List.filter_cons_of_pos (by simpa using h), List.eraseDups_cons, hfilter, newNames]

end EntityRecord

/-! ## One name -/

namespace Renewal

theorem property_of_find? {r : Renewal} {name : String} {p : PropertyRecord}
    (h : r.record.property? name = some p) :
    ∃ i, r.record.properties.findIdx? (·.name = name) = some i ∧ r.property name = r.reuse i p := by
  obtain ⟨i, hi, -⟩ := findIdx?_of_find? h
  refine ⟨i, hi, ?_⟩
  unfold property
  rw [hi, h]

theorem property_of_notMem {r : Renewal} {name : String} (h : name ∉ r.record.propertyNames) :
    r.property name = r.mint name := by
  unfold property
  rw [EntityRecord.property?_eq_none_iff.mpr h]
  split
  · rename_i heq
    cases heq
  · rfl

/-- The record and the ledger after a property with a given identifier was added. -/
def withNew (r : Renewal) (name : String) (id : IdUid) : Renewal where
  record :=
    { r.record with
      properties := r.record.properties ++ [⟨id, name, false⟩], lastPropertyId := some id }
  ledger := r.ledger.enter id.uid (.property r.record.name name)
  nextId := nextPropertyId r.nextId

/-- A property that is added has the next number and a UID that was new. -/
theorem mint_of_ok {r : Renewal} {name : String} {id : IdUid}
    (h : (r.mint name).result = .ok id) :
    id.id = r.nextId ∧
      id.uid.toNat = r.record.id.uid.toNat * uidScale + r.nextId.toNat ∧
      id.uid ∉ r.ledger.uids ∧ (r.mint name).state = r.withNew name id := by
  unfold mint at h ⊢
  cases huid : propertyUid? r.record.id.uid r.nextId with
  | none =>
      rw [huid] at h
      cases h
  | some uid =>
      rw [huid] at h
      dsimp only at h ⊢
      cases hledger : r.ledger.mint uid (.property r.record.name name) with
      | error e =>
          rw [hledger] at h
          cases h
      | ok ledger =>
          rw [hledger] at h
          cases h
          obtain ⟨hnew, rfl⟩ := Ledger.mint_eq_ok_iff.mp hledger
          exact ⟨rfl, propertyUid?_eq_some_iff.mp huid, hnew, rfl⟩

/-- Taking a property up again leaves the record with that property live. -/
theorem record_reuse {r : Renewal} {name : String} {p : PropertyRecord} {i : Nat}
    (hr : r.record.propertyNames.Nodup) (hp : r.record.property? name = some p)
    (hi : r.record.properties.findIdx? (·.name = name) = some i) :
    (r.reuse i p).state.record.properties =
      r.record.properties.map fun q => if q.name = name then { q with retired := false } else q :=
  set_findIdx?_eq_map hr hp hi fun q => { q with retired := false }

theorem propertyNames_reuse {r : Renewal} {name : String} {p : PropertyRecord} {i : Nat}
    (hr : r.record.propertyNames.Nodup) (hp : r.record.property? name = some p)
    (hi : r.record.properties.findIdx? (·.name = name) = some i) :
    (r.reuse i p).state.record.propertyNames = r.record.propertyNames := by
  rw [EntityRecord.propertyNames, record_reuse hr hp hi, EntityRecord.propertyNames, List.map_map]
  refine List.map_congr_left fun q _ => ?_
  simp only [Function.comp_apply]
  split <;> rfl

/-- A name whose property is taken up again needs no new one, and the rest need what they needed. -/
theorem newNames_reuse {r : Renewal} {name : String} {p : PropertyRecord} {i : Nat}
    (hr : r.record.propertyNames.Nodup) (hp : r.record.property? name = some p)
    (hi : r.record.properties.findIdx? (·.name = name) = some i) (names : List String) :
    (r.reuse i p).state.record.newNames names = r.record.newNames (name :: names) := by
  have hmem : name ∈ r.record.propertyNames := by
    by_contra hn
    rw [EntityRecord.property?_eq_none_iff.mpr hn] at hp
    cases hp
  rw [EntityRecord.newNames_cons_of_mem hmem, EntityRecord.newNames,
    propertyNames_reuse hr hp hi]
  rfl

theorem propertyNames_withNew (r : Renewal) (name : String) (id : IdUid) :
    (r.withNew name id).record.propertyNames = r.record.propertyNames ++ [name] := by
  simp [EntityRecord.propertyNames, withNew]

/-! ## All names -/

/-- The records that a renewal appends for declared names. -/
def newRecords (r : Renewal) (names : List String) : List PropertyRecord :=
  PropertyRecord.numbered r.record.id.uid r.nextId.toNat (r.record.newNames names)

/-- What going through declared names without a refusal has done. -/
structure Listed (r : Renewal) (names : List String) (ids : List IdUid) (after : Renewal) :
    Prop where
  numberable : Numberable r.record.id.uid r.nextId.toNat (r.record.newNames names).length
  newTo : NewTo r.ledger.uids ((r.newRecords names).map (·.id.uid))
  record : after.record = r.record.listed names (r.newRecords names)
  ledger : after.ledger = r.ledger.enterProperties r.record.name (r.newRecords names)
  ids : names.map (fun name => (after.record.property? name).map (·.id)) = ids.map some

/-- Going on after a recorded property. -/
private theorem Listed.cons_recorded {r after : Renewal} {name : String} {names : List String}
    {ids : List IdUid} {p : PropertyRecord} {i : Nat} (hr : r.record.propertyNames.Nodup)
    (hp : r.record.property? name = some p)
    (hi : r.record.properties.findIdx? (·.name = name) = some i)
    (h : (r.reuse i p).state.Listed names ids after) :
    r.Listed (name :: names) (p.id :: ids) after := by
  have hprops := record_reuse hr hp hi
  have hnew := newNames_reuse hr hp hi names
  have hrecords : (r.reuse i p).state.newRecords names = r.newRecords (name :: names) := by
    rw [newRecords, hnew]
    rfl
  have hlive : r.record.properties.map ((fun q : PropertyRecord =>
        { q with retired := q.retired && !names.contains q.name }) ∘
          fun q => if q.name = name then { q with retired := false } else q) =
      r.record.properties.map fun q =>
        { q with retired := q.retired && !(name :: names).contains q.name } := by
    refine List.map_congr_left fun q _ => ?_
    by_cases hq : q.name = name <;> simp [hq]
  have hrecord : after.record = r.record.listed (name :: names) (r.newRecords (name :: names)) := by
    rw [h.record, hrecords, EntityRecord.listed, hprops, List.map_map, hlive]
    rfl
  refine ⟨?_, ?_, hrecord, ?_, ?_⟩
  · rw [← hnew]
    exact h.numberable
  · rw [← hrecords]
    exact h.newTo
  · rw [h.ledger, hrecords]
    rfl
  · rw [List.map_cons, List.map_cons, h.ids, hrecord, EntityRecord.map_id_property?_listed, hp]
    rfl

/-- A renewal counts on, unless its counter is at the highest word. -/
private theorem withNew_nextId {r : Renewal} (name : String) (id : IdUid) :
    (r.withNew name id).nextId.toNat = r.nextId.toNat + 1 ∨
      (r.withNew name id).nextId.toNat = r.nextId.toNat := by
  have hlt := r.nextId.toNat_lt_size
  change (nextPropertyId r.nextId).toNat = _ ∨ (nextPropertyId r.nextId).toNat = _
  rw [nextPropertyId_toNat]
  omega

/-- What is appended after a new property is numbered from one past it: a counter that stood still
would have the same UID claimed twice. -/
private theorem Listed.newRecords_withNew {r after : Renewal} {name : String}
    {names : List String} {ids : List IdUid} {id : IdUid}
    (huid : id.uid.toNat = r.record.id.uid.toNat * uidScale + r.nextId.toNat)
    (h : (r.withNew name id).Listed names ids after) :
    Numberable r.record.id.uid (r.nextId.toNat + 1)
        ((r.withNew name id).record.newNames names).length ∧
      (r.withNew name id).newRecords names =
        PropertyRecord.numbered r.record.id.uid (r.nextId.toNat + 1)
          ((r.withNew name id).record.newNames names) := by
  have hnum := h.numberable
  have hnew := h.newTo
  rw [newRecords] at hnew ⊢
  change Numberable r.record.id.uid _ _ at hnum
  change NewTo (id.uid :: r.ledger.uids)
    ((PropertyRecord.numbered r.record.id.uid _ _).map _) at hnew
  change _ ∧ PropertyRecord.numbered r.record.id.uid _ _ = _
  -- the counter went on, or it stood still and what comes next would have claimed `id` again
  rcases withNew_nextId name id with hnext | hnext
  · rw [hnext] at hnum ⊢
    exact ⟨hnum, rfl⟩
  · rw [hnext] at hnum hnew ⊢
    cases hnames : (r.withNew name id).record.newNames names with
    | nil => exact ⟨fun k hk => absurd hk (Nat.not_lt_zero k), rfl⟩
    | cons n ns =>
        rw [hnames, PropertyRecord.numbered_cons, List.map_cons, newTo_cons_iff] at hnew
        refine absurd ?_ hnew.1
        have heq : UInt64.ofNat (r.record.id.uid.toNat * uidScale + r.nextId.toNat) = id.uid := by
          rw [← huid, UInt64.ofNat_toNat]
        rw [heq]
        exact List.mem_cons_self

/-- Going on after a new property. -/
private theorem Listed.cons_new {r after : Renewal} {name : String} {names : List String}
    {ids : List IdUid} {id : IdUid} (hname : name ∉ r.record.propertyNames)
    (hid : id.id = r.nextId)
    (huid : id.uid.toNat = r.record.id.uid.toNat * uidScale + r.nextId.toNat)
    (hfree : id.uid ∉ r.ledger.uids) (h : (r.withNew name id).Listed names ids after) :
    r.Listed (name :: names) (id :: ids) after := by
  obtain ⟨hnum, hrest⟩ := h.newRecords_withNew huid
  have hnew :=
    EntityRecord.newNames_cons_of_notMem hname (r.propertyNames_withNew name id) names
  have hfirst : (⟨UInt32.ofNat r.nextId.toNat,
      UInt64.ofNat (r.record.id.uid.toNat * uidScale + r.nextId.toNat)⟩ : IdUid) = id := by
    rw [← huid, UInt32.ofNat_toNat, UInt64.ofNat_toNat, ← hid]
  have hrecords : r.newRecords (name :: names) =
      ⟨id, name, false⟩ :: (r.withNew name id).newRecords names := by
    rw [hrest, newRecords, hnew, PropertyRecord.numbered_cons, hfirst]
  have hlive : r.record.properties.map (fun q : PropertyRecord =>
        { q with retired := q.retired && !names.contains q.name }) =
      r.record.properties.map fun q =>
        { q with retired := q.retired && !(name :: names).contains q.name } := by
    refine List.map_congr_left fun q hq => ?_
    have hne : q.name ≠ name := fun he => hname (he ▸ List.mem_map_of_mem hq)
    simp [hne]
  have hrecord : after.record =
      r.record.listed (name :: names) (r.newRecords (name :: names)) := by
    have hlast : (((r.withNew name id).newRecords names).getLast?.map (·.id)).or (some id) =
        ((r.newRecords (name :: names)).getLast?.map (·.id)).or r.record.lastPropertyId := by
      rw [hrecords, List.getLast?_cons]
      cases ((r.withNew name id).newRecords names).getLast? <;> rfl
    rw [h.record]
    unfold EntityRecord.listed
    rw [← hlast, hrecords, ← hlive]
    simp [withNew]
  refine ⟨?_, ?_, hrecord, ?_, ?_⟩
  · rw [hnew, List.length_cons, numberable_succ_iff]
    exact ⟨⟨r.nextId.toNat_lt_size, huid ▸ id.uid.toNat_lt_size⟩, hnum⟩
  · rw [hrecords, List.map_cons, newTo_cons_iff]
    exact ⟨hfree, h.newTo⟩
  · rw [h.ledger, hrecords]
    rfl
  · rw [List.map_cons, List.map_cons, h.ids, hrecord, EntityRecord.map_id_property?_listed,
      EntityRecord.property?_eq_none_iff.mpr hname, hrecords]
    simp

/-- Going through several names is going through the first and then through the rest. -/
theorem properties_cons_of_ok {r : Renewal} {name : String} {names : List String}
    {ids : List IdUid} (h : (r.properties (name :: names)).result = .ok ids) :
    ∃ id rest, (r.property name).result = .ok id ∧
      ((r.property name).state.properties names).result = .ok rest ∧ ids = id :: rest ∧
      (r.properties (name :: names)).state =
        ((r.property name).state.properties names).state := by
  rw [properties] at h ⊢
  dsimp only at h ⊢
  cases hone : (r.property name).result with
  | error e =>
      rw [hone] at h
      cases h
  | ok id =>
      rw [hone] at h
      dsimp only at h ⊢
      cases hmore : ((r.property name).state.properties names).result with
      | error e =>
          rw [hmore] at h
          cases h
      | ok rest =>
          rw [hmore] at h
          cases h
          exact ⟨id, rest, rfl, rfl, rfl, rfl⟩

/-- Going through declared names without a refusal revives the recorded ones, appends the others
and answers with the identifiers that the record then has for them. -/
theorem properties_of_ok {r : Renewal} {names : List String} {ids : List IdUid}
    (hr : r.record.propertyNames.Nodup) (h : (r.properties names).result = .ok ids) :
    r.Listed names ids (r.properties names).state := by
  -- what is asked of the record, that its names are distinct, is kept by both steps
  induction names generalizing r ids with
  | nil =>
      cases h
      refine ⟨fun k hk => absurd hk (Nat.not_lt_zero k), newTo_nil _, ?_, rfl, rfl⟩
      simp [properties, EntityRecord.listed, newRecords, EntityRecord.newNames]
  | cons name names ih =>
      obtain ⟨id, rest, hone, hmore, rfl, hstate⟩ := properties_cons_of_ok h
      rw [hstate]
      cases hp : r.record.property? name with
      | some p =>
          obtain ⟨i, hi, heq⟩ := property_of_find? hp
          rw [heq] at hone hmore ⊢
          cases hone
          have hnames := propertyNames_reuse hr hp hi
          exact Listed.cons_recorded hr hp hi (ih (hnames ▸ hr) hmore)
      | none =>
          have hname := EntityRecord.property?_eq_none_iff.mp hp
          rw [property_of_notMem hname] at hone hmore ⊢
          obtain ⟨hid, huid, hfree, hafter⟩ := mint_of_ok hone
          rw [hafter] at hmore ⊢
          refine Listed.cons_new hname hid huid hfree (ih ?_ hmore)
          rw [propertyNames_withNew, nodup_append_iff_newTo]
          exact ⟨hr, newTo_singleton_iff.mpr hname⟩

/-- The answer has the identifiers of all properties that were appended. -/
theorem Listed.id_mem {r after : Renewal} {names : List String} {ids : List IdUid}
    (h : r.Listed names ids after) {p : PropertyRecord} (hp : p ∈ r.newRecords names) :
    p.id ∈ ids := by
  have hnames : (r.newRecords names).map (·.name) = r.record.newNames names :=
    PropertyRecord.map_name_numbered _
  have hpn : p.name ∈ r.record.newNames names := hnames ▸ List.mem_map_of_mem hp
  obtain ⟨hdeclared, hnew⟩ := EntityRecord.mem_newNames_iff.mp hpn
  have hfound : (r.newRecords names).find? (·.name = p.name) = some p :=
    (find?_key_eq_some_iff (hnames ▸ (r.record.newTo_newNames names).1)).mpr ⟨hp, rfl⟩
  -- its name is a declared one, and looking it up finds the new property
  have hlookup : (after.record.property? p.name).map (·.id) = some p.id := by
    rw [h.record, EntityRecord.map_id_property?_listed,
      EntityRecord.property?_eq_none_iff.mpr hnew, hfound]
    rfl
  have hmem : some p.id ∈ ids.map some := by
    rw [← h.ids, ← hlookup]
    exact List.mem_map_of_mem hdeclared
  simpa using hmem

/-! ## The whole renewal -/

/-- What a renewal without a refusal has done to a record. -/
structure Renews (before : Ledger) (source : Option String) (r : EntityRecord)
    (names : List String) (ids : List IdUid) (after : Renewal) : Prop where
  numberable : Numberable r.id.uid r.nextNumber (r.newNames names).length
  newTo : NewTo before.uids ((r.added names).map (·.id.uid))
  record : after.record = r.declared source names
  ledger : after.ledger = before.enterProperties r.name (r.added names)
  ids : names.map (fun name => ((r.declared source names).property? name).map (·.id)) =
    ids.map some

section Run

variable {ledger : Ledger} {source : Option String} {record : EntityRecord} {names : List String}
  {ids : List IdUid}

theorem run_eq_ok (h : (run ledger source record names).result = .ok ids) :
    ((start ledger source record).properties names).result = .ok ids ∧
      (run ledger source record names).state =
        (((start ledger source record).properties names).state.retireDropped names).2 := by
  unfold run at h ⊢
  dsimp only at h ⊢
  cases hlisted : ((start ledger source record).properties names).result with
  | error e =>
      rw [hlisted] at h
      cases h
  | ok ids' =>
      rw [hlisted] at h
      cases h
      exact ⟨rfl, rfl⟩

/-- A renewal counts on from the last number, if there is a word for the next one or none is
needed. -/
theorem start_of_hasRoom (ledger : Ledger) (source : Option String)
    (hroom : record.HasRoom names) :
    (Numberable record.id.uid (start ledger source record).nextId.toNat
        (record.newNames names).length ↔
      Numberable record.id.uid record.nextNumber (record.newNames names).length) ∧
      (start ledger source record).newRecords names = record.added names := by
  rcases hroom with hnil | hroom
  · rw [EntityRecord.added, hnil]
    refine ⟨iff_of_true ?_ ?_, ?_⟩
    · exact fun k hk => absurd hk (Nat.not_lt_zero k)
    · exact fun k hk => absurd hk (Nat.not_lt_zero k)
    · change PropertyRecord.numbered _ _ (record.newNames names) = _
      rw [hnil]
      rfl
  · have hnext : (start ledger source record).nextId.toNat = record.nextNumber := by
      unfold start EntityRecord.nextNumber at *
      cases hlast : record.lastPropertyId with
      | none => rfl
      | some last =>
          rw [hlast] at hroom
          dsimp only [Option.elim] at hroom ⊢
          rw [nextPropertyId_toNat]
          omega
    rw [EntityRecord.added, ← hnext]
    exact ⟨Iff.rfl, rfl⟩

/-- If every identifier of the answer has a slot, the counter never stood at the highest word. -/
theorem hasRoom_of_run (hr : record.propertyNames.Nodup)
    (h : (run ledger source record names).result = .ok ids)
    (hids : ∀ id ∈ ids, id.id.toNat ≤ maxPropertyId) : record.HasRoom names := by
  have hlisted := properties_of_ok (r := start ledger source record) hr (run_eq_ok h).1
  cases hnames : record.newNames names with
  | nil => exact Or.inl hnames
  | cons n ns =>
      right
      have hrecords : (start ledger source record).newRecords names =
          PropertyRecord.numbered record.id.uid (start ledger source record).nextId.toNat
            (n :: ns) := by
        rw [← hnames]
        rfl
      -- the first new property has the counter for its ID, and that ID has a slot
      rw [PropertyRecord.numbered_cons] at hrecords
      have hmem := hlisted.id_mem (hrecords.symm ▸ List.mem_cons_self)
      have hbound := hids _ hmem
      dsimp only at hbound
      rw [UInt32.ofNat_toNat] at hbound
      unfold start at hbound
      unfold EntityRecord.nextNumber
      cases hlast : record.lastPropertyId with
      | none => exact Nat.zero_lt_of_lt (UInt32.toNat_lt_size 0)
      | some last =>
          rw [hlast] at hbound
          dsimp only [Option.elim] at hbound ⊢
          rw [nextPropertyId_toNat] at hbound
          simp only [maxPropertyId, vtableHeaderBytes, vtableSlotBytes, UInt16.size,
            UInt32.size] at hbound ⊢
          omega

/-- Retiring what is not declared turns the listed record into the declared one. -/
private theorem record_retireDropped {r : Renewal} {new : List PropertyRecord}
    (hr : r.record = ({ record with retired := false, source } : EntityRecord).listed names new)
    (hnew : new = record.added names) :
    (r.retireDropped names).2.record = record.declared source names := by
  have hold : ∀ p : PropertyRecord,
      (let q := { p with retired := p.retired && !names.contains p.name }
        if isDropped names q then { q with retired := true } else q) =
        { p with retired := !names.contains p.name } := by
    intro p
    by_cases hc : p.name ∈ names <;> cases hp : p.retired <;> simp [isDropped, hc]
  have hadded : ∀ p ∈ record.added names,
      (if isDropped names p then { p with retired := true } else p) = p := by
    intro p hp
    have hpn : p.name ∈ record.newNames names :=
      record.map_name_added names ▸ List.mem_map_of_mem hp
    have hc : names.contains p.name = true := by
      simpa using (EntityRecord.mem_newNames_iff.mp hpn).1
    rw [isDropped, hc, Bool.not_true, Bool.and_false, if_neg Bool.false_ne_true]
  subst hnew
  unfold retireDropped
  dsimp only
  rw [hr, EntityRecord.listed, EntityRecord.declared]
  dsimp only
  rw [List.map_append, List.map_congr_left hadded, List.map_id', List.map_map]
  simp only [Function.comp_def, hold]

/-- Retiring properties leaves them where they are found. -/
private theorem map_id_property?_retireDropped (r : Renewal) (names : List String)
    (name : String) :
    ((r.retireDropped names).2.record.property? name).map (·.id) =
      (r.record.property? name).map (·.id) := by
  have hname : ∀ p : PropertyRecord,
      (if isDropped names p then { p with retired := true } else p).name = p.name := by
    intro p
    split <;> rfl
  unfold EntityRecord.property? retireDropped
  dsimp only
  rw [List.find?_map, Option.map_map]
  simp only [Function.comp_def, hname]
  refine congrArg (fun f => Option.map f _) ?_
  funext p
  split <;> rfl

/-- A renewal that refuses nothing and counts on from the last number makes the declared record of
the merge, under UIDs that were new. -/
theorem run_of_ok (hr : record.propertyNames.Nodup) (hroom : record.HasRoom names)
    (h : (run ledger source record names).result = .ok ids) :
    Renews ledger source record names ids (run ledger source record names).state := by
  obtain ⟨hlist, hstate⟩ := run_eq_ok h
  have hlisted := properties_of_ok (r := start ledger source record) hr hlist
  obtain ⟨hnumIff, hadded⟩ := start_of_hasRoom ledger source hroom
  have hnum := hnumIff.mp hlisted.numberable
  -- the start has only marked the record as live and as the unit's own
  have hrecord := record_retireDropped (hadded ▸ hlisted.record) rfl
  refine ⟨hnum, hadded ▸ hlisted.newTo, ?_, ?_, ?_⟩
  · rw [hstate]
    exact hrecord
  · rw [hstate]
    exact hadded ▸ hlisted.ledger
  · rw [← hlisted.ids, ← hrecord]
    exact List.map_congr_left fun name _ => map_id_property?_retireDropped _ names name

end Run

end Renewal

end RecordSchema
