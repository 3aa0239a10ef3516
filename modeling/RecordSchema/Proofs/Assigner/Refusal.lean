/-
Why an assigner refuses.

A recorded entity is refused for a UID only: something holds it, or there is no room for it. A new
one may also find its number taken, if the number comes from a hash, or find that there is none left,
if numbers are counted; what is counted to is never taken. After that the only thing left is the
layout, which is refused for an identifier without a slot. A run is refused where its first refused
shape is.
-/
import RecordSchema.Proofs.Assigner.Run

set_option autoImplicit false

namespace RecordSchema

/-! ## Errors that are collisions -/

/-- A refusal that counts as a collision of identifiers. -/
def IdentityError.IsCollision (e : IdentityError) : Prop :=
  (SchemaError.identity e).kind = .identifierCollision

/-- A refusal about a UID: something holds it already, or there is no room for it. -/
inductive IdentityError.AboutUid : IdentityError → Prop
  | collision (uid : UInt64) (owner other : String) : AboutUid (.uidCollision uid owner other)
  | overflow (entity property : String) (uid : UInt64) : AboutUid (.uidOverflow entity property uid)

/-- A claim is refused to a new owner only because somebody holds the UID. -/
theorem Ledger.mint_eq_error {ledger : Ledger} {uid : UInt64} {owner : Owner} {e : IdentityError}
    (h : ledger.mint uid owner = .error e) :
    ∃ holder : Owner, e = .uidCollision uid owner.label holder.label := by
  unfold mint at h
  cases hclaim : ledger.claim uid owner with
  | ok after =>
      rw [hclaim] at h
      cases h
  | error holder =>
      rw [hclaim] at h
      cases h
      exact ⟨holder, rfl⟩

theorem Ledger.aboutUid_of_mint {ledger : Ledger} {uid : UInt64} {owner : Owner}
    {e : IdentityError} (h : ledger.mint uid owner = .error e) : e.AboutUid := by
  obtain ⟨holder, rfl⟩ := mint_eq_error h
  exact .collision uid owner.label holder.label

/-! ## Identifying -/

namespace Renewal

theorem aboutUid_of_property {r : Renewal} {name : String} {e : IdentityError}
    (h : (r.property name).result = .error e) : e.AboutUid := by
  cases hp : r.record.property? name with
  | some p =>
      obtain ⟨i, -, heq⟩ := property_of_find? hp
      rw [heq] at h
      cases h
  | none =>
      rw [property_of_notMem (EntityRecord.property?_eq_none_iff.mp hp)] at h
      unfold mint at h
      dsimp only at h
      cases huid : propertyUid? r.record.id.uid r.nextId with
      | none =>
          rw [huid] at h
          cases h
          exact .overflow r.record.name name r.record.id.uid
      | some uid =>
          rw [huid] at h
          dsimp only at h
          cases hledger : r.ledger.mint uid (.property r.record.name name) with
          | error e' =>
              rw [hledger] at h
              cases h
              exact Ledger.aboutUid_of_mint hledger
          | ok ledger =>
              rw [hledger] at h
              cases h

theorem aboutUid_of_properties {r : Renewal} {names : List String} {e : IdentityError}
    (h : (r.properties names).result = .error e) : e.AboutUid := by
  induction names generalizing r with
  | nil => cases h
  | cons name names ih =>
      rw [properties] at h
      dsimp only at h
      cases hone : (r.property name).result with
      | error e' =>
          rw [hone] at h
          cases h
          exact aboutUid_of_property hone
      | ok id =>
          rw [hone] at h
          dsimp only at h
          cases hmore : ((r.property name).state.properties names).result with
          | error e' =>
              rw [hmore] at h
              cases h
              exact ih hmore
          | ok ids =>
              rw [hmore] at h
              cases h

/-- A renewal is refused only where going through the declared names is. -/
theorem result_run (ledger : Ledger) (source : Option String) (record : EntityRecord)
    (names : List String) :
    (run ledger source record names).result =
      ((start ledger source record).properties names).result := by
  unfold run
  dsimp only
  cases ((start ledger source record).properties names).result with
  | error e => rfl
  | ok ids => rfl

end Renewal

/-- Where minting properties is refused: the first one has no UID, its UID is held, or one of the
others is refused. -/
theorem Ledger.mintProperties_cons_eq_error {ledger after : Ledger} {entity name : String}
    {uid : UInt64} {position : Nat} {names : List String} {e : IdentityError}
    (h : ledger.mintProperties entity uid position (name :: names) = (after, .error e)) :
    (propertyUid? uid (positionalId position) = none ∧ e = .uidOverflow entity name uid) ∨
      (∃ id, ledger.mint id (.property entity name) = .error e) ∨
      ∃ next : Ledger, next.mintProperties entity uid (position + 1) names = (after, .error e) := by
  rw [mintProperties] at h
  cases huid : propertyUid? uid (positionalId position) with
  | none =>
      rw [huid] at h
      cases h
      exact Or.inl ⟨rfl, rfl⟩
  | some id =>
      rw [huid] at h
      dsimp only at h
      right
      cases hledger : ledger.mint id (.property entity name) with
      | error e' =>
          rw [hledger] at h
          cases h
          exact Or.inl ⟨id, hledger⟩
      | ok next =>
          rw [hledger] at h
          dsimp only at h
          cases hmore : next.mintProperties entity uid (position + 1) names with
          | mk after' result =>
              rw [hmore] at h
              cases result with
              | ok records => cases h
              | error e' =>
                  cases h
                  exact Or.inr ⟨next, hmore⟩

theorem Ledger.aboutUid_of_mintProperties {ledger after : Ledger} {entity : String} {uid : UInt64}
    {position : Nat} {names : List String} {e : IdentityError}
    (h : ledger.mintProperties entity uid position names = (after, .error e)) : e.AboutUid := by
  induction names generalizing ledger position with
  | nil => cases h
  | cons name names ih =>
      rcases mintProperties_cons_eq_error h with ⟨-, rfl⟩ | ⟨id, hheld⟩ | ⟨next, hmore⟩
      · exact .overflow entity name uid
      · exact aboutUid_of_mint hheld
      · exact ih hmore

namespace Assigner

/-- A new entity gets no numeric ID only if counting leaves the 24 bits. -/
theorem freshEntityId_eq_error {a : Assigner} {hash : UInt64} {e : IdentityError}
    (h : a.freshEntityId hash = .error e) :
    (∃ last, e = .entityIdExhausted last) ∧ a.strategy = .sequential ∧
      maxEntityId < (a.snapshot.countedId 0).toNat := by
  unfold freshEntityId at h
  cases hstrategy : a.strategy with
  | hashed =>
      rw [hstrategy] at h
      cases h
  | sequential =>
      rw [hstrategy] at h
      dsimp only at h
      rw [nextSequentialId_eq] at h
      by_cases hle : (a.snapshot.countedId 0).toNat ≤ maxEntityId
      · rw [if_pos hle] at h
        cases h
      · rw [if_neg hle] at h
        cases h
        exact ⟨⟨_, rfl⟩, rfl, Nat.not_le.mp hle⟩

/-- Nothing holds the number that counting comes to, unless counting starts over. -/
theorem holder?_of_nextSequentialId {a : Assigner} {id : UInt32}
    (hword : a.snapshot.highestId + 1 < UInt32.size) (h : a.nextSequentialId = .ok id) :
    a.holder? id = none := by
  obtain ⟨rfl, -⟩ := nextSequentialId_eq_ok_iff.mp h
  rw [holder?_eq_none_iff]
  intro hmem
  obtain ⟨r, hr, hid⟩ := List.mem_map.mp hmem
  have hle : r.id.id.toNat ≤ a.snapshot.highestId :=
    le_highestNumber (List.mem_append_right _ (List.mem_map_of_mem hr))
  rw [hid, Snapshot.countedId_toNat hword] at hle
  omega

/-- Why an assigner does not identify an entity: there is no number left for a new one, a hash or
counting that starts over gives it a number that is taken, or something is wrong with a UID. -/
inductive Refuses (a : Assigner) (name : String) : IdentityError → Prop
  | exhausted (last : UInt32) (unrecorded : name ∉ a.snapshot.entityNames)
      (counted : a.strategy = .sequential)
      (exceeds : maxEntityId < (a.snapshot.countedId 0).toNat) :
      Refuses a name (.entityIdExhausted last)
  | taken (id : UInt32) (other : String)
      (wraps : a.strategy = .sequential → a.snapshot.highestId + 1 = UInt32.size) :
      Refuses a name (.entityIdCollision name id other)
  | uid {e : IdentityError} (about : e.AboutUid) : Refuses a name e

theorem Refuses.isCollision {a : Assigner} {name : String} {e : IdentityError}
    (h : a.Refuses name e) : e.IsCollision := by
  rcases h with _ | _ | ⟨⟨_⟩ | ⟨_⟩⟩ <;> rfl

/-- Where a new entity is refused: it gets no numeric ID, its numeric ID is held, its UID is held,
or its properties are refused. -/
theorem mint_eq_error {a : Assigner} {name : String} {properties : List String} {e : IdentityError}
    (h : (a.mint name properties).result = .error e) :
    a.freshEntityId (Hash.entityHash a.nameSpace name) = .error e ∨
      (∃ id other, a.freshEntityId (Hash.entityHash a.nameSpace name) = .ok id ∧
        a.holder? id = some other ∧ e = .entityIdCollision name id other.name) ∨
      a.ledger.mint (entityUid (Hash.entityHash a.nameSpace name)) (.entity name) = .error e ∨
      ∃ ledger after : Ledger, ledger.mintProperties name
        (entityUid (Hash.entityHash a.nameSpace name)) 0 properties = (after, .error e) := by
  unfold mint at h
  dsimp only at h
  cases hfresh : a.freshEntityId (Hash.entityHash a.nameSpace name) with
  | error e' =>
      rw [hfresh] at h
      cases h
      exact Or.inl rfl
  | ok n =>
      rw [hfresh] at h
      dsimp only at h
      right
      cases hholder : a.holder? n with
      | some other =>
          rw [hholder] at h
          cases h
          exact Or.inl ⟨n, other, rfl, hholder, rfl⟩
      | none =>
          rw [hholder] at h
          dsimp only at h
          right
          cases hledger : a.ledger.mint (entityUid (Hash.entityHash a.nameSpace name))
              (.entity name) with
          | error e' =>
              rw [hledger] at h
              cases h
              exact Or.inl rfl
          | ok ledger =>
              rw [hledger] at h
              dsimp only at h
              cases hproperties : ledger.mintProperties name
                  (entityUid (Hash.entityHash a.nameSpace name)) 0 properties with
              | mk after result =>
                  rw [hproperties] at h
                  cases result with
                  | ok records => cases h
                  | error e' =>
                      cases h
                      exact Or.inr ⟨ledger, after, hproperties⟩

theorem refuses_of_mint {a : Assigner} {name : String} {properties : List String}
    {e : IdentityError} (hname : name ∉ a.snapshot.entityNames)
    (h : (a.mint name properties).result = .error e) : a.Refuses name e := by
  rcases mint_eq_error h with
    hfresh | ⟨id, other, hfresh, hholder, rfl⟩ | hheld | ⟨ledger, after, hproperties⟩
  · obtain ⟨⟨last, rfl⟩, hcounted, hexceeds⟩ := freshEntityId_eq_error hfresh
    exact .exhausted last hname hcounted hexceeds
  · refine .taken id other.name fun hseq => ?_
    -- up to the highest word counting comes to a number that nothing holds
    by_contra hne
    have hlt := a.snapshot.highestId_lt_size
    rw [freshEntityId, hseq] at hfresh
    rw [holder?_of_nextSequentialId (by omega) hfresh] at hholder
    cases hholder
  · exact .uid (Ledger.aboutUid_of_mint hheld)
  · exact .uid (Ledger.aboutUid_of_mintProperties hproperties)

theorem result_reuse (a : Assigner) (i : Nat) (r : EntityRecord) (properties : List String) :
    (a.reuse i r properties).result =
      ((Renewal.start a.ledger a.source r).properties properties).result.map
        fun ids => (r.id, ids) := by
  rw [← Renewal.result_run]
  rfl

/-- An entity that is not identified is refused for one of the three reasons. -/
theorem refuses_of_identify {a : Assigner} {name : String} {properties : List String}
    {e : IdentityError} (h : (a.identify name properties).result = .error e) :
    a.Refuses name e := by
  by_cases hmem : name ∈ a.snapshot.entityNames
  · obtain ⟨i, r, -, -, heq⟩ := identify_of_mem hmem properties
    rw [heq, result_reuse] at h
    cases hids : ((Renewal.start a.ledger a.source r).properties properties).result with
    | ok ids =>
        rw [hids] at h
        cases h
    | error e' =>
        rw [hids] at h
        cases h
        exact .uid (Renewal.aboutUid_of_properties hids)
  · rw [identify_of_notMem hmem] at h
    exact refuses_of_mint hmem h

/-! ## Laying out -/

/-- A layout is refused for an identifier without a slot. -/
theorem layOut_of_error {entity : String} {pairs : List (PropertyShape × IdUid)} {e : SchemaError}
    (h : layOut entity pairs = .error e) :
    e.kind = .layoutOverflow ∧ ∃ pair ∈ pairs, maxPropertyId < pair.2.id.toNat := by
  induction pairs with
  | nil => cases h
  | cons pair pairs ih =>
      obtain ⟨shape, id⟩ := pair
      rw [layOut] at h
      cases hoffset : vtableOffset id.id with
      | error cause =>
          rw [hoffset] at h
          cases h
          exact ⟨rfl, (shape, id), List.mem_cons_self, lt_of_vtableOffset_eq_error hoffset⟩
      | ok offset =>
          rw [hoffset] at h
          cases hmore : layOut entity pairs with
          | ok more =>
              rw [hmore] at h
              cases h
          | error e' =>
              rw [hmore] at h
              cases h
              obtain ⟨hkind, pair, hpair, hlt⟩ := ih hmore
              exact ⟨hkind, pair, List.mem_cons_of_mem _ hpair, hlt⟩

/-- Where there is an identifier, completing an entity is refused only by the layout. -/
theorem complete_of_error {a : Assigner} {shape : EntityShape} {id : IdUid} {ids : List IdUid}
    {e : SchemaError} (hids : ids ≠ []) (h : a.complete shape id ids = .error e) :
    e.kind = .layoutOverflow ∧ ∃ id ∈ ids, maxPropertyId < id.id.toNat := by
  unfold complete at h
  dsimp only at h
  -- with an identifier there is a last one, so only the layout is left
  cases hlast : ((a.snapshot.entity? shape.name).bind (·.lastPropertyId)).or ids.getLast? with
  | none => exact absurd (List.getLast?_eq_none_iff.mp (Option.or_eq_none_iff.mp hlast).2) hids
  | some last =>
      rw [hlast] at h
      cases hlayOut : layOut shape.name (shape.properties.zip ids) with
      | ok properties =>
          rw [hlayOut] at h
          cases h
      | error e' =>
          rw [hlayOut] at h
          cases h
          obtain ⟨hkind, pair, hpair, hlt⟩ := layOut_of_error hlayOut
          exact ⟨hkind, pair.2, (List.of_mem_zip hpair).2, hlt⟩

/-! ## Shapes -/

/-- A shape that is new to a run and not empty is refused only while it is identified or
completed. -/
theorem assign_eq_error {a : Assigner} {shape : EntityShape} {e : SchemaError}
    (hne : shape.properties ≠ []) (hseen : shape.name ∉ a.seen)
    (h : (a.assign shape).result = .error e) :
    (∃ cause, (({ a with seen := shape.name :: a.seen } : Assigner).identify shape.name
        (shape.properties.map (·.name))).result = .error cause ∧ e = .identity cause) ∨
      ∃ id ids, (({ a with seen := shape.name :: a.seen } : Assigner).identify shape.name
          (shape.properties.map (·.name))).result = .ok (id, ids) ∧
        (a.assign shape).state.complete shape id ids = .error e := by
  unfold assign at h ⊢
  have hempty : ¬shape.properties.isEmpty = true := by simpa using hne
  have hnew : ¬a.seen.contains shape.name = true := by simpa using hseen
  rw [if_neg hempty, if_neg hnew] at h ⊢
  dsimp only at h ⊢
  cases hid : (({ a with seen := shape.name :: a.seen } : Assigner).identify shape.name
      (shape.properties.map (·.name))).result with
  | error cause =>
      rw [hid] at h
      cases h
      exact Or.inl ⟨cause, rfl, rfl⟩
  | ok both =>
      obtain ⟨id, ids⟩ := both
      rw [hid] at h
      exact Or.inr ⟨id, ids, rfl, h⟩

/-- The answer for a shape that is not empty has an identifier. -/
theorem ne_nil_of_identify {a : Assigner} {name : String} {properties : List PropertyShape}
    {id : IdUid} {ids : List IdUid} (hne : properties ≠ [])
    (h : (a.identify name (properties.map (·.name))).result = .ok (id, ids)) : ids ≠ [] := by
  have hlength := length_of_identify h
  intro hnil
  rw [hnil, List.length_map] at hlength
  exact hne (List.length_eq_zero_iff.mp hlength.symm)

/-- A shape that is refused for its identity was declared before, or it is not identified. -/
theorem duplicate_or_refuses_of_assign {a : Assigner} {shape : EntityShape} {cause : IdentityError}
    (h : (a.assign shape).result = .error (.identity cause)) :
    cause = .duplicateEntity shape.name ∨ shape.name ∉ a.seen ∧
      ({ a with seen := shape.name :: a.seen } : Assigner).Refuses shape.name cause := by
  by_cases hne : shape.properties = []
  · rw [assign, if_pos (by rw [hne]; rfl)] at h
    cases h
  by_cases hseen : shape.name ∈ a.seen
  · rw [assign, if_neg (by simpa using hne), if_pos (by simpa using hseen)] at h
    cases h
    exact Or.inl rfl
  · refine Or.inr ⟨hseen, ?_⟩
    rcases assign_eq_error hne hseen h with ⟨_, hidentify, ⟨⟩⟩ | ⟨id, ids, hidentify, hc⟩
    · exact refuses_of_identify hidentify
    · -- completing it is refused only by the layout
      obtain ⟨hkind, -⟩ := complete_of_error (ne_nil_of_identify hne hidentify) hc
      cases cause <;> cases hkind

/-- A run that is refused has assigned some shapes and has then been refused one. -/
theorem exists_refused_of_assignAll {a : Assigner} {shapes : List EntityShape} {e : SchemaError}
    (h : (a.assignAll shapes).result = .error e) :
    ∃ front shape back entities, shapes = front ++ shape :: back ∧
      (a.assignAll front).result = .ok entities ∧
      ((a.assignAll front).state.assign shape).result = .error e := by
  induction shapes generalizing a with
  | nil => cases h
  | cons shape shapes ih =>
      rw [assignAll] at h
      dsimp only at h
      cases hone : (a.assign shape).result with
      | error e' =>
          rw [hone] at h
          cases h
          exact ⟨[], shape, shapes, [], rfl, rfl, hone⟩
      | ok entity =>
          rw [hone] at h
          dsimp only at h
          have hmore : ((a.assign shape).state.assignAll shapes).result = .error e := by
            cases hresult : ((a.assign shape).state.assignAll shapes).result with
            | ok rest =>
                rw [hresult] at h
                cases h
            | error e' =>
                rw [hresult] at h
                cases h
                rfl
          obtain ⟨front, other, back, entities, rfl, hfront, hother⟩ := ih hmore
          refine ⟨shape :: front, other, back, entity :: entities, rfl, ?_, ?_⟩
          · rw [assignAll]
            dsimp only
            rw [hone]
            dsimp only
            rw [hfront]
            rfl
          · rw [assignAll]
            dsimp only
            rw [hone]
            exact hother

end Assigner

end RecordSchema
