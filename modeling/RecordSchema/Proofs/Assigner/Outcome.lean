/-
What identifying an entity leaves behind, refused or not.

An assigner may be used on after a refusal, so its state has to be known then as well. Going through
the properties of a record can end at any of them, and what was appended up to there stays; a new
entity that is refused leaves no record, but the UIDs that were claimed for it stay held. `Outcome`
lists the three things that may have happened in the end. What was recorded is recorded after each
of them, and what has come to it was claimed first, under UIDs that were not held before.

None of it asks whether the assigner is sound, and the names of properties may repeat.
-/
import Mathlib.Data.List.Forall2
import RecordSchema.Proofs.Assigner.Soundness

set_option autoImplicit false

namespace RecordSchema

/-! ## Records that are kept -/

namespace EntityRecord

/-- A record is kept in a later one: the entity has the name and the identifier that it had, and so
have its properties, with any further ones behind them. -/
def KeptIn (r after : EntityRecord) : Prop := r.owned <+: after.owned

theorem keptIn_iff {r after : EntityRecord} : r.KeptIn after ↔
    after.name = r.name ∧ after.id = r.id ∧
      r.properties.map (fun p => (p.name, p.id)) <+:
        after.properties.map (fun p => (p.name, p.id)) := by
  -- under one name of the entity the owners of properties differ only in the names of these
  have howned : ∀ (name : String) (ps : List PropertyRecord),
      ps.map (fun p => (Owner.property name p.name, p.id)) =
        (ps.map fun p => (p.name, p.id)).map fun q => (Owner.property name q.1, q.2) := by
    intro name ps
    rw [List.map_map]
    rfl
  have hinj : ∀ name : String,
      Function.Injective fun q : String × IdUid => (Owner.property name q.1, q.2) := by
    rintro name ⟨p, x⟩ ⟨q, y⟩ h
    rw [Prod.mk.injEq, Owner.property.injEq] at h
    exact Prod.ext h.1.2 h.2
  rw [KeptIn, owned, owned, List.cons_prefix_cons, Prod.mk.injEq, Owner.entity.injEq, and_assoc,
    @eq_comm _ r.name, @eq_comm _ r.id]
  refine and_congr_right fun hname => and_congr_right fun _ => ?_
  rw [hname, howned, howned, List.prefix_map_iff_of_injective (hinj r.name)]

theorem KeptIn.refl (r : EntityRecord) : r.KeptIn r := List.prefix_rfl

theorem KeptIn.trans {r s t : EntityRecord} (h : r.KeptIn s) (h' : s.KeptIn t) : r.KeptIn t :=
  List.IsPrefix.trans h h'

theorem KeptIn.name {r after : EntityRecord} (h : r.KeptIn after) : after.name = r.name :=
  (keptIn_iff.mp h).1

theorem KeptIn.id {r after : EntityRecord} (h : r.KeptIn after) : after.id = r.id :=
  (keptIn_iff.mp h).2.1

/-- A record is kept in one that owns more behind what it owned. -/
theorem keptIn_of_owned {r after : EntityRecord} {claims : List (Owner × IdUid)}
    (h : after.owned = r.owned ++ claims) : r.KeptIn after := by
  rw [KeptIn, h]
  exact List.prefix_append _ _

/-- The UIDs of what came to a record are behind those that it had. -/
theorem uids_of_owned {r after : EntityRecord} {claims : List (Owner × IdUid)}
    (h : after.owned = r.owned ++ claims) : after.uids = r.uids ++ claims.map (·.2.uid) := by
  rw [← map_uid_owned after, ← map_uid_owned r, h, List.map_append]

end EntityRecord

/-! ## Renewals -/

namespace Renewal

/-- A later state of a renewal: `claims` have come to what the record owned, under UIDs that were
not held, and they are held with those that were. -/
structure Gains (r : Renewal) (claims : List (Owner × IdUid)) (after : Renewal) : Prop where
  owned : after.record.owned = r.record.owned ++ claims
  newTo : NewTo r.ledger.uids (claims.map (·.2.uid))
  held : r.ledger.uids ++ claims.map (·.2.uid) ⊆ after.ledger.uids

section Gains

variable {r s t : Renewal} {claims more : List (Owner × IdUid)}

/-- Nothing has come to a record that owns what it owned. -/
theorem gains_nil (howned : s.record.owned = r.record.owned)
    (hledger : s.ledger = r.ledger) : r.Gains [] s where
  owned := by rw [howned, List.append_nil]
  newTo := newTo_nil _
  held := by
    rw [List.map_nil, List.append_nil, hledger]
    exact List.Subset.refl _

theorem Gains.trans (h : r.Gains claims s) (h' : s.Gains more t) : r.Gains (claims ++ more) t where
  owned := by rw [h'.owned, h.owned, List.append_assoc]
  newTo := by
    rw [List.map_append, newTo_behind_iff]
    exact ⟨h.newTo, h'.newTo.mono h.held⟩
  held := by
    rw [List.map_append, ← List.append_assoc]
    intro uid huid
    rcases List.mem_append.mp huid with huid | huid
    · exact h'.held (List.mem_append_left _ (h.held huid))
    · exact h'.held (List.mem_append_right _ huid)

theorem Gains.keptIn (h : r.Gains claims s) : r.record.KeptIn s.record :=
  EntityRecord.keptIn_of_owned h.owned

end Gains

/-- Minting a property appends it, unless it is refused. -/
theorem gains_mint (r : Renewal) (name : String) : ∃ claims, r.Gains claims (r.mint name).state ∧
    ∀ id, (r.mint name).result = .ok id → (.property r.record.name name, id) ∈ claims := by
  cases hresult : (r.mint name).result with
  | ok id =>
      obtain ⟨-, -, hnew, hstate⟩ := mint_of_ok hresult
      refine ⟨[(.property r.record.name name, id)], ⟨?_, newTo_singleton_iff.mpr hnew, ?_⟩, ?_⟩
      · rw [hstate]
        simp [withNew, EntityRecord.owned]
      · rw [hstate]
        intro uid huid
        simpa [withNew, or_comm] using huid
      · rintro _ ⟨⟩
        exact List.mem_singleton_self _
  | error e =>
      -- only the counter has gone on
      have hsame : (r.mint name).state.record = r.record ∧ (r.mint name).state.ledger = r.ledger := by
        unfold mint at hresult ⊢
        cases huid : propertyUid? r.record.id.uid r.nextId with
        | none => exact ⟨rfl, rfl⟩
        | some uid =>
            rw [huid] at hresult
            dsimp only at hresult ⊢
            cases hledger : r.ledger.mint uid (.property r.record.name name) with
            | error e => exact ⟨rfl, rfl⟩
            | ok ledger =>
                rw [hledger] at hresult
                cases hresult
      refine ⟨[], gains_nil (congrArg EntityRecord.owned hsame.1) hsame.2, ?_⟩
      intro id hid
      cases hid

/-- Taking a property up again changes nothing about who owns what. -/
theorem gains_reuse {r : Renewal} {i : Nat} {p : PropertyRecord}
    (hi : r.record.properties[i]? = some p) : r.Gains [] (r.reuse i p).state := by
  obtain ⟨hlt, rfl⟩ := List.getElem?_eq_some_iff.mp hi
  refine gains_nil ?_ rfl
  -- what is written to the position differs from what was there only in its mark
  simp only [reuse, EntityRecord.owned, List.map_set, List.cons.injEq, true_and]
  rw [← List.getElem_map (fun p : PropertyRecord => (Owner.property r.record.name p.name, p.id)),
    List.set_getElem_self]
  simpa using hlt

/-- Giving a property its identifier appends it or leaves it where it was, and then the record has
it. -/
theorem gains_property (r : Renewal) (name : String) :
    ∃ claims, r.Gains claims (r.property name).state ∧ ∀ id, (r.property name).result = .ok id →
      (.property r.record.name name, id) ∈ (r.property name).state.record.owned := by
  cases hp : r.record.property? name with
  | some p =>
      obtain ⟨i, hi, heq⟩ := property_of_find? hp
      have hgains := gains_reuse (getElem?_of_findIdx? hp hi)
      rw [heq]
      refine ⟨[], hgains, ?_⟩
      rintro _ ⟨⟩
      have hname : p.name = name := by simpa using List.find?_some hp
      rw [hgains.owned, List.append_nil, ← hname]
      exact List.mem_cons_of_mem _
        (List.mem_map.mpr ⟨p, List.mem_of_find?_eq_some hp, rfl⟩)
  | none =>
      rw [property_of_notMem (EntityRecord.property?_eq_none_iff.mp hp)]
      obtain ⟨claims, hgains, hmem⟩ := r.gains_mint name
      refine ⟨claims, hgains, fun id hid => ?_⟩
      rw [hgains.owned]
      exact List.mem_append_right _ (hmem id hid)

/-- Going through names appends some properties, however far it gets, and the record has those that
got an identifier. -/
theorem gains_properties (r : Renewal) (names : List String) :
    ∃ claims, r.Gains claims (r.properties names).state ∧
      ∀ ids, (r.properties names).result = .ok ids → List.Forall₂ (fun name id =>
        (Owner.property r.record.name name, id) ∈ (r.properties names).state.record.owned)
          names ids := by
  induction names generalizing r with
  | nil =>
      refine ⟨[], gains_nil rfl rfl, ?_⟩
      rintro _ ⟨⟩
      exact .nil
  | cons name names ih =>
      obtain ⟨claims, hone, hmem⟩ := r.gains_property name
      rw [properties]
      dsimp only
      cases hresult : (r.property name).result with
      | error e =>
          refine ⟨claims, hone, ?_⟩
          rintro _ ⟨⟩
      | ok id =>
          obtain ⟨more, hmore, hall⟩ := ih (r.property name).state
          refine ⟨claims ++ more, hone.trans hmore, fun ids hids => ?_⟩
          dsimp only at hids ⊢
          obtain ⟨rest, hrest, rfl⟩ := map_eq_ok_iff.mp hids
          have hlist := hall rest hrest
          rw [hone.keptIn.name] at hlist
          exact .cons (hmore.keptIn.subset (hmem id hresult)) hlist

/-- Renewing a record appends some properties, whether or not it is refused, and the record has those
that got an identifier. -/
theorem gains_run (ledger : Ledger) (source : Option String) (record : EntityRecord)
    (names : List String) :
    ∃ claims, (start ledger source record).Gains claims (run ledger source record names).state ∧
      ∀ ids, (run ledger source record names).result = .ok ids → List.Forall₂ (fun name id =>
        (Owner.property record.name name, id) ∈
          (run ledger source record names).state.record.owned) names ids := by
  obtain ⟨claims, hgains, hall⟩ := (start ledger source record).gains_properties names
  unfold run
  dsimp only
  cases hresult : ((start ledger source record).properties names).result with
  | error e =>
      refine ⟨claims, hgains, ?_⟩
      rintro _ ⟨⟩
  | ok ids =>
      -- retiring what is left only marks it
      have howned : (((start ledger source record).properties names).state.retireDropped
          names).2.record.owned =
            ((start ledger source record).properties names).state.record.owned := by
        unfold retireDropped EntityRecord.owned
        dsimp only
        rw [List.map_map]
        congr 1
        refine List.map_congr_left fun p _ => ?_
        dsimp only [Function.comp]
        split <;> rfl
      refine ⟨claims ++ [], hgains.trans (gains_nil howned rfl), ?_⟩
      rintro _ ⟨⟩
      dsimp only
      rw [howned]
      exact hall ids hresult

end Renewal

/-! ## New entities -/

/-- Minting properties gives up no UID. -/
theorem Ledger.uids_subset_mintProperties (ledger : Ledger) (entity : String) (uid : UInt64)
    (position : Nat) (names : List String) :
    ledger.uids ⊆ (ledger.mintProperties entity uid position names).1.uids := by
  induction names generalizing ledger position with
  | nil => exact List.Subset.refl _
  | cons name names ih =>
      rw [mintProperties]
      cases propertyUid? uid (positionalId position) with
      | none => exact List.Subset.refl _
      | some id =>
          dsimp only
          cases hledger : ledger.mint id (.property entity name) with
          | error e => exact List.Subset.refl _
          | ok next =>
              obtain ⟨-, rfl⟩ := mint_eq_ok_iff.mp hledger
              intro u hu
              exact ih _ _ (List.mem_cons_of_mem id hu)

namespace Assigner

/-- Minting that is refused changes nothing but the ledger, where it may have claimed something. -/
theorem state_mint_of_error {a : Assigner} {name : String} {properties : List String}
    {e : IdentityError} (h : (a.mint name properties).result = .error e) :
    ∃ ledger, a.ledger.uids ⊆ ledger.uids ∧ (a.mint name properties).state = { a with ledger } := by
  have hself : ∃ ledger, a.ledger.uids ⊆ ledger.uids ∧ a = { a with ledger } :=
    ⟨a.ledger, List.Subset.refl _, rfl⟩
  unfold mint at h ⊢
  dsimp only at h ⊢
  cases hfresh : a.freshEntityId (Hash.entityHash a.nameSpace name) with
  | error e => exact hself
  | ok n =>
      rw [hfresh] at h
      dsimp only at h ⊢
      cases hholder : a.holder? n with
      | some other => exact hself
      | none =>
          rw [hholder] at h
          dsimp only at h ⊢
          cases hledger : a.ledger.mint (entityUid (Hash.entityHash a.nameSpace name))
              (.entity name) with
          | error e => exact hself
          | ok ledger =>
              rw [hledger] at h
              dsimp only at h ⊢
              obtain ⟨-, rfl⟩ := Ledger.mint_eq_ok_iff.mp hledger
              have hheld := Ledger.uids_subset_mintProperties
                (a.ledger.enter (entityUid (Hash.entityHash a.nameSpace name)) (.entity name)) name
                (entityUid (Hash.entityHash a.nameSpace name)) 0 properties
              -- the entity was claimed, and so were its properties up to the one that is refused
              rcases hproperties : (Ledger.mintProperties _ _ _ _ _) with ⟨after, _ | records⟩
              · rw [hproperties] at hheld
                exact ⟨after, List.Subset.trans (List.subset_cons_self _ _) hheld, rfl⟩
              · rw [hproperties] at h
                cases h

/-! ## What may have happened -/

/-- What identifying an entity leaves behind. A recorded one has gained some properties; one that
was not recorded has cost some UIDs, or it has been minted. -/
inductive Outcome (a : Assigner) (outline : Outline) : Assigner → Prop
  | renewed {before rest : List EntityRecord} {r after : EntityRecord} {ledger : Ledger}
      {claims : List (Owner × IdUid)} (split : a.snapshot.entities = before ++ r :: rest)
      (name : r.name = outline.name) (owned : after.owned = r.owned ++ claims)
      (newTo : NewTo a.ledger.uids (claims.map (·.2.uid)))
      (held : a.ledger.uids ++ claims.map (·.2.uid) ⊆ ledger.uids) :
      Outcome a outline { a with ledger, snapshot.entities := before ++ after :: rest }
  | spent {ledger : Ledger} (unrecorded : outline.name ∉ a.snapshot.entityNames)
      (held : a.ledger.uids ⊆ ledger.uids) : Outcome a outline { a with ledger }
  | minted {id : IdUid} {ids : List IdUid} {after : Assigner}
      (unrecorded : outline.name ∉ a.snapshot.entityNames) (mints : Mints a outline id ids after) :
      Outcome a outline after

/-- Whatever an entity is asked for with, one of the three has happened. -/
theorem outcome_identify (a : Assigner) (outline : Outline) :
    a.Outcome outline (a.identify outline.name outline.properties).state := by
  by_cases hmem : outline.name ∈ a.snapshot.entityNames
  · obtain ⟨i, r, hr, hi, heq⟩ := identify_of_mem hmem outline.properties
    obtain ⟨hlt, hget⟩ := List.getElem?_eq_some_iff.mp (getElem?_of_findIdx? hr hi)
    have hname : r.name = outline.name := by simpa using List.find?_some hr
    have hsplit : a.snapshot.entities =
        a.snapshot.entities.take i ++ r :: a.snapshot.entities.drop (i + 1) := by
      rw [← hget, List.getElem_cons_drop, List.take_append_drop]
    obtain ⟨claims, hgains, -⟩ :=
      Renewal.gains_run a.ledger a.source r outline.properties
    rw [heq, reuse]
    dsimp only
    rw [List.set_eq_take_append_cons_drop, if_pos hlt]
    exact .renewed hsplit hname hgains.owned hgains.newTo hgains.held
  · rw [identify_of_notMem hmem]
    cases hresult : (a.mint outline.name outline.properties).result with
    | ok both =>
        obtain ⟨id, ids⟩ := both
        exact .minted hmem (mint_of_ok hresult)
    | error e =>
        obtain ⟨ledger, hheld, hstate⟩ := state_mint_of_error hresult
        rw [hstate]
        exact .spent hmem hheld

/-- An entity that is identified is recorded under the identifiers of the answer, of which there is
one for each property. -/
theorem recorded_of_identify {a : Assigner} {name : String} {properties : List String} {id : IdUid}
    {ids : List IdUid} (h : (a.identify name properties).result = .ok (id, ids)) :
    ∃ r ∈ (a.identify name properties).state.snapshot.entities, r.name = name ∧ r.id = id ∧
      List.Forall₂ (fun property id => (Owner.property name property, id) ∈ r.owned)
        properties ids := by
  by_cases hmem : name ∈ a.snapshot.entityNames
  · obtain ⟨i, r, hr, hi, heq⟩ := identify_of_mem hmem properties
    obtain ⟨hlt, -⟩ := List.getElem?_eq_some_iff.mp (getElem?_of_findIdx? hr hi)
    have hname : r.name = name := by simpa using List.find?_some hr
    rw [heq] at h ⊢
    obtain ⟨rfl, hrun⟩ := reuse_of_ok h
    obtain ⟨claims, hgains, hall⟩ := Renewal.gains_run a.ledger a.source r properties
    refine ⟨_, List.mem_set hlt _, hgains.keptIn.name.trans hname, hgains.keptIn.id, ?_⟩
    rw [← hname]
    exact hall ids hrun
  · rw [identify_of_notMem hmem] at h ⊢
    have hmints : Mints a ⟨name, properties⟩ id ids (a.mint name properties).state := mint_of_ok h
    refine ⟨.fresh a.source ⟨name, properties⟩ id, ?_, rfl, rfl, ?_⟩
    · rw [hmints.state]
      exact List.mem_append_right _ (List.mem_singleton_self _)
    · -- names and identifiers of the numbered properties, in the same order
      have hall : List.Forall₂ (fun property x => (Owner.property name property, x) ∈
          (EntityRecord.fresh a.source ⟨name, properties⟩ id).owned)
          ((PropertyRecord.numbered id.uid 0 properties).map (·.name))
          ((PropertyRecord.numbered id.uid 0 properties).map (·.id)) := by
        rw [List.forall₂_map_left_iff, List.forall₂_map_right_iff, List.forall₂_same]
        intro p hp
        exact List.mem_cons_of_mem _ (List.mem_map.mpr ⟨p, hp, rfl⟩)
      rw [hmints.ids]
      rwa [PropertyRecord.map_name_numbered] at hall

/-- There is one identifier for each property. -/
theorem length_of_identify {a : Assigner} {name : String} {properties : List String} {id : IdUid}
    {ids : List IdUid} (h : (a.identify name properties).result = .ok (id, ids)) :
    ids.length = properties.length := by
  obtain ⟨r, -, -, -, hids⟩ := recorded_of_identify h
  exact hids.length_eq.symm

end Assigner

end RecordSchema
