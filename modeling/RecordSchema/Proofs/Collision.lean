/-
Collisions of hashed identifiers.

Under the hashed strategy a new entity has no choice: its numeric ID and its UIDs come from the hash
of its name, and the numbers of its properties from their positions. So whether a run comes out can be
said of its declarations all at once, as integers and without an order: it does exactly if what they
ask for is free and every declared number has a slot. The run finds out one identifier at a time, in
words, and stops at the first that is taken; `deriveModel_hashed_iff` says that this comes to the same.

An error tells which of the two it was. Where every number has a slot it is a collision, and where
everything is free it is the layout, as long as the numbers fit their words: past the highest word
the counter of an entity stands still, and then it collides with itself.
-/
import RecordSchema.Proofs.Assigner.Accounts

set_option autoImplicit false

namespace RecordSchema

/-! ## What must be free -/

namespace Snapshot

/-- The identifiers that declarations ask for under the hashed strategy are free: the numeric IDs of
new entities, which are the high 24 bits of their hashes, and all UIDs are new, and the UIDs fit
their words. -/
structure CollisionFree (s : Snapshot) (nameSpace : String) (outlines : List Outline) : Prop where
  ids : NewTo (s.entities.map (·.id.id.toNat))
    ((s.newOutlines outlines).map fun o => (Hash.entityHash nameSpace o.name).toNat >>> 40)
  uids : NewTo (s.uids.map (·.toNat)) (outlines.flatMap (s.demandedUids nameSpace))
  range : ∀ uid ∈ outlines.flatMap (s.demandedUids nameSpace), uid < UInt64.size

instance (s : Snapshot) (nameSpace : String) (outlines : List Outline) :
    Decidable (s.CollisionFree nameSpace outlines) :=
  decidable_of_iff (NewTo _ _ ∧ NewTo _ _ ∧ ∀ _ ∈ _, _)
    ⟨fun h => ⟨h.1, h.2.1, h.2.2⟩, fun h => ⟨h.ids, h.uids, h.range⟩⟩

instance (s : Snapshot) (bound : Nat) (outlines : List Outline) :
    Decidable (s.NumbersUpTo bound outlines) :=
  inferInstanceAs (Decidable (∀ _ ∈ _, ∀ _ ∈ _, _))

instance (s : Snapshot) (outlines : List Outline) : Decidable (s.Slotted outlines) :=
  inferInstanceAs (Decidable (s.NumbersUpTo _ _))

instance (s : Snapshot) (outlines : List Outline) : Decidable (s.WordSized outlines) :=
  inferInstanceAs (Decidable (s.NumbersUpTo _ _))

/-- The numeric IDs that a hashed run gives to new entities. -/
theorem map_id_newRecords_hashed (s : Snapshot) (nameSpace : String) (source : Option String)
    (outlines : List Outline) :
    (s.newRecords nameSpace ⟨.hashed, source⟩ outlines).map (·.id.id) =
      (s.newOutlines outlines).map fun o => hashedEntityId (Hash.entityHash nameSpace o.name) :=
  List.ext_getElem (by simp [newRecords]) fun i h₁ h₂ => by simp [newRecords, issuedId]

/-- Under the hashed strategy a demand is met exactly if nothing that it asks for is taken. -/
theorem admits_hashed_iff {s : Snapshot} {nameSpace : String} {source : Option String}
    {outlines : List Outline} :
    s.Admits nameSpace ⟨.hashed, source⟩ outlines ↔ s.CollisionFree nameSpace outlines := by
  have hinj : Function.Injective UInt32.toNat := fun _ _ => UInt32.toNat_inj.mp
  have hids : NewTo (s.entities.map (·.id.id))
      ((s.newRecords nameSpace ⟨.hashed, source⟩ outlines).map (·.id.id)) ↔
      NewTo (s.entities.map (·.id.id.toNat)) ((s.newOutlines outlines).map
        fun o => (Hash.entityHash nameSpace o.name).toNat >>> 40) := by
    rw [map_id_newRecords_hashed, ← newTo_map_iff hinj, List.map_map, List.map_map]
    simp only [Function.comp_def, hashedEntityId_toNat]
  constructor
  · rintro ⟨-, hid, huids, hrange⟩
    exact ⟨hids.mp hid, huids, hrange⟩
  · rintro ⟨hid, huids, hrange⟩
    refine ⟨?_, hids.mpr hid, huids, hrange⟩
    rw [map_id_newRecords_hashed, List.forall_mem_map]
    exact fun o _ => hashedEntityId_le _

end Snapshot

/-! ## Hashed runs -/

section Hashed

variable {nameSpace : String} {declarations : List Declaration} {previous : Snapshot}
  {source : Option String}

/-- A hashed run from an accepted snapshot, whose declarations can all be built and have different
names, comes out exactly if what it asks for is free and every declared number has a slot. -/
theorem deriveModel_hashed_iff (hvalid : previous.validate = .ok ())
    (hbuilt : ∀ d ∈ declarations, ∃ shape, d.build = .ok shape)
    (hdistinct : (declarations.map (·.name)).Nodup)
    (hfields : ∀ d ∈ declarations, d.FieldsDistinct) :
    ((∃ model merged, (deriveModel nameSpace declarations previous ⟨.hashed, source⟩).result =
        .ok (model, merged)) ↔
      previous.CollisionFree nameSpace (declarations.map (·.outline)) ∧
        previous.Slotted (declarations.map (·.outline))) ∧
    ∀ e, (deriveModel nameSpace declarations previous ⟨.hashed, source⟩).result = .error e →
      (e.kind = .identifierCollision ∨ e.kind = .layoutOverflow) ∧
      (previous.Slotted (declarations.map (·.outline)) → e.kind = .identifierCollision) ∧
      (previous.CollisionFree nameSpace (declarations.map (·.outline)) →
        previous.WordSized (declarations.map (·.outline)) → e.kind = .layoutOverflow) := by
  obtain ⟨shapes, hshapes⟩ := Declaration.exists_buildAll hbuilt
  have haccounts : previous.Accounts nameSpace ⟨.hashed, source⟩ (declarations.map (·.outline))
      (deriveModel nameSpace declarations previous ⟨.hashed, source⟩).result :=
    deriveModel_accounts hvalid hshapes hdistinct fun d hd _ => (hfields d hd).nodup_storedNames
  cases hresult : (deriveModel nameSpace declarations previous ⟨.hashed, source⟩).result with
  | ok out =>
      rw [hresult] at haccounts
      obtain ⟨model, merged⟩ := out
      refine ⟨iff_of_true ⟨model, merged, rfl⟩ ?_, fun e he => by cases he⟩
      exact ⟨Snapshot.admits_hashed_iff.mp haccounts.1, haccounts.2⟩
  | error e =>
      rw [hresult] at haccounts
      constructor
      · -- a demand that is met with a slot for every number contradicts either refusal
        refine iff_of_false ?_ ?_
        · rintro ⟨model, merged, h⟩
          cases h
        · rintro ⟨hfree, hslotted⟩
          rcases haccounts with ⟨-, hnot⟩ | ⟨-, hnot⟩
          · exact hnot ⟨Snapshot.admits_hashed_iff.mpr hfree, hslotted.wordSized⟩
          · exact hnot hslotted
      · intro e' he
        cases he
        rcases haccounts with ⟨hkind, hnot⟩ | ⟨hkind, hnot⟩
        · refine ⟨.inl hkind, fun _ => hkind, fun hfree hwords => ?_⟩
          exact absurd ⟨Snapshot.admits_hashed_iff.mpr hfree, hwords⟩ hnot
        · refine ⟨.inr hkind, fun hslotted => absurd hslotted hnot, fun _ _ => hkind⟩

end Hashed

/-! ## A run of each outcome -/

/-- A snapshot with one entity of no properties that holds a UID, and one whose last property has a
given number. -/
def crowdedSnapshot (uid : UInt64) (last : UInt32) : Snapshot :=
  ⟨snapshotVersion, none,
    [⟨⟨1, uid⟩, "Zed", none, true, none, []⟩,
      ⟨⟨7, 11⟩, "Note", none, false, some ⟨last, 110000 + last.toUInt64⟩,
        [⟨⟨0, 110000⟩, "id", false⟩]⟩]⟩

/-- A new entity, and a property more of the recorded one. -/
def crowdingDeclarations : List Declaration :=
  [.ofParts "User" [("id", "i64", "id")],
    .ofParts "Note" [("id", "i64", "id"), ("text", "String", "")]]

/-- The run comes out where nothing is taken, it collides where a retired entity holds the UID of the
new one, and it overflows where the next property of the recorded entity has no slot. -/
theorem deriveModel_hashed_iff_crowded :
    ((crowdedSnapshot 12 4).CollisionFree "app" (crowdingDeclarations.map (·.outline)) ∧
        (crowdedSnapshot 12 4).Slotted (crowdingDeclarations.map (·.outline))) ∧
      (∃ e, (deriveModel "app" crowdingDeclarations (crowdedSnapshot 800544370277484 4)
        ⟨.hashed, none⟩).result = .error e ∧ e.kind = .identifierCollision) ∧
      ∃ e, (deriveModel "app" crowdingDeclarations (crowdedSnapshot 12 32765)
        ⟨.hashed, none⟩).result = .error e ∧ e.kind = .layoutOverflow := by
  have hbuilt : ∀ d ∈ crowdingDeclarations, ∃ shape, d.build = .ok shape := by
    intro d hd
    refine exists_eq_ok ?_
    revert d hd
    decide +kernel
  have hdistinct : (crowdingDeclarations.map (·.name)).Nodup := by decide
  have hfields : ∀ d ∈ crowdingDeclarations, d.FieldsDistinct := by decide
  obtain ⟨hiff, -⟩ := @deriveModel_hashed_iff "app" crowdingDeclarations (crowdedSnapshot 12 4) none
    (by decide +kernel) hbuilt hdistinct hfields
  obtain ⟨-, htaken⟩ := @deriveModel_hashed_iff "app" crowdingDeclarations
    (crowdedSnapshot 800544370277484 4) none (by decide +kernel) hbuilt hdistinct hfields
  obtain ⟨-, hfull⟩ := @deriveModel_hashed_iff "app" crowdingDeclarations
    (crowdedSnapshot 12 32765) none (by decide +kernel) hbuilt hdistinct hfields
  refine ⟨hiff.mp ?_, ?_, ?_⟩
  · obtain ⟨⟨model, merged⟩, h⟩ := exists_eq_ok (x := (deriveModel "app" crowdingDeclarations
      (crowdedSnapshot 12 4) ⟨.hashed, none⟩).result) (by decide +kernel)
    exact ⟨model, merged, h⟩
  · obtain ⟨e, h⟩ := exists_eq_error (x := (deriveModel "app" crowdingDeclarations
      (crowdedSnapshot 800544370277484 4) ⟨.hashed, none⟩).result) (by decide +kernel)
    exact ⟨e, h, (htaken e h).2.1 (by decide +kernel)⟩
  · obtain ⟨e, h⟩ := exists_eq_error (x := (deriveModel "app" crowdingDeclarations
      (crowdedSnapshot 12 32765) ⟨.hashed, none⟩).result) (by decide +kernel)
    exact ⟨e, h, (hfull e h).2.2 (by decide +kernel) (by decide +kernel)⟩

/-- What is free as integers may collide in words: after the highest word both new properties of the
entity get that word again. -/
example : (crowdedSnapshot 12 4294967295).CollisionFree "app" [⟨"Note", ["id", "text", "more"]⟩] ∧
    (deriveModel "app" [.ofParts "Note" [("id", "i64", "id"), ("text", "String", ""),
      ("more", "String", "")]] (crowdedSnapshot 12 4294967295) ⟨.hashed, none⟩).result.toOption =
        none := by
  decide +kernel

end RecordSchema
