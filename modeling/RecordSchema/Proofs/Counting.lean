/-
Counting entities.

The next number is read back from two places: from the highest identifier on record and from the
records themselves. An entity that is counted goes behind both, so it is the one that the entity
after it is counted from, whatever recorded entities come in between. `Counts` says this of a part
of a run. It also says that no number is ever taken when it is counted to, and that numbers can only
run out.

All this is so below the highest word. The word after that one is zero, which may well be taken, and
does not become the highest when it is not; so it is assumed that there is a word after the highest
number, and a run that counts keeps to that.

Entities that were recorded before need not have been counted. Only the highest of their numbers
matters.
-/
import RecordSchema.Proofs.Assigner.Frame
import RecordSchema.Proofs.Assigner.Refusal
import RecordSchema.Proofs.Entity.Build

set_option autoImplicit false

namespace RecordSchema

/-! ## Numbers behind all others -/

/-- An identifier with a number above all others is the highest. -/
theorem highestOf_concat_of_lt {ids : List IdUid} {id : IdUid} (h : ∀ x ∈ ids, x.id < id.id) :
    highestOf (ids ++ [id]) = some id := by
  cases hlast : highestOf (ids ++ [id]) with
  | none => simp [highestOf_eq_none_iff] at hlast
  | some x =>
      obtain ⟨hx, hle⟩ := of_highestOf_eq_some hlast
      rcases List.mem_append.mp hx with hx | hx
      · have hid := hle id (List.mem_append_right _ (List.mem_singleton_self id))
        exact absurd (h x hx) (UInt32.not_lt.mpr hid)
      · rw [List.mem_singleton.mp hx]

namespace Snapshot

/-- The entities of a list that a snapshot does not record, in their order. -/
def unrecorded (s : Snapshot) (entities : List Entity) : List Entity :=
  entities.filter fun e => !s.entityNames.contains e.name

/-- How many entities that a snapshot does not record are declared. -/
def unrecordedCount (s : Snapshot) (declarations : List Declaration) : Nat :=
  ((declarations.map (·.name)).filter fun name => !s.entityNames.contains name).eraseDups.length

end Snapshot

namespace Assigner

/-! ## Parts of a run -/

/-- A later state of a run that counts, in which `new` have come to what was recorded: they were
counted on from the highest number, and the last of them is the highest now. -/
structure Counts (a : Assigner) (new : List Entity) (after : Assigner) : Prop where
  strategy : after.strategy = a.strategy
  names : after.snapshot.entityNames = a.snapshot.entityNames ++ new.map (·.name)
  numbers : new.map (·.id.id.toNat) = List.range' (a.snapshot.highestId + 1) new.length
  bounded : ∀ e ∈ new, e.id.id.toNat ≤ maxEntityId
  highest : after.snapshot.highestId = a.snapshot.highestId + new.length
  last : after.snapshot.lastEntityId = (new.getLast?.map (·.id)).or a.snapshot.lastEntityId

/-- A state that records the same entities under the same identifiers. -/
theorem counts_nil {a after : Assigner} (hstrategy : after.strategy = a.strategy)
    (hnames : after.snapshot.entityNames = a.snapshot.entityNames)
    (hids : after.snapshot.entities.map (·.id) = a.snapshot.entities.map (·.id))
    (hlast : after.snapshot.lastEntityId = a.snapshot.lastEntityId) : a.Counts [] after where
  strategy := hstrategy
  names := by rw [hnames, List.map_nil, List.append_nil]
  numbers := rfl
  bounded := by simp
  highest := by rw [Snapshot.highestId, hids, hlast, List.length_nil, Nat.add_zero]; rfl
  last := hlast

theorem Counts.trans {a b c : Assigner} {new more : List Entity} (h : a.Counts new b)
    (h' : b.Counts more c) : a.Counts (new ++ more) c where
  strategy := h'.strategy.trans h.strategy
  names := by rw [h'.names, h.names, List.map_append, List.append_assoc]
  numbers := by
    rw [List.map_append, h.numbers, h'.numbers, h.highest, List.length_append,
      ← List.range'_append_1, Nat.add_right_comm]
  bounded := List.forall_mem_append.mpr ⟨h.bounded, h'.bounded⟩
  highest := by rw [h'.highest, h.highest, List.length_append, Nat.add_assoc]
  last := by
    rw [h'.last, h.last, List.getLast?_append]
    cases more.getLast? <;> rfl

/-- Where there was a word after the highest number, there is one after the numbers that were
counted, as they have 24 bits. -/
theorem Counts.succ_highestId_lt {a after : Assigner} {new : List Entity} (h : a.Counts new after)
    (hword : a.snapshot.highestId + 1 < UInt32.size) :
    after.snapshot.highestId + 1 < UInt32.size := by
  by_cases hnil : new = []
  · rw [h.highest, hnil]
    exact hword
  · have hlength := List.length_pos_iff.mpr hnil
    have hmem : after.snapshot.highestId ∈ new.map (·.id.id.toNat) := by
      rw [h.numbers, h.highest, List.mem_range'_1]
      omega
    obtain ⟨e, he, hnumber⟩ := List.mem_map.mp hmem
    rw [← hnumber]
    exact Nat.lt_of_le_of_lt (Nat.succ_le_succ (h.bounded e he)) (by decide)

/-- An entity that is minted is counted. -/
theorem Mints.counts {a after : Assigner} {outline : Outline} {id : IdUid} {ids : List IdUid}
    (h : Mints a outline id ids after) (hseq : a.strategy = .sequential)
    (hword : a.snapshot.highestId + 1 < UInt32.size) {e : Entity}
    (hname : e.name = outline.name) (hid : e.id = id) : a.Counts [e] after := by
  have hnumber : id.id.toNat = a.snapshot.highestId + 1 := by
    rw [h.issued, hseq]
    exact Snapshot.countedId_toNat hword
  have habove : ∀ x ∈ a.snapshot.lastEntityId.toList, x.id < id.id := by
    intro x hx
    have hle : x.id.toNat ≤ a.snapshot.highestId := le_highestNumber (List.mem_append_left _ hx)
    rw [UInt32.lt_iff_toNat_lt]
    omega
  have hlast : after.snapshot.lastEntityId = some id := by
    rw [h.state]
    exact highestOf_concat_of_lt habove
  have hids : after.snapshot.entities.map (·.id) = a.snapshot.entities.map (·.id) ++ [id] := by
    rw [h.state]
    simp
  refine ⟨?_, ?_, ?_, ?_, ?_, ?_⟩
  · rw [h.state]
  · rw [h.state, List.map_singleton, hname]
    simp [Snapshot.entityNames]
  · rw [List.map_singleton, hid, hnumber]
    rfl
  · rw [List.forall_mem_singleton, hid]
    exact h.range
  · have hrecords : highestNumber (a.snapshot.entities.map (·.id)) ≤ a.snapshot.highestId := by
      rw [Snapshot.highestId, highestNumber_append]
      exact Nat.le_max_right _ _
    have hone : highestNumber [id] = id.id.toNat := Nat.max_zero _
    -- the new number stands in both places now, above what is in either
    rw [Snapshot.highestId, hlast, hids, Option.toList_some, highestNumber_append,
      highestNumber_append, hone, List.length_singleton]
    omega
  · rw [hlast, List.getLast?_singleton, Option.map_some, hid]
    rfl

/-- An entity that was recorded is not counted again. -/
theorem Outcome.counts {a after : Assigner} {outline : Outline} (h : a.Outcome outline after)
    (hmem : outline.name ∈ a.snapshot.entityNames) : a.Counts [] after := by
  cases h with
  | renewed split name owned newTo held =>
      have hkept := EntityRecord.keptIn_of_owned owned
      refine counts_nil rfl ?_ ?_ rfl
      · simp [Snapshot.entityNames, split, hkept.name]
      · simp [split, hkept.id]
  | spent unrecorded held => exact absurd hmem unrecorded
  | minted unrecorded mints => exact absurd hmem unrecorded

/-- Which names were declared does not count. -/
theorem Counts.of_seen {a after : Assigner} {new : List Entity} {seen : List String}
    (h : ({ a with seen } : Assigner).Counts new after) : a.Counts new after :=
  ⟨h.strategy, h.names, h.numbers, h.bounded, h.highest, h.last⟩

/-- Assigning a shape counts its entity, unless the entity was recorded. -/
theorem counts_of_assign {a : Assigner} {shape : EntityShape} {entity : Entity}
    (hseq : a.strategy = .sequential) (hword : a.snapshot.highestId + 1 < UInt32.size)
    (h : (a.assign shape).result = .ok entity) :
    a.Counts (a.snapshot.unrecorded [entity]) (a.assign shape).state := by
  obtain ⟨-, -, id, ids, hidentify, hcomplete, hstate⟩ := assign_eq_ok h
  obtain ⟨hname, hid, -⟩ := complete_of_ok hcomplete
  rw [hstate]
  suffices hdeclared : ({ a with seen := shape.name :: a.seen } : Assigner).Counts
      (a.snapshot.unrecorded [entity]) _ from hdeclared.of_seen
  by_cases hmem : shape.name ∈ a.snapshot.entityNames
  · have hnone : a.snapshot.unrecorded [entity] = [] := by
      simp [Snapshot.unrecorded, hname, hmem]
    rw [hnone]
    exact (outcome_identify { a with seen := shape.name :: a.seen } shape.outline).counts hmem
  · have hone : a.snapshot.unrecorded [entity] = [entity] := by
      simp [Snapshot.unrecorded, hname, hmem]
    rw [identify_of_notMem (a := { a with seen := shape.name :: a.seen }) hmem] at hidentify ⊢
    have hmints : Mints { a with seen := shape.name :: a.seen } shape.outline id ids _ :=
      mint_of_ok hidentify
    rw [hone]
    exact hmints.counts hseq hword hname hid

/-- Once an entity is counted, the entities of other names that are unrecorded are those that were
before. -/
theorem Counts.unrecorded_cons {a b : Assigner} {entity : Entity} {entities : List Entity}
    (h : a.Counts (a.snapshot.unrecorded [entity]) b)
    (hne : ∀ e ∈ entities, e.name ≠ entity.name) :
    a.snapshot.unrecorded (entity :: entities) =
      a.snapshot.unrecorded [entity] ++ b.snapshot.unrecorded entities := by
  have hsame : b.snapshot.unrecorded entities = a.snapshot.unrecorded entities := by
    refine List.filter_congr fun e he => ?_
    have hother : e.name ∉ (a.snapshot.unrecorded [entity]).map (·.name) := by
      rw [List.mem_map]
      rintro ⟨x, hx, hxe⟩
      have hmem := List.mem_of_mem_filter hx
      rw [List.mem_singleton] at hmem
      exact hne e he (by rw [← hxe, hmem])
    rw [h.names]
    simp [hother]
  rw [hsame]
  exact List.filter_append [entity] entities

/-- A run counts the entities that were not recorded when it started. -/
theorem counts_of_assignAll {a : Assigner} {shapes : List EntityShape} {entities : List Entity}
    (hseq : a.strategy = .sequential) (hword : a.snapshot.highestId + 1 < UInt32.size)
    (h : (a.assignAll shapes).result = .ok entities) :
    a.Counts (a.snapshot.unrecorded entities) (a.assignAll shapes).state := by
  induction shapes generalizing a entities with
  | nil =>
      cases h
      exact counts_nil rfl rfl rfl rfl
  | cons shape shapes ih =>
      obtain ⟨entity, rest, hone, hmore, rfl, hstate⟩ := assignAll_cons_of_ok h
      have hcounts := counts_of_assign hseq hword hone
      -- a name is declared once, so the rest have other names
      have hne : ∀ e ∈ rest, e.name ≠ entity.name := by
        intro e he heq
        obtain ⟨-, -, id, ids, -, hcomplete, -⟩ := assign_eq_ok hone
        have hname : entity.name ∈ (a.assign shape).state.seen := by
          rw [(complete_of_ok hcomplete).1]
          exact mem_seen_of_assign hone
        refine (newTo_of_assignAll hmore).2 e.name ?_ (heq ▸ hname)
        rw [← map_name_of_assignAll hmore]
        exact List.mem_map_of_mem he
      rw [hstate, hcounts.unrecorded_cons hne]
      exact hcounts.trans
        (ih (hcounts.strategy.trans hseq) (hcounts.succ_highestId_lt hword) hmore)

/-- A run that counts is never refused a number as taken. If it has run out of numbers, then the
unrecorded names up to the refused one were too many for 24 bits. -/
theorem of_assignAll_identity {a : Assigner} {shapes : List EntityShape} {cause : IdentityError}
    (hseq : a.strategy = .sequential) (hword : a.snapshot.highestId + 1 < UInt32.size)
    (h : (a.assignAll shapes).result = .error (.identity cause)) :
    (∃ name, cause = .duplicateEntity name) ∨ cause.AboutUid ∨
      ∃ last, cause = .entityIdExhausted last ∧ ∃ names : List String, names.Nodup ∧ names ≠ [] ∧
        (∀ name ∈ names, name ∈ shapes.map (·.name) ∧ name ∉ a.snapshot.entityNames) ∧
        maxEntityId < a.snapshot.highestId + names.length := by
  obtain ⟨front, shape, back, entities, rfl, hfront, hrefused⟩ := exists_refused_of_assignAll h
  have hcounts := counts_of_assignAll hseq hword hfront
  rcases duplicate_or_refuses_of_assign hrefused with rfl | ⟨-, hrefuses⟩
  · exact Or.inl ⟨shape.name, rfl⟩
  right
  cases hrefuses with
  | uid about => exact Or.inl about
  | taken id other wraps =>
      have hlt := hcounts.succ_highestId_lt hword
      have hsize := wraps (hcounts.strategy.trans hseq)
      dsimp only at hsize
      omega
  | exhausted last unrecorded counted exceeds =>
      dsimp only at unrecorded exceeds
      have hexceeds := Nat.lt_of_lt_of_le exceeds (Snapshot.countedId_toNat_le _ 0)
      rw [hcounts.highest] at hexceeds
      rw [hcounts.names, List.mem_append, not_or] at unrecorded
      obtain ⟨hold, hnew⟩ := unrecorded
      -- the names that were counted up to here, and the one that was to be counted next
      refine Or.inr ⟨last, rfl,
        (a.snapshot.unrecorded entities).map (·.name) ++ [shape.name], ?_, by simp, ?_, ?_⟩
      · rw [nodup_append_iff_newTo]
        refine ⟨?_, newTo_singleton_iff.mpr hnew⟩
        have hnames : (entities.map (·.name)).Nodup := by
          rw [map_name_of_assignAll hfront]
          exact (newTo_of_assignAll hfront).1
        exact hnames.sublist (List.filter_sublist.map _)
      · rw [List.forall_mem_append, List.forall_mem_singleton, List.forall_mem_map]
        refine ⟨fun e he => ?_, by simp, hold⟩
        obtain ⟨hmem, hnone⟩ := List.mem_filter.mp he
        have hdeclared : e.name ∈ front.map (·.name) := by
          rw [← map_name_of_assignAll hfront]
          exact List.mem_map_of_mem hmem
        rw [List.map_append]
        exact ⟨List.mem_append_left _ hdeclared, by simpa using hnone⟩
      · rwa [List.length_append, List.length_map, List.length_singleton, ← Nat.add_assoc]

end Assigner

/-! ## Derivations -/

/-- A declaration is refused for what it says, not for the identity of its entity. -/
theorem Declaration.ne_identity_of_buildAll {declarations : List Declaration} {error : SchemaError}
    (h : buildAll declarations = .error error) (cause : IdentityError) :
    error ≠ .identity cause := by
  induction declarations with
  | nil => cases h
  | cons declaration rest ih =>
      rw [buildAll, bind_eq_error_iff] at h
      rcases h with hone | ⟨shape, -, hmore⟩
      · rintro rfl
        cases build_eq_error_iff.mp hone with
        | field hfails =>
            obtain ⟨_, _, _, _, -, -, hfails⟩ := hfails
            cases hfails
      · rw [bind_eq_error_iff] at hmore
        rcases hmore with hmore | ⟨shapes, -, ⟨⟩⟩
        exact ih hmore

/-- Counting goes on from the highest number ever issued, whether it is recorded as such or held by
a record, live or retired: the declared entities that the snapshot does not record get the numbers
behind it in the order of their declarations, each of 24 bits, and the last of them is recorded as
the highest. No number is refused as taken, and numbers run out only if there are more such
entities declared than numbers left. That the highest word of all is not recorded as the highest
number is assumed, since counting starts over behind it. -/
theorem deriveModel_counts (nameSpace : String) (declarations : List Declaration)
    (previous : Snapshot) (source : Option String)
    (hlast : ∀ last, previous.lastEntityId = some last → last.id.toNat + 1 < UInt32.size) :
    (∀ model merged, (deriveModel nameSpace declarations previous ⟨.sequential, source⟩).result =
        .ok (model, merged) →
      model.entities.map (·.name) = declarations.map (·.name) ∧
        (∀ k e, (previous.unrecorded model.entities)[k]? = some e →
          e.id.id.toNat = previous.highestId + (k + 1) ∧ e.id.id.toNat ≤ maxEntityId) ∧
        merged.lastEntityId =
          ((previous.unrecorded model.entities).getLast?.map (·.id)).or previous.lastEntityId) ∧
      ∀ cause, (deriveModel nameSpace declarations previous ⟨.sequential, source⟩).result =
          .error (.identity cause) →
        (∀ name id other, cause ≠ .entityIdCollision name id other) ∧
          ∀ last, cause = .entityIdExhausted last →
            ∃ k, 0 < k ∧ k ≤ previous.unrecordedCount declarations ∧
              maxEntityId < previous.highestId + k := by
  have hword : previous.validate = .ok () → previous.highestId + 1 < UInt32.size := fun hvalid =>
    (Snapshot.validate_eq_ok_iff.mp hvalid).succ_highestId_lt hlast
  constructor
  · intro model merged h
    obtain ⟨hvalid, shapes, hbuilt, hassigned, rfl, -⟩ := deriveModel_eq_ok h
    have hcounts := Assigner.counts_of_assignAll rfl (hword hvalid) hassigned
    have hnumbers : (previous.unrecorded model.entities).map (·.id.id.toNat) =
        List.range' (previous.highestId + 1) (previous.unrecorded model.entities).length :=
      hcounts.numbers
    refine ⟨?_, fun k e hk => ?_, hcounts.last⟩
    · rw [Assigner.map_name_of_assignAll hassigned]
      exact Declaration.map_name_of_buildAll hbuilt
    · have hnumber := congrArg (·[k]?) hnumbers
      rw [List.getElem?_map, hk, Option.map_some, eq_comm, List.getElem?_eq_some_iff] at hnumber
      obtain ⟨hlt, hnumber⟩ := hnumber
      rw [List.getElem_range'] at hnumber
      exact ⟨by omega, hcounts.bounded e (List.mem_of_getElem? hk)⟩
  · intro cause h
    -- only the assignment is refused for the identity of an entity
    rcases deriveModel_eq_error h with ⟨_, ⟨⟩⟩ | ⟨hvalid, hbuilt | ⟨shapes, hbuilt, hassigned⟩⟩
    · exact absurd rfl (Declaration.ne_identity_of_buildAll hbuilt cause)
    have hnames := Declaration.map_name_of_buildAll hbuilt
    rcases Assigner.of_assignAll_identity rfl (hword hvalid) hassigned with
      ⟨name, rfl⟩ | habout | ⟨last, rfl, names, hnodup, hne, hunrecorded, hexceeds⟩
    · refine ⟨fun _ _ _ hc => ?_, fun _ hc => ?_⟩ <;> cases hc
    · refine ⟨fun _ _ _ hc => ?_, fun _ hc => ?_⟩ <;> subst hc <;> cases habout
    · refine ⟨fun _ _ _ hc => ?_, fun _ _ => ⟨names.length, ?_, ?_, hexceeds⟩⟩
      · cases hc
      · exact List.length_pos_iff.mpr hne
      · refine (List.subperm_of_subset hnodup fun name hname => ?_).length_le
        obtain ⟨hdeclared, hold⟩ := hunrecorded name hname
        change name ∉ previous.entityNames at hold
        rw [hnames] at hdeclared
        rw [List.mem_eraseDups, List.mem_filter]
        exact ⟨hdeclared, by simpa using hold⟩

/-! ## Two new entities around a recorded one -/

def interleavedDeclarations : List Declaration :=
  .ofParts "Item" [("id", "i64", "id")] :: mixedDeclarations

/-- The new entities are counted on from the record with the highest number, which is retired. With
one number left, the first of them takes it and the second is refused. -/
theorem deriveModel_counts_interleaved :
    (∃ model merged, (deriveModel "app" interleavedDeclarations mixedSnapshot
        ⟨.sequential, none⟩).result = .ok (model, merged) ∧
      (mixedSnapshot.unrecorded model.entities).map (fun e => (e.name, e.id.id.toNat)) =
        [("Item", 8), ("Tag", 9)] ∧
      merged.lastEntityId.map (·.id.toNat) = some 9) ∧
    (deriveModel "app" interleavedDeclarations
        { mixedSnapshot with lastEntityId := some ⟨16777214, 13⟩ } ⟨.sequential, none⟩).result =
      .error (.identity (.entityIdExhausted 16777215)) ∧
    ∃ k, 0 < k ∧ k ≤ Snapshot.unrecordedCount
        { mixedSnapshot with lastEntityId := some ⟨16777214, 13⟩ } interleavedDeclarations ∧
      maxEntityId < Snapshot.highestId
        { mixedSnapshot with lastEntityId := some ⟨16777214, 13⟩ } + k := by
  refine ⟨?_, by decide +kernel, ?_⟩
  · obtain ⟨⟨model, merged⟩, h⟩ := exists_eq_ok (x := (deriveModel "app" interleavedDeclarations
      mixedSnapshot ⟨.sequential, none⟩).result) (by decide +kernel)
    obtain ⟨-, -, hlast⟩ := (deriveModel_counts "app" interleavedDeclarations mixedSnapshot
      none (by simp [mixedSnapshot])).1 model merged h
    have hnew : (deriveModel "app" interleavedDeclarations mixedSnapshot
        ⟨.sequential, none⟩).result.toOption.map (fun out =>
          (mixedSnapshot.unrecorded out.1.entities).map fun e => (e.name, e.id.id.toNat)) =
        some [("Item", 8), ("Tag", 9)] := by
      decide +kernel
    rw [h] at hnew
    have hnew := Option.some.inj hnew
    refine ⟨model, merged, h, hnew, ?_⟩
    have hnumber := congrArg (fun pairs => pairs.getLast?.map Prod.snd) hnew
    simpa [hlast, mixedSnapshot, List.getLast?_map] using hnumber
  · have hrefused : (deriveModel "app" interleavedDeclarations
        { mixedSnapshot with lastEntityId := some ⟨16777214, 13⟩ } ⟨.sequential, none⟩).result =
        .error (.identity (.entityIdExhausted 16777215)) := by
      decide +kernel
    exact ((deriveModel_counts "app" interleavedDeclarations _ none (by decide)).2 _ hrefused).2
      _ rfl

/-- Behind the highest word of all the second new entity is counted to the number of the first. -/
example : (deriveModel "app" interleavedDeclarations
    { mixedSnapshot with lastEntityId := some ⟨4294967295, 13⟩ } ⟨.sequential, none⟩).result =
    .error (.identity (.entityIdCollision "Tag" 0 "Item")) := by
  decide +kernel

end RecordSchema
