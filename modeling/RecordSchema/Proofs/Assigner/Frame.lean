/-
What a run of the assigner leaves alone.

A step touches the record of its own name and no other. So a record whose name was not declared yet
is the one that the run started from, a record whose name was declared is there to stay, and a UID
that is held stays held. `Reaches` says this of two states of one run.

None of it asks whether the assigner is sound or whether a step was refused, and the names of the
properties may repeat: that is why it stands apart from the invariant of a run.
-/
import RecordSchema.Proofs.Assigner.Outcome
import RecordSchema.Proofs.Derive

set_option autoImplicit false

namespace RecordSchema

namespace Assigner

/-! ## Identifying an entity -/

/-- What identifying an entity leaves alone: the names declared so far, the UIDs held, and the
records of other names, which also keep their order. -/
structure Spares (a : Assigner) (name : String) (after : Assigner) : Prop where
  seen : after.seen = a.seen
  held : a.ledger.uids ⊆ after.ledger.uids
  others : after.snapshot.entities.filter (·.name ≠ name) =
    a.snapshot.entities.filter (·.name ≠ name)

/-- A record of another name is there before exactly if it is there after. -/
theorem Spares.mem_iff {a after : Assigner} {name : String} (h : a.Spares name after)
    {r : EntityRecord} (hr : r.name ≠ name) :
    r ∈ after.snapshot.entities ↔ r ∈ a.snapshot.entities := by
  have hmem : ∀ es : List EntityRecord, r ∈ es.filter (·.name ≠ name) ↔ r ∈ es := fun es => by
    rw [List.mem_filter, decide_eq_true hr, and_iff_left rfl]
  rw [← hmem, h.others, hmem]

/-- Each of the outcomes leaves alone what has another name. -/
theorem Outcome.spares {a after : Assigner} {outline : Outline} (h : a.Outcome outline after) :
    a.Spares outline.name after := by
  cases h with
  | renewed split name owned newTo held =>
      -- the record that was there and the one that comes in its place have the same name
      have hname := (EntityRecord.keptIn_of_owned owned).name.trans name
      refine ⟨rfl, List.Subset.trans (List.subset_append_left _ _) held, ?_⟩
      simp only [split, List.filter_append, List.filter_cons, name, hname, ne_eq,
        not_true_eq_false, decide_false, Bool.false_eq_true, if_false]
  | spent unrecorded held => exact ⟨rfl, held, rfl⟩
  | minted unrecorded mints =>
      rw [mints.state]
      refine ⟨rfl, ?_, ?_⟩
      · rw [Ledger.uids_enterRecord]
        exact List.subset_append_right _ _
      · simp

/-- Identifying an entity leaves alone what has another name. -/
theorem spares_identify (a : Assigner) (name : String) (properties : List String) :
    a.Spares name (a.identify name properties).state :=
  (a.outcome_identify ⟨name, properties⟩).spares

/-! ## States of one run -/

/-- A later state of a run: a record whose name was not declared in between is an old one and
unchanged, one whose name was declared before stays, and what was held is held. -/
structure Reaches (a after : Assigner) : Prop where
  seen : a.seen ⊆ after.seen
  held : a.ledger.uids ⊆ after.ledger.uids
  unseen : ∀ r : EntityRecord, r.name ∉ after.seen →
    (r ∈ after.snapshot.entities ↔ r ∈ a.snapshot.entities)
  kept : ∀ r ∈ a.snapshot.entities, r.name ∈ a.seen → r ∈ after.snapshot.entities

theorem Reaches.refl (a : Assigner) : a.Reaches a :=
  ⟨List.Subset.refl _, List.Subset.refl _, fun _ _ => Iff.rfl, fun _ hr _ => hr⟩

theorem Reaches.trans {a b c : Assigner} (h : a.Reaches b) (h' : b.Reaches c) : a.Reaches c where
  seen := List.Subset.trans h.seen h'.seen
  held := List.Subset.trans h.held h'.held
  unseen r hr := (h'.unseen r hr).trans (h.unseen r fun hb => hr (h'.seen hb))
  kept r hr hseen := h'.kept r (h.kept r hr hseen) (h.seen hseen)

/-- Assigning a shape either changes nothing or identifies an entity that was not declared
before. -/
theorem state_assign (a : Assigner) (shape : EntityShape) :
    (a.assign shape).state = a ∨ shape.name ∉ a.seen ∧
      (a.assign shape).state = (({ a with seen := shape.name :: a.seen } : Assigner).identify
        shape.name (shape.properties.map (·.name))).state := by
  unfold assign
  by_cases hempty : shape.properties.isEmpty = true
  · rw [if_pos hempty]
    exact Or.inl rfl
  · rw [if_neg hempty]
    by_cases hseen : a.seen.contains shape.name = true
    · rw [if_pos hseen]
      exact Or.inl rfl
    · rw [if_neg hseen]
      refine Or.inr ⟨by simpa using hseen, ?_⟩
      dsimp only
      split <;> rfl

/-- A name that is assigned is declared from then on. -/
theorem mem_seen_of_assign {a : Assigner} {shape : EntityShape} {entity : Entity}
    (h : (a.assign shape).result = .ok entity) : shape.name ∈ (a.assign shape).state.seen := by
  obtain ⟨-, -, id, ids, -, -, hstate⟩ := assign_eq_ok h
  rw [hstate, (spares_identify _ _ _).seen]
  exact List.mem_cons_self

theorem reaches_assign (a : Assigner) (shape : EntityShape) :
    a.Reaches (a.assign shape).state := by
  rcases a.state_assign shape with hsame | ⟨hnew, hstate⟩
  · rw [hsame]
    exact .refl a
  · have h := ({ a with seen := shape.name :: a.seen } : Assigner).spares_identify shape.name
      (shape.properties.map (·.name))
    rw [← hstate] at h
    refine ⟨?_, h.held, fun r hr => h.mem_iff ?_, fun r hr hseen => (h.mem_iff ?_).mpr hr⟩
    · rw [h.seen]
      exact List.subset_cons_self _ _
    · intro hname
      rw [h.seen, hname] at hr
      exact hr List.mem_cons_self
    · intro hname
      exact hnew (hname ▸ hseen)

theorem reaches_assignAll (a : Assigner) (shapes : List EntityShape) :
    a.Reaches (a.assignAll shapes).state := by
  induction shapes generalizing a with
  | nil => exact .refl a
  | cons shape shapes ih =>
      rw [assignAll]
      dsimp only
      cases (a.assign shape).result with
      | error e => exact a.reaches_assign shape
      | ok entity => exact (a.reaches_assign shape).trans (ih _)

/-- A run declares every name once. -/
theorem newTo_of_assignAll {a : Assigner} {shapes : List EntityShape} {entities : List Entity}
    (h : (a.assignAll shapes).result = .ok entities) : NewTo a.seen (shapes.map (·.name)) := by
  induction shapes generalizing a entities with
  | nil => exact newTo_nil _
  | cons shape shapes ih =>
      obtain ⟨entity, rest, hone, hmore, -, -⟩ := assignAll_cons_of_ok h
      have hsub : shape.name :: a.seen ⊆ (a.assign shape).state.seen :=
        List.cons_subset.mpr ⟨mem_seen_of_assign hone, (a.reaches_assign shape).seen⟩
      exact newTo_cons_iff.mpr ⟨(assign_eq_ok hone).2.1, (ih hmore).mono hsub⟩

/-- The entities of a run come from its shapes one by one: each was assigned in some state of the
run, from which its end was reached. -/
theorem forall₂_of_assignAll {a : Assigner} {shapes : List EntityShape} {entities : List Entity}
    (h : (a.assignAll shapes).result = .ok entities) :
    List.Forall₂ (fun shape entity => ∃ b : Assigner, a.Reaches b ∧
        (b.assign shape).result = .ok entity ∧
        (b.assign shape).state.Reaches (a.assignAll shapes).state)
      shapes entities := by
  induction shapes generalizing a entities with
  | nil =>
      cases h
      exact .nil
  | cons shape shapes ih =>
      obtain ⟨entity, rest, hone, hmore, rfl, hstate⟩ := assignAll_cons_of_ok h
      rw [hstate]
      refine .cons ⟨a, .refl a, hone, reaches_assignAll _ shapes⟩ ((ih hmore).imp ?_)
      rintro shape' entity' ⟨b, hb, hassign, hend⟩
      exact ⟨b, (a.reaches_assign shape).trans hb, hassign, hend⟩

/-- The entities of a run have the names of its shapes. -/
theorem map_name_of_assignAll {a : Assigner} {shapes : List EntityShape}
    {entities : List Entity} (h : (a.assignAll shapes).result = .ok entities) :
    entities.map (·.name) = shapes.map (·.name) := by
  refine (map_eq_of_forall₂ (forall₂_of_assignAll h) ?_).symm
  rintro shape entity ⟨b, -, hassign, -⟩
  obtain ⟨-, -, id, ids, -, hcomplete, -⟩ := assign_eq_ok hassign
  exact (complete_of_ok hcomplete).1.symm

end Assigner

/-- The entities of a derivation come from its declarations one by one: each was assigned in some
state of the run, and the record that it had then is in the merged snapshot. -/
theorem forall₂_of_deriveModel {nameSpace : String} {declarations : List Declaration}
    {previous merged : Snapshot} {options : DeriveOptions} {model : Model}
    {P : Outline → Entity → Prop}
    (h : (deriveModel nameSpace declarations previous options).result = .ok (model, merged))
    (hP : ∀ (b : Assigner) (shape : EntityShape) (entity : Entity),
      (Assigner.start previous nameSpace options.strategy options.source).Reaches b →
      (b.assign shape).result = .ok entity →
      (∀ r ∈ (b.assign shape).state.snapshot.entities, r.name = shape.name → r ∈ merged.entities) →
      P shape.outline entity) :
    List.Forall₂ (fun d entity => P d.outline entity) declarations model.entities := by
  obtain ⟨-, shapes, hbuilt, hassigned, hmerged, -⟩ := deriveModel_eq_ok h
  obtain ⟨houtlines, -⟩ := Declaration.outline_of_buildAll hbuilt
  have hshapes : List.Forall₂ (fun shape entity => P shape.outline entity) shapes
      model.entities := by
    refine (Assigner.forall₂_of_assignAll hassigned).imp ?_
    rintro shape entity ⟨b, hb, hassign, hend⟩
    refine hP b shape entity hb hassign fun r hr hname => ?_
    -- its name is declared from here on, so it is neither replaced nor retired
    have hseen : r.name ∈ (b.assign shape).state.seen :=
      hname ▸ Assigner.mem_seen_of_assign hassign
    rw [hmerged]
    exact Assigner.mem_finish (hend.kept r hr hseen) (hend.seen hseen)
  have hmap := (List.forall₂_map_left_iff (f := EntityShape.outline)).mpr hshapes
  rw [houtlines] at hmap
  exact List.forall₂_map_left_iff.mp hmap

end RecordSchema
