/-
What the log of a derivation says of retiring and reviving.

A record is retired or revived by a change of its mark, so the log is right if it has one event for
every mark that differs between the previous and the merged snapshot. That the events of a run are
these is known of every record by itself; here they are put together, and read back from the log by
their messages. Nothing is asked of the declarations: properties may repeat a name.
-/
import RecordSchema.Proofs.Assigner.Marks
import RecordSchema.Proofs.Entity.Build
import RecordSchema.Proofs.Independence

set_option autoImplicit false

namespace RecordSchema

open Log

/-! ## Marks of a snapshot -/

namespace Snapshot

/-- Whether the entity of a name is retired, if it is recorded. -/
def mark? (s : Snapshot) (entity : String) : Option Bool := (s.entity? entity).map (·.retired)

/-- Whether the property of a name is retired, if it is recorded. -/
def propertyMark? (s : Snapshot) (entity property : String) : Option Bool :=
  (s.entity? entity).bind fun r => (r.property? property).map (·.retired)

/-- The entities whose mark is another in a later snapshot, and there is `retired`. -/
def turnedEntities (s after : Snapshot) (retired : Bool) : List EntityRecord :=
  s.entities.filter fun r => r.retired != retired && after.mark? r.name == some retired

/-- The properties whose mark is another in a later snapshot, and there is `retired`, each by the
names of its entity and its own. -/
def turnedProperties (s after : Snapshot) (retired : Bool) : List (String × String) :=
  s.entities.flatMap fun r =>
    (r.properties.filter fun p =>
      p.retired != retired && after.propertyMark? r.name p.name == some retired).map fun p =>
        (r.name, p.name)

end Snapshot

/-! ## Messages -/

/-- Whether an event is logged with a message. -/
def SchemaEvent.hasMessage (message : String) (e : SchemaEvent) : Bool :=
  e.record.message == message

/-- The events of marks are those with one of four messages. -/
theorem SchemaEvent.isTurn_iff {e : SchemaEvent} :
    e.isTurn = true ↔ e.record.message ∈ ["retiring entity", "retiring property",
      "reviving retired entity", "reviving retired property"] := by
  cases e <;> simp [isTurn, record]

/-- Events of marks are warnings where something is retired, and else for information. -/
theorem SchemaEvent.level_of_hasMessage (e : SchemaEvent) :
    (e.hasMessage "retiring entity" = true ∨ e.hasMessage "retiring property" = true →
      e.record.level = .warn) ∧
    (e.hasMessage "reviving retired entity" = true ∨
      e.hasMessage "reviving retired property" = true → e.record.level = .info) := by
  cases e <;> simp [hasMessage, record]

/-- What has one of the messages of marks is found among the events of marks. -/
theorem filter_hasMessage_filter_isTurn {message : String}
    (h : message ∈ ["retiring entity", "retiring property", "reviving retired entity",
      "reviving retired property"]) (events : List SchemaEvent) :
    (events.filter SchemaEvent.isTurn).filter (SchemaEvent.hasMessage message) =
      events.filter (SchemaEvent.hasMessage message) := by
  rw [List.filter_filter]
  refine List.filter_congr fun e _ => ?_
  cases hmessage : e.hasMessage message with
  | false => rfl
  | true =>
      have heq : e.record.message = message := by simpa [SchemaEvent.hasMessage] using hmessage
      rw [SchemaEvent.isTurn_iff.mpr (heq ▸ h), Bool.true_and]

/-! ## Building -/

/-- Resolving a field turns no marks. -/
theorem Field.isTurn_of_mem_resolveAll {entity : String} {earlier : List PropertyShape}
    {fields : List Field} {e : SchemaEvent} (he : e ∈ (resolveAll entity earlier fields).1) :
    e.isTurn = false := by
  induction fields generalizing earlier with
  | nil => cases he
  | cons field rest ih =>
      rw [resolveAll] at he
      -- a refused field has told nothing, and the others are not reached
      cases hone : field.resolve entity earlier with
      | error error =>
          rw [hone] at he
          cases he
      | ok property =>
          rw [hone] at he
          rcases List.mem_cons.mp he with rfl | he
          · cases property <;> rfl
          · exact ih he

/-- Building a shape turns no marks. -/
theorem Declaration.isTurn_of_mem_buildAllEvents {declarations : List Declaration} {e : SchemaEvent}
    (he : e ∈ buildAllEvents declarations) : e.isTurn = false := by
  induction declarations with
  | nil => cases he
  | cons declaration rest ih =>
      rw [buildAllEvents] at he
      rcases List.mem_append.mp he with he | he
      · exact Field.isTurn_of_mem_resolveAll he
      · cases hbuild : declaration.build with
        | error error =>
            rw [hbuild] at he
            cases he
        | ok shape =>
            rw [hbuild] at he
            exact ih he

/-! ## Merged records -/

/-- Some things each stand for themselves where a condition holds, and for nothing else. -/
theorem flatMap_ite_singleton {α β : Type} (xs : List α) (p : α → Bool) (f : α → β) :
    (xs.flatMap fun x => if p x then [f x] else []) = (xs.filter p).map f := by
  induction xs with
  | nil => rfl
  | cons x xs ih =>
      rw [List.flatMap_cons, ih]
      cases hp : p x with
      | true => rw [List.filter_cons_of_pos hp, List.map_cons, if_pos rfl, List.singleton_append]
      | false => rw [List.filter_cons_of_neg (by simp [hp]), if_neg Bool.false_ne_true]; rfl

namespace EntityRecord

variable {r : EntityRecord} {source : Option String} {outlines : List Outline}

/-- A record that no outline declares keeps its properties as they are. -/
theorem properties_merged_of_notMem (h : r.name ∉ outlines.map (·.name)) :
    (r.merged source outlines).properties = r.properties := by
  rw [merged_of_find?_none ((find?_key_eq_none_iff (·.name) outlines).mpr h)]
  split <;> rfl

/-- A live record is retired by a merge exactly if it is dropped. -/
theorem retired_merged_eq (r : EntityRecord) (source : Option String) (outlines : List Outline) :
    (r.retired != true && (r.merged source outlines).retired == true) =
      r.isDropped source outlines := by
  rw [isDropped]
  by_cases hdeclared : r.name ∈ outlines.map (·.name)
  · rw [List.contains_iff_mem.mpr hdeclared]
    cases hfind : outlines.find? (·.name = r.name) with
    | none => exact absurd hdeclared ((find?_key_eq_none_iff (·.name) outlines).mp hfind)
    | some outline => simp [merged_of_find? hfind, declared]
  · -- it is retired if it is of this unit, and as it was if it is of another
    rw [merged_of_find?_none ((find?_key_eq_none_iff (·.name) outlines).mpr hdeclared)]
    by_cases hsource : r.source = source
    · simp [hsource, hdeclared]
    · cases hretired : r.retired <;> simp [hsource, hretired]

/-- The marks of a merged record are told of when it is declared, or when it is dropped. -/
theorem turns_merged (hr : r.propertyNames.Nodup) (source : Option String)
    (outlines : List Outline) :
    r.turns (r.merged source outlines) = r.told source outlines ++
      if r.isDropped source outlines then [.retiringEntity r.name r.id] else [] := by
  rw [← retired_merged_eq]
  cases hfind : outlines.find? (·.name = r.name) with
  | some outline =>
      -- a declared record is live afterwards, so it is not dropped
      have hlive : (r.merged source outlines).retired = false := by
        rw [merged_of_find? hfind]
        rfl
      rw [hlive, told, hfind, merged_of_find? hfind]
      simp
  | none =>
      have hdeclared := (find?_key_eq_none_iff (·.name) outlines).mp hfind
      have hproperties : (r.merged source outlines).properties = r.properties :=
        properties_merged_of_notMem hdeclared
      rw [told_of_notMem hdeclared, turns, turned_of_properties_eq hr hproperties,
        turned_of_properties_eq hr hproperties, merged_of_find?_none hfind]
      -- such a record is retired or stays as it is, but it is not revived
      split <;> cases r.retired <;> simp

/-- A recorded property is there in the merged record. -/
theorem exists_property?_merged (hr : r.propertyNames.Nodup) (source : Option String)
    (outlines : List Outline) {p : PropertyRecord} (hp : p ∈ r.properties) :
    ∃ q, (r.merged source outlines).property? p.name = some q := by
  cases hfind : outlines.find? (·.name = r.name) with
  | some outline =>
      rw [merged_of_find? hfind]
      exact ⟨_, property?_declared hr source _ hp⟩
  | none =>
      have hdeclared := (find?_key_eq_none_iff (·.name) outlines).mp hfind
      rw [property?, properties_merged_of_notMem hdeclared]
      exact ⟨p, (find?_key_eq_some_iff hr).mpr ⟨hp, rfl⟩⟩

/-- Where there is nothing to tell no mark has changed. -/
theorem marks_of_turns_eq_nil {after : EntityRecord} (h : r.turns after = []) :
    after.retired = r.retired ∧ ∀ p ∈ r.properties, ∀ q, after.property? p.name = some q →
      q.retired = p.retired := by
  rw [turns, List.append_eq_nil_iff, List.append_eq_nil_iff, List.map_eq_nil_iff,
    List.map_eq_nil_iff] at h
  obtain ⟨⟨hentity, hrevived⟩, hretired⟩ := h
  constructor
  · by_contra hne
    rw [if_neg hne] at hentity
    split at hentity <;> cases hentity
  · intro p hp q hq
    have hnone : ∀ retired, r.turned after retired = [] := by
      rintro (_ | _)
      · exact hrevived
      · exact hretired
    -- if its mark were another one, it would be among those that have turned to that
    by_contra hne
    have hmem : p ∈ r.turned after q.retired := by
      rw [turned, List.mem_filter, hq]
      exact ⟨hp, by simpa using Ne.symm hne⟩
    rw [hnone] at hmem
    cases hmem

/-- What is read of the turns of a record, if the four kinds of events are told apart. -/
theorem filter_turns (r after : EntityRecord) {f : SchemaEvent → Bool} {a b c d : Bool}
    (ha : ∀ entity id, f (.retiringEntity entity id) = a)
    (hb : ∀ entity property, f (.retiringProperty entity property) = b)
    (hc : ∀ entity id, f (.revivingEntity entity id) = c)
    (hd : ∀ entity property, f (.revivingProperty entity property) = d) :
    (r.turns after).filter f =
      (if a && (r.retired != true && after.retired == true) then [.retiringEntity r.name r.id]
        else []) ++
      (if c && (r.retired != false && after.retired == false) then
        [.revivingEntity r.name r.id] else []) ++
      (if d then (r.turned after false).map fun p => .revivingProperty r.name p.name else []) ++
      (if b then (r.turned after true).map fun p => .retiringProperty r.name p.name else []) := by
  have hmap : ∀ (ps : List PropertyRecord) (event : PropertyRecord → SchemaEvent) (keep : Bool),
      (∀ p, f (event p) = keep) →
      (ps.map event).filter f = if keep then ps.map event else [] := by
    rintro ps event (_ | _) hkeep
    · exact List.filter_eq_nil_iff.mpr (List.forall_mem_map.mpr fun p _ => by simp [hkeep p])
    · exact SchemaEvent.filter_map_eq hkeep ps
  rw [turns, List.filter_append, List.filter_append, hmap _ _ d fun p => hd _ _,
    hmap _ _ b fun p => hb _ _]
  congr 2
  -- what is left is the event of the record itself, of which there is at most one
  cases r.retired <;> cases after.retired <;> simp [List.filter_cons, ha, hc]

end EntityRecord

/-! ## Derivations -/

section Derivation

variable {nameSpace : String} {declarations : List Declaration} {previous merged : Snapshot}
  {options : DeriveOptions} {model : Model}

/-- What a derivation tells that comes out: of building, of each declaration, of the model, and of
the end. -/
theorem events_deriveModel (hvalid : previous.validate = .ok ()) {shapes : List EntityShape}
    (hbuilt : Declaration.buildAll declarations = .ok shapes) {entities : List Entity}
    (hassigned : ((Assigner.start previous nameSpace options.strategy options.source).assignAll
      shapes).result = .ok entities) :
    (deriveModel nameSpace declarations previous options).events =
      Declaration.buildAllEvents declarations ++
        ((Assigner.start previous nameSpace options.strategy options.source).assignAll
          shapes).events ++ [.derivedModel nameSpace entities.length] ++
        ((Assigner.start previous nameSpace options.strategy options.source).assignAll
          shapes).state.finish.1 := by
  unfold deriveModel
  rw [hvalid, hbuilt]
  dsimp only
  rw [hassigned]

/-- A derivation that comes out has merged the outlines of its declarations, and its events of marks
are those of the records that it declares, and behind them those of the records that it drops. -/
theorem exists_told_of_deriveModel
    (h : (deriveModel nameSpace declarations previous options).result = .ok (model, merged)) :
    let outlines := declarations.map (·.outline)
    merged = previous.merge nameSpace options outlines ∧ ∃ told,
      (deriveModel nameSpace declarations previous options).events.filter SchemaEvent.isTurn =
        told ++ (previous.entities.filter (·.isDropped options.source outlines)).map
          (fun r => .retiringEntity r.name r.id) ∧
      told.Perm (previous.entities.flatMap (·.told options.source outlines)) := by
  intro outlines
  obtain ⟨hvalid, shapes, hbuilt, hassigned, hmerged, -⟩ := deriveModel_eq_ok h
  have htells := Assigner.tells_of_assignAll
    (Assigner.coherent_start hvalid nameSpace options.strategy options.source)
    (fun _ _ r hr _ => Snapshot.nodup_propertyNames_of_validate hvalid hr) hassigned
  obtain ⟨houtlines, -⟩ := Declaration.outline_of_buildAll hbuilt
  have hsnapshot := htells.snapshot
  have hturns := htells.turns
  rw [houtlines] at hsnapshot hturns
  have hseen := mem_seen_iff_of_buildAll hbuilt htells.seen
  refine ⟨?_, _, ?_, hturns⟩
  · rw [hmerged]
    exact Assigner.finish_eq_merge hsnapshot htells.source hseen
  · -- what the assigner tells first is the part in question, and the rest are the records dropped
    have hbuild : (Declaration.buildAllEvents declarations).filter SchemaEvent.isTurn = [] := by
      rw [List.filter_eq_nil_iff]
      intro e he
      rw [Declaration.isTurn_of_mem_buildAllEvents he]
      exact Bool.false_ne_true
    rw [events_deriveModel hvalid hbuilt hassigned,
      Assigner.events_finish hsnapshot htells.source hseen, List.filter_append,
      List.filter_append, List.filter_append, hbuild, SchemaEvent.filter_map_eq fun r => rfl]
    exact congrArg (· ++ _) (List.append_nil _)

/-- A recorded entity is found in the merged snapshot by its name. -/
theorem Snapshot.entity?_merge_of_recorded (hvalid : previous.validate = .ok ()) {r : EntityRecord}
    (hr : r ∈ previous.entities) (nameSpace : String) (options : DeriveOptions)
    (outlines : List Outline) :
    (previous.merge nameSpace options outlines).entity? r.name =
      some (r.merged options.source outlines) := by
  have hnames := (Snapshot.validate_eq_ok_iff.mp hvalid).names
  rw [Snapshot.entity?_merge, (Snapshot.entity?_eq_some_iff hnames).mpr ⟨hr, rfl⟩]
  rfl

/-- All events of marks are the turns of the recorded entities, each against its merged record. -/
theorem filter_isTurn_deriveModel
    (h : (deriveModel nameSpace declarations previous options).result = .ok (model, merged)) :
    ((deriveModel nameSpace declarations previous options).events.filter
      SchemaEvent.isTurn).Perm (previous.entities.flatMap fun r =>
        r.turns (r.merged options.source (declarations.map (·.outline)))) := by
  obtain ⟨-, told, hevents, htold⟩ := exists_told_of_deriveModel h
  have hvalid := (deriveModel_eq_ok h).1
  rw [hevents, ← flatMap_ite_singleton]
  -- declared records first and dropped ones behind them, or each record by itself
  refine (htold.append_right _).trans ?_
  refine (flatMap_perm_of_forall₂ (R := fun r r' => r ∈ previous.entities ∧ r = r')
    (List.forall₂_same.mpr fun r hr => ⟨hr, rfl⟩) ?_).symm
  rintro r _ ⟨hr, rfl⟩
  exact EntityRecord.turns_merged (Snapshot.nodup_propertyNames_of_validate hvalid hr) _ _

/-- The entities that a derivation has turned, read off their merged records. -/
theorem turnedEntities_eq
    (h : (deriveModel nameSpace declarations previous options).result = .ok (model, merged))
    (retired : Bool) :
    previous.turnedEntities merged retired = previous.entities.filter fun r =>
      r.retired != retired &&
        (r.merged options.source (declarations.map (·.outline))).retired == retired := by
  obtain ⟨rfl, -⟩ := exists_told_of_deriveModel h
  refine List.filter_congr fun r hr => ?_
  rw [Snapshot.mark?, Snapshot.entity?_merge_of_recorded (deriveModel_eq_ok h).1 hr,
    Option.map_some, Option.some_beq_some]

/-- The properties that a derivation has turned, read off the merged records of their entities. -/
theorem turnedProperties_eq
    (h : (deriveModel nameSpace declarations previous options).result = .ok (model, merged))
    (retired : Bool) :
    previous.turnedProperties merged retired = previous.entities.flatMap fun r =>
      (r.turned (r.merged options.source (declarations.map (·.outline))) retired).map fun p =>
        (r.name, p.name) := by
  obtain ⟨rfl, -⟩ := exists_told_of_deriveModel h
  refine List.flatMap_congr fun r hr => ?_
  simp only [Snapshot.propertyMark?,
    Snapshot.entity?_merge_of_recorded (deriveModel_eq_ok h).1 hr, Option.bind_some]
  rfl

/-- What has one message of marks is what that message picks out of the turns of each record. -/
theorem filter_hasMessage_deriveModel
    (h : (deriveModel nameSpace declarations previous options).result = .ok (model, merged))
    {message : String} (hmessage : message ∈ ["retiring entity", "retiring property",
      "reviving retired entity", "reviving retired property"]) :
    ((deriveModel nameSpace declarations previous options).events.filter
      (SchemaEvent.hasMessage message)).Perm (previous.entities.flatMap fun r =>
        (r.turns (r.merged options.source (declarations.map (·.outline)))).filter
          (SchemaEvent.hasMessage message)) := by
  rw [← filter_hasMessage_filter_isTurn hmessage, ← List.filter_flatMap]
  exact (filter_isTurn_deriveModel h).filter _

/-- Entities are told to be retired where they are dropped, in the order of the snapshot. -/
theorem filter_retiringEntity
    (h : (deriveModel nameSpace declarations previous options).result = .ok (model, merged)) :
    (deriveModel nameSpace declarations previous options).events.filter
        (SchemaEvent.hasMessage "retiring entity") =
      (previous.turnedEntities merged true).map fun r => .retiringEntity r.name r.id := by
  obtain ⟨-, told, hevents, htold⟩ := exists_told_of_deriveModel h
  -- a declaration leaves its record live, so it does not tell of such an entity
  have hnone : told.filter (SchemaEvent.hasMessage "retiring entity") = [] := by
    rw [← List.perm_nil]
    refine (htold.filter _).trans (.of_eq ?_)
    rw [List.filter_flatMap, List.flatMap_eq_nil_iff]
    intro r _
    rw [EntityRecord.told]
    split
    · rw [EntityRecord.filter_turns _ _ (a := true) (b := false) (c := false) (d := false)
        (fun _ _ => rfl) (fun _ _ => rfl) (fun _ _ => rfl) (fun _ _ => rfl)]
      simp [EntityRecord.declared]
    · rfl
  rw [← filter_hasMessage_filter_isTurn (by simp), hevents, List.filter_append, hnone,
    SchemaEvent.filter_map_eq fun r => rfl, turnedEntities_eq h]
  simp only [EntityRecord.retired_merged_eq]
  rfl

/-- Entities are told to be revived where a retired one is declared. -/
theorem filter_revivingEntity
    (h : (deriveModel nameSpace declarations previous options).result = .ok (model, merged)) :
    ((deriveModel nameSpace declarations previous options).events.filter
        (SchemaEvent.hasMessage "reviving retired entity")).Perm
      ((previous.turnedEntities merged false).map fun r => .revivingEntity r.name r.id) := by
  refine (filter_hasMessage_deriveModel h (by simp)).trans (.of_eq ?_)
  rw [turnedEntities_eq h, ← flatMap_ite_singleton]
  refine List.flatMap_congr fun r _ => ?_
  rw [EntityRecord.filter_turns _ _ (a := false) (b := false) (c := true) (d := false)
    (fun _ _ => rfl) (fun _ _ => rfl) (fun _ _ => rfl) (fun _ _ => rfl)]
  simp

/-- Properties are told to be retired where a declared entity has them no longer. -/
theorem filter_retiringProperty
    (h : (deriveModel nameSpace declarations previous options).result = .ok (model, merged)) :
    ((deriveModel nameSpace declarations previous options).events.filter
        (SchemaEvent.hasMessage "retiring property")).Perm
      ((previous.turnedProperties merged true).map fun p => .retiringProperty p.1 p.2) := by
  refine (filter_hasMessage_deriveModel h (by simp)).trans (.of_eq ?_)
  rw [turnedProperties_eq h, List.map_flatMap]
  refine List.flatMap_congr fun r _ => ?_
  rw [EntityRecord.filter_turns _ _ (a := false) (b := true) (c := false) (d := false)
    (fun _ _ => rfl) (fun _ _ => rfl) (fun _ _ => rfl) (fun _ _ => rfl), List.map_map]
  rfl

/-- Properties are told to be revived where an entity is declared with retired ones. -/
theorem filter_revivingProperty
    (h : (deriveModel nameSpace declarations previous options).result = .ok (model, merged)) :
    ((deriveModel nameSpace declarations previous options).events.filter
        (SchemaEvent.hasMessage "reviving retired property")).Perm
      ((previous.turnedProperties merged false).map fun p => .revivingProperty p.1 p.2) := by
  refine (filter_hasMessage_deriveModel h (by simp)).trans (.of_eq ?_)
  rw [turnedProperties_eq h, List.map_flatMap]
  refine List.flatMap_congr fun r _ => ?_
  rw [EntityRecord.filter_turns _ _ (a := false) (b := false) (c := false) (d := true)
    (fun _ _ => rfl) (fun _ _ => rfl) (fun _ _ => rfl) (fun _ _ => rfl), List.map_map]
  exact List.append_nil _

/-- A run without events of marks has changed none. -/
theorem marks_of_silent
    (h : (deriveModel nameSpace declarations previous options).result = .ok (model, merged))
    (hsilent : ∀ e ∈ (deriveModel nameSpace declarations previous options).events,
      e.isTurn = false) {r : EntityRecord} (hr : r ∈ previous.entities) :
    merged.mark? r.name = some r.retired ∧
      ∀ p ∈ r.properties, merged.propertyMark? r.name p.name = some p.retired := by
  have hvalid := (deriveModel_eq_ok h).1
  have hturns := filter_isTurn_deriveModel h
  rw [List.filter_eq_nil_iff.mpr fun e he => by simp [hsilent e he], List.nil_perm,
    List.flatMap_eq_nil_iff] at hturns
  -- no record has turns, so every mark that is found again is the old one
  obtain ⟨hentity, hproperties⟩ := EntityRecord.marks_of_turns_eq_nil (hturns r hr)
  obtain ⟨rfl, -⟩ := exists_told_of_deriveModel h
  rw [Snapshot.mark?, Snapshot.entity?_merge_of_recorded hvalid hr, Option.map_some, hentity]
  refine ⟨rfl, fun p hp => ?_⟩
  obtain ⟨q, hq⟩ := EntityRecord.exists_property?_merged
    (Snapshot.nodup_propertyNames_of_validate hvalid hr) options.source _ hp
  rw [Snapshot.propertyMark?, Snapshot.entity?_merge_of_recorded hvalid hr, Option.bind_some, hq,
    Option.map_some, hproperties p hp q hq]

/-- The log tells exactly what has changed. The retiring of an entity is told of each entity that
was live and is retired in the merged snapshot, in the order of the snapshot; the retiring of a
property, and the reviving of an entity and of a property, are told once of each that has turned so;
and no other event has one of these messages. Where none of them is told no recorded mark has
changed. -/
theorem deriveModel_tells
    (h : (deriveModel nameSpace declarations previous options).result = .ok (model, merged)) :
    let log := (deriveModel nameSpace declarations previous options).events
    log.filter (·.hasMessage "retiring entity") =
        (previous.turnedEntities merged true).map (fun r => .retiringEntity r.name r.id) ∧
      (log.filter (·.hasMessage "retiring property")).Perm
        ((previous.turnedProperties merged true).map fun p => .retiringProperty p.1 p.2) ∧
      (log.filter (·.hasMessage "reviving retired entity")).Perm
        ((previous.turnedEntities merged false).map fun r => .revivingEntity r.name r.id) ∧
      (log.filter (·.hasMessage "reviving retired property")).Perm
        ((previous.turnedProperties merged false).map fun p => .revivingProperty p.1 p.2) ∧
      (∀ e ∈ log,
        (e.hasMessage "retiring entity" = true ∨ e.hasMessage "retiring property" = true →
          e.record.level = .warn) ∧
        (e.hasMessage "reviving retired entity" = true ∨
            e.hasMessage "reviving retired property" = true → e.record.level = .info)) ∧
      ((∀ e ∈ log, e.record.message ∉ ["retiring entity", "retiring property",
          "reviving retired entity", "reviving retired property"]) →
        ∀ r ∈ previous.entities, merged.mark? r.name = some r.retired ∧
          ∀ p ∈ r.properties, merged.propertyMark? r.name p.name = some p.retired) := by
  intro log
  refine ⟨filter_retiringEntity h, filter_retiringProperty h, filter_revivingEntity h,
    filter_revivingProperty h, fun e _ => e.level_of_hasMessage, fun hsilent r hr => ?_⟩
  refine marks_of_silent h (fun e he => ?_) hr
  exact Bool.eq_false_iff.mpr (mt SchemaEvent.isTurn_iff.mp (hsilent e he))

end Derivation

/-- A retired entity with a retired and a live property, two live entities of the same unit, one of
another unit, and a retired one that is to stay so. -/
def turningSnapshot : Snapshot :=
  ⟨snapshotVersion, none,
    [⟨⟨7, 11⟩, "User", some "app", true, some ⟨1, 110001⟩,
        [⟨⟨0, 110000⟩, "id", true⟩, ⟨⟨1, 110001⟩, "email", false⟩]⟩,
      ⟨⟨2, 12⟩, "Note", some "app", false, none, []⟩,
      ⟨⟨9, 13⟩, "Page", some "app", false, none, []⟩,
      ⟨⟨3, 14⟩, "Log", some "other", false, none, []⟩,
      ⟨⟨4, 15⟩, "Tag", some "app", true, none, []⟩]⟩

/-- The retired entity without its live property, but with a new one whose name comes twice, and a
new entity. -/
def turningDeclarations : List Declaration :=
  [.ofParts "User" [("id", "i64", "id"), ("name", "String", ""),
      ("name", "String", "nameInDb:\"other\"")],
    .ofParts "Group" [("id", "i64", "id")]]

/-- The two live entities of the unit are told of in the order in which they are recorded; what is
new, what belongs to another unit and what was retired before is not told of. -/
theorem deriveModel_tells_turning :
    ∃ model merged, (deriveModel "app" turningDeclarations turningSnapshot
        ⟨.sequential, some "app"⟩).result = .ok (model, merged) ∧
      let log := (deriveModel "app" turningDeclarations turningSnapshot
        ⟨.sequential, some "app"⟩).events
      log.filter (·.hasMessage "retiring entity") =
          [.retiringEntity "Note" ⟨2, 12⟩, .retiringEntity "Page" ⟨9, 13⟩] ∧
        (log.filter (·.hasMessage "retiring property")).Perm [.retiringProperty "User" "email"] ∧
        (log.filter (·.hasMessage "reviving retired entity")).Perm
          [.revivingEntity "User" ⟨7, 11⟩] ∧
        (log.filter (·.hasMessage "reviving retired property")).Perm
          [.revivingProperty "User" "id"] := by
  obtain ⟨⟨model, merged⟩, h⟩ := exists_eq_ok (x := (deriveModel "app" turningDeclarations
    turningSnapshot ⟨.sequential, some "app"⟩).result) (by decide +kernel)
  obtain ⟨hretired, hproperties, hrevived, hrevivedProperties, -, -⟩ := deriveModel_tells h
  obtain ⟨rfl, -⟩ := exists_told_of_deriveModel h
  refine ⟨model, _, h, hretired.trans ?_, hproperties.trans (.of_eq ?_),
    hrevived.trans (.of_eq ?_), hrevivedProperties.trans (.of_eq ?_)⟩ <;> decide +kernel

end RecordSchema
