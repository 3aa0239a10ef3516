/-
What an assigner tells of marks that turn.

Marks are changed in four places: a record that is declared again is taken up, its properties are
taken up or retired, and the end of a run retires what it did not see. Each place has its own guard
and its own event. What comes of them together is said of a record before and after
(`EntityRecord.turns`): an event for every mark that is another afterwards, and for nothing else. A
renewal tells just this, a new entity has nothing to tell, and a run tells it of each record that it
declares. The end of a run tells of the rest, in the order of the snapshot.
-/
import RecordSchema.Proofs.Assigner.Independence

set_option autoImplicit false

namespace RecordSchema

/-! ## Events of marks -/

/-- Whether an event tells of a mark that turns. -/
def SchemaEvent.isTurn : SchemaEvent → Bool
  | .retiringEntity _ _ | .retiringProperty _ _ => true
  | .revivingEntity _ _ | .revivingProperty _ _ => true
  | _ => false

/-- Events of one kind that all count are kept as they are. -/
theorem SchemaEvent.filter_map_eq {α : Type} {counts : SchemaEvent → Bool} {event : α → SchemaEvent}
    (h : ∀ x, counts (event x) = true) (xs : List α) :
    (xs.map event).filter counts = xs.map event := by
  rw [List.filter_eq_self, List.forall_mem_map]
  exact fun x _ => h x

namespace EntityRecord

/-- The properties of a record whose mark is another in a later record, and there is `retired`. -/
def turned (r after : EntityRecord) (retired : Bool) : List PropertyRecord :=
  r.properties.filter fun p =>
    p.retired != retired && (after.property? p.name).map (·.retired) == some retired

/-- All that there is to tell of the marks of a record and of a later one. -/
def turns (r after : EntityRecord) : List SchemaEvent :=
  (if after.retired = r.retired then []
    else if after.retired then [.retiringEntity r.name r.id] else [.revivingEntity r.name r.id]) ++
  (r.turned after false).map (fun p => .revivingProperty r.name p.name) ++
  (r.turned after true).map fun p => .retiringProperty r.name p.name

/-- There is nothing to tell of a record whose properties are as they were, but of the record
itself. -/
theorem turned_of_properties_eq {r after : EntityRecord} (hr : r.propertyNames.Nodup)
    (h : after.properties = r.properties) (retired : Bool) : r.turned after retired = [] := by
  rw [turned, List.filter_eq_nil_iff]
  intro p hp
  have hfound : after.property? p.name = some p := by
    rw [property?, h]
    exact (find?_key_eq_some_iff hr).mpr ⟨hp, rfl⟩
  rw [hfound, Option.map_some]
  cases p.retired <;> cases retired <;> simp

/-- A declaration marks a property live if it has its name, and retired if it has not. -/
theorem property?_declared {r : EntityRecord} (hr : r.propertyNames.Nodup) (source : Option String)
    (names : List String) {p : PropertyRecord} (hp : p ∈ r.properties) :
    (r.declared source names).property? p.name =
      some { p with retired := !names.contains p.name } := by
  have hfound : r.properties.find? (·.name = p.name) = some p :=
    (find?_key_eq_some_iff hr).mpr ⟨hp, rfl⟩
  rw [property?, declared, List.find?_append, List.find?_map]
  simp only [Function.comp_def]
  rw [hfound]
  rfl

theorem turned_declared {r : EntityRecord} (hr : r.propertyNames.Nodup) (source : Option String)
    (names : List String) (retired : Bool) :
    r.turned (r.declared source names) retired =
      r.properties.filter fun p => p.retired != retired && names.contains p.name != retired := by
  refine List.filter_congr fun p hp => ?_
  rw [property?_declared hr source names hp]
  cases names.contains p.name <;> cases retired <;> rfl

end EntityRecord

/-! ## Renewals -/

namespace Renewal

/-- The properties that are revived under some names, as they are told of. -/
def revived (r : EntityRecord) (names : List String) : List SchemaEvent :=
  (r.properties.filter fun p => p.retired && names.contains p.name).map fun p =>
    .revivingProperty r.name p.name

theorem events_properties_cons {r : Renewal} {name : String} {id : IdUid}
    (h : (r.property name).result = .ok id) (names : List String) :
    (r.properties (name :: names)).events =
      (r.property name).events ++ ((r.property name).state.properties names).events := by
  rw [properties]
  dsimp only
  rw [h]

/-- Adding a property turns no mark. -/
theorem filter_isTurn_mint (r : Renewal) (name : String) :
    (r.mint name).events.filter SchemaEvent.isTurn = [] := by
  unfold mint
  cases propertyUid? r.record.id.uid r.nextId with
  | none => rfl
  | some uid =>
      dsimp only
      cases r.ledger.mint uid (.property r.record.name name) <;> rfl

/-- Taking a property up again turns its mark if it was retired. -/
theorem filter_isTurn_reuse (r : Renewal) (i : Nat) (p : PropertyRecord) :
    (r.reuse i p).events.filter SchemaEvent.isTurn =
      if p.retired then [.revivingProperty r.record.name p.name] else [] := by
  unfold reuse
  cases p.retired <;> rfl

/-- A property that is taken up is revived before the others are, if it has to be. -/
theorem revived_cons_of_recorded {r : Renewal} {name : String} {p : PropertyRecord} {i : Nat}
    (hr : r.record.propertyNames.Nodup) (hp : r.record.property? name = some p)
    (hi : r.record.properties.findIdx? (·.name = name) = some i) (names : List String) :
    (revived r.record (name :: names)).Perm
      ((if p.retired then [.revivingProperty r.record.name p.name] else []) ++
        revived (r.reuse i p).state.record names) := by
  -- the retired properties that are declared, first the one of this name and then the others
  have hsplit := List.filter_append_perm (fun q : PropertyRecord => q.name = name)
    (r.record.properties.filter fun q => q.retired && (name :: names).contains q.name)
  have hone : (r.record.properties.filter fun q =>
      q.retired && (name :: names).contains q.name).filter (fun q => q.name = name) =
        if p.retired then [p] else [] := by
    have hfound : (r.record.properties.filter fun q => q.name = name) = [p] := by
      rw [filter_key_eq hr name]
      exact congrArg Option.toList hp
    have hname : p.name = name := by simpa using List.find?_some hp
    rw [List.filter_filter, List.filter_congr (q := fun q => q.retired && decide (q.name = name)),
      ← List.filter_filter, hfound]
    · cases hretired : p.retired <;> simp [hretired]
    · intro q _
      by_cases hq : q.name = name <;> simp [hq]
  -- the property itself is live when the others are gone through, so it is not told of again
  have hrest : revived (r.reuse i p).state.record names =
      ((r.record.properties.filter fun q => q.retired && (name :: names).contains q.name).filter
        fun q => !decide (q.name = name)).map fun q => .revivingProperty r.record.name q.name := by
    rw [revived, record_reuse hr hp hi, List.filter_map, List.map_map, List.filter_filter]
    have hsame : ∀ q ∈ r.record.properties,
        ((fun q : PropertyRecord => q.retired && names.contains q.name) ∘ fun q =>
          if q.name = name then { q with retired := false } else q) q =
          (!decide (q.name = name) && (q.retired && (name :: names).contains q.name)) := by
      intro q _
      by_cases hq : q.name = name <;> simp [hq]
    rw [List.filter_congr hsame]
    refine List.map_congr_left fun q _ => ?_
    simp only [Function.comp_apply]
    split <;> rfl
  rw [hrest]
  refine (hsplit.symm.map _).trans ?_
  rw [List.map_append, hone]
  cases p.retired <;> exact .refl _

/-- A name that is not recorded revives nothing. -/
theorem revived_cons_of_new {r : Renewal} {name : String} (hname : name ∉ r.record.propertyNames)
    (id : IdUid) (names : List String) :
    revived r.record (name :: names) = revived (r.withNew name id).record names := by
  have hold : ∀ q ∈ r.record.properties,
      (q.retired && (name :: names).contains q.name) = (q.retired && names.contains q.name) := by
    intro q hq
    have hne : q.name ≠ name := fun he => hname (he ▸ List.mem_map_of_mem hq)
    simp [hne]
  rw [revived, revived, List.filter_congr hold]
  simp [withNew]

/-- Going through declared names tells of the retired properties that have one of them. -/
theorem filter_isTurn_properties {r : Renewal} {names : List String} {ids : List IdUid}
    (hr : r.record.propertyNames.Nodup) (h : (r.properties names).result = .ok ids) :
    ((r.properties names).events.filter SchemaEvent.isTurn).Perm (revived r.record names) := by
  -- what is asked of the record, that its names are distinct, is kept by both steps
  induction names generalizing r ids with
  | nil => simp [properties, revived]
  | cons name names ih =>
      obtain ⟨id, rest, hone, hmore, rfl, -⟩ := properties_cons_of_ok h
      rw [events_properties_cons hone, List.filter_append]
      cases hp : r.record.property? name with
      | some p =>
          obtain ⟨i, hi, heq⟩ := property_of_find? hp
          rw [heq] at hmore ⊢
          rw [filter_isTurn_reuse]
          have hnames := propertyNames_reuse hr hp hi
          refine List.Perm.trans ?_ (revived_cons_of_recorded hr hp hi names).symm
          exact (ih (hnames ▸ hr) hmore).append_left _
      | none =>
          have hname := EntityRecord.property?_eq_none_iff.mp hp
          rw [property_of_notMem hname] at hone hmore ⊢
          obtain ⟨-, -, -, hafter⟩ := mint_of_ok hone
          rw [filter_isTurn_mint, List.nil_append, revived_cons_of_new hname id]
          rw [hafter] at hmore ⊢
          refine ih ?_ hmore
          rw [propertyNames_withNew, nodup_append_iff_newTo]
          exact ⟨hr, newTo_singleton_iff.mpr hname⟩

/-- What is retired in the end are the live properties that are not declared. -/
theorem events_retireDropped {r : Renewal} (record : EntityRecord) {names : List String}
    {new : List PropertyRecord} (h : r.record = record.listed names new)
    (hnew : ∀ p ∈ new, p.name ∈ names) :
    (r.retireDropped names).1 =
      (record.properties.filter fun p => !p.retired && !names.contains p.name).map fun p =>
        .retiringProperty record.name p.name := by
  -- what was added is declared, and what was there is dropped if it was live and is not
  have hadded : new.filter (isDropped names) = [] := by
    rw [List.filter_eq_nil_iff]
    intro p hp
    have hin : names.contains p.name = true := by simpa using hnew p hp
    rw [isDropped, hin, Bool.not_true, Bool.and_false]
    exact Bool.false_ne_true
  have hold : ∀ p ∈ record.properties,
      (isDropped names ∘ fun p => { p with retired := p.retired && !names.contains p.name }) p =
        (!p.retired && !names.contains p.name) := by
    intro p _
    simp only [Function.comp_apply, isDropped]
    cases p.retired <;> cases names.contains p.name <;> rfl
  rw [retireDropped, h, EntityRecord.listed]
  dsimp only
  rw [List.filter_append, hadded, List.append_nil, List.filter_map, List.filter_congr hold,
    List.map_map]
  rfl

theorem events_run {ledger : Ledger} {source : Option String} {record : EntityRecord}
    {names : List String} {ids : List IdUid}
    (h : ((start ledger source record).properties names).result = .ok ids) :
    (run ledger source record names).events =
      (if record.retired then [.revivingEntity record.name record.id] else []) ++
        ((start ledger source record).properties names).events ++
        (((start ledger source record).properties names).state.retireDropped names).1 ++
        [.reusingEntityId record.name record.id] := by
  unfold run
  dsimp only
  rw [h]

/-- A renewal tells of the marks that are other ones in the declared record. -/
theorem filter_isTurn_run {ledger : Ledger} {source : Option String} {record : EntityRecord}
    {names : List String} {ids : List IdUid} (hr : record.propertyNames.Nodup)
    (h : (run ledger source record names).result = .ok ids) :
    ((run ledger source record names).events.filter SchemaEvent.isTurn).Perm
      (record.turns (record.declared source names)) := by
  obtain ⟨hlist, -⟩ := run_eq_ok h
  have hlisted := properties_of_ok (r := start ledger source record) hr hlist
  have hproperties := filter_isTurn_properties (r := start ledger source record) hr hlist
  have hretired : (((start ledger source record).properties names).state.retireDropped names).1 =
      (record.properties.filter fun p => !p.retired && !names.contains p.name).map fun p =>
        .retiringProperty record.name p.name := by
    refine events_retireDropped { record with retired := false, source } hlisted.record
      fun p hp => ?_
    have hmem := List.mem_map_of_mem (f := PropertyRecord.name) hp
    rw [newRecords, PropertyRecord.map_name_numbered] at hmem
    exact (EntityRecord.mem_newNames_iff.mp hmem).1
  have hentity : (if record.retired then [SchemaEvent.revivingEntity record.name record.id]
        else []).filter SchemaEvent.isTurn =
      if false = record.retired then [] else [.revivingEntity record.name record.id] := by
    cases record.retired <;> rfl
  have hlast : [SchemaEvent.reusingEntityId record.name record.id].filter SchemaEvent.isTurn =
      [] := rfl
  rw [events_run hlist, hretired, List.filter_append, List.filter_append, List.filter_append,
    hentity, SchemaEvent.filter_map_eq fun p => rfl, hlast, List.append_nil, EntityRecord.turns,
    EntityRecord.turned_declared hr, EntityRecord.turned_declared hr]
  simp only [Bool.bne_false, Bool.bne_true]
  exact (hproperties.append_left _).append_right _

end Renewal

/-! ## Declarations of a run -/

/-- What there is to tell of a record once the outlines of a run have been declared: its turns where
one of them has its name, and nothing else. -/
def EntityRecord.told (r : EntityRecord) (source : Option String) (outlines : List Outline) :
    List SchemaEvent :=
  match outlines.find? (·.name = r.name) with
  | some outline => r.turns (r.declared source outline.properties)
  | none => []

theorem EntityRecord.told_of_notMem {r : EntityRecord} {outlines : List Outline}
    (h : r.name ∉ outlines.map (·.name)) (source : Option String) :
    r.told source outlines = [] := by
  rw [told, (find?_key_eq_none_iff (·.name) outlines).mpr h]

theorem EntityRecord.told_cons_of_eq {r : EntityRecord} {outline : Outline}
    (h : outline.name = r.name) (source : Option String) (outlines : List Outline) :
    r.told source (outline :: outlines) = r.turns (r.declared source outline.properties) := by
  rw [told, List.find?_cons_of_pos (by simpa using h)]

theorem EntityRecord.told_cons_of_ne {r : EntityRecord} {outline : Outline}
    (h : outline.name ≠ r.name) (source : Option String) (outlines : List Outline) :
    r.told source (outline :: outlines) = r.told source outlines := by
  rw [told, told, List.find?_cons_of_neg (by simpa using h)]

/-- Of an outline and others with other names a record is told of by the one or by the others. -/
theorem EntityRecord.told_cons {outline : Outline} {outlines : List Outline}
    (hnew : outline.name ∉ outlines.map (·.name)) (r : EntityRecord) (source : Option String) :
    r.told source (outline :: outlines) = r.told source [outline] ++ r.told source outlines := by
  by_cases h : outline.name = r.name
  · rw [told_cons_of_eq h, told_cons_of_eq h, told_of_notMem (h ▸ hnew), List.append_nil]
  · rw [told_cons_of_ne h, told_cons_of_ne h]
    rfl

/-- After an outline was declared the others have the same to tell of as before. -/
theorem Snapshot.flatMap_told_extend {outline : Outline} {outlines : List Outline}
    (hnew : outline.name ∉ outlines.map (·.name)) (s : Snapshot) (nameSpace : String)
    (options : DeriveOptions) (source : Option String) :
    (s.extend nameSpace options [outline]).entities.flatMap (·.told source outlines) =
      s.entities.flatMap (·.told source outlines) := by
  -- a record that has come in has the name of the outline, so none of the others declares it
  have hfresh : (s.newRecords nameSpace options [outline]).flatMap (·.told source outlines) =
      [] := by
    rw [List.flatMap_eq_nil_iff]
    intro r hr
    have hname := List.mem_map_of_mem (f := EntityRecord.name) hr
    rw [Snapshot.map_name_newRecords] at hname
    obtain ⟨o, ho, hname⟩ := List.mem_map.mp hname
    rw [Snapshot.newOutlines, List.mem_filter, List.mem_singleton] at ho
    rw [ho.1] at hname
    exact EntityRecord.told_of_notMem (hname ▸ hnew) source
  rw [extend, List.flatMap_append, hfresh, List.append_nil, List.flatMap_map]
  refine List.flatMap_congr fun r _ => ?_
  by_cases h : r.name = outline.name
  · rw [EntityRecord.told_of_notMem (by rwa [EntityRecord.redeclared_name, h]),
      EntityRecord.told_of_notMem (h ▸ hnew)]
  · rw [EntityRecord.redeclared_of_notMem]
    rwa [List.map_singleton, List.mem_singleton]

namespace Assigner

/-! ## One shape -/

theorem events_assign {a : Assigner} {shape : EntityShape} {entity : Entity}
    (h : (a.assign shape).result = .ok entity) :
    (a.assign shape).events = (({ a with seen := shape.name :: a.seen } : Assigner).identify
      shape.name (shape.properties.map (·.name))).events := by
  obtain ⟨hne, hseen, id, ids, hidentify, -, -⟩ := assign_eq_ok h
  have hempty : ¬shape.properties.isEmpty = true := by simpa using hne
  have hnew : ¬a.seen.contains shape.name = true := by simpa using hseen
  unfold assign
  rw [if_neg hempty, if_neg hnew]
  dsimp only
  rw [hidentify]

/-- A new entity has no marks that could turn. -/
theorem filter_isTurn_mint (a : Assigner) (name : String) (properties : List String) :
    (a.mint name properties).events.filter SchemaEvent.isTurn = [] := by
  unfold mint
  dsimp only
  cases a.freshEntityId (Hash.entityHash a.nameSpace name) with
  | error e => rfl
  | ok id =>
      dsimp only
      cases a.holder? id with
      | some other => rfl
      | none =>
          dsimp only
          cases a.ledger.mint (entityUid (Hash.entityHash a.nameSpace name)) (.entity name) with
          | error e => rfl
          | ok ledger =>
              dsimp only
              rcases ledger.mintProperties name (entityUid (Hash.entityHash a.nameSpace name)) 0
                properties with ⟨after, _ | records⟩ <;> rfl

/-- A shape that is assigned tells of the record of its name, if there is one. -/
theorem filter_isTurn_assign {a : Assigner} (ha : a.Coherent) {shape : EntityShape}
    {entity : Entity}
    (hrecord : ∀ r ∈ a.snapshot.entities, r.name = shape.name → r.propertyNames.Nodup)
    (h : (a.assign shape).result = .ok entity) :
    ((a.assign shape).events.filter SchemaEvent.isTurn).Perm
      (a.snapshot.entities.flatMap (·.told a.source [shape.outline])) := by
  obtain ⟨-, -, id, ids, hidentify, -, -⟩ := assign_eq_ok h
  rw [events_assign h]
  have hother : ∀ es : List EntityRecord, (∀ e ∈ es, e.name ≠ shape.name) →
      es.flatMap (·.told a.source [shape.outline]) = [] := by
    intro es hes
    rw [List.flatMap_eq_nil_iff]
    intro e he
    rw [EntityRecord.told_cons_of_ne (hes e he).symm]
    rfl
  by_cases hmem : shape.name ∈ a.snapshot.entityNames
  · obtain ⟨i, r, hr, -, heq⟩ := identify_of_mem (a := { a with seen := shape.name :: a.seen }) hmem
      (shape.properties.map (·.name))
    rw [heq] at hidentify ⊢
    obtain ⟨hrmem, hname⟩ := (find?_key_eq_some_iff ha.names).mp hr
    have hrun := Renewal.filter_isTurn_run (hrecord r hrmem hname) (reuse_of_ok hidentify).2
    have hdeclared : shape.outline.name = r.name := hname.symm
    -- the record stands between others of other names, of which there is nothing to tell
    obtain ⟨before, after, hsplit, hbefore, hafter⟩ := exists_split_of_nodup_map ha.names hrmem
    rw [hsplit, List.flatMap_append, List.flatMap_cons, hother before (hname ▸ hbefore),
      hother after (hname ▸ hafter), List.append_nil, List.nil_append,
      EntityRecord.told_cons_of_eq hdeclared]
    exact hrun
  · rw [identify_of_notMem (a := { a with seen := shape.name :: a.seen }) hmem,
      filter_isTurn_mint, hother]
    intro e he hname
    exact hmem (hname ▸ List.mem_map_of_mem he)

/-! ## All shapes -/

/-- What a run has done to the snapshot that was not refused, and what it has told of it. -/
structure Tells (a : Assigner) (shapes : List EntityShape)
    (run : Step Assigner SchemaError (List Entity)) : Prop where
  snapshot : run.state.snapshot =
    a.snapshot.extend a.nameSpace a.options (shapes.map (·.outline))
  seen : run.state.seen = (shapes.map (·.name)).reverse ++ a.seen
  source : run.state.source = a.source
  turns : (run.events.filter SchemaEvent.isTurn).Perm
    (a.snapshot.entities.flatMap (·.told a.source (shapes.map (·.outline))))

theorem events_assignAll_cons {a : Assigner} {shape : EntityShape} {entity : Entity}
    (h : (a.assign shape).result = .ok entity) (shapes : List EntityShape) :
    (a.assignAll (shape :: shapes)).events =
      (a.assign shape).events ++ ((a.assign shape).state.assignAll shapes).events := by
  rw [assignAll]
  dsimp only
  rw [h]

/-- A run that comes out tells of each record that it declares, whatever the strategy and whether or
not properties have different names. -/
theorem tells_of_assignAll {a : Assigner} (ha : a.Coherent) {shapes : List EntityShape}
    {entities : List Entity}
    (hrecord : ∀ shape ∈ shapes, ∀ r ∈ a.snapshot.entities, r.name = shape.name →
      r.propertyNames.Nodup)
    (h : (a.assignAll shapes).result = .ok entities) : a.Tells shapes (a.assignAll shapes) := by
  induction shapes generalizing a entities with
  | nil =>
      refine ⟨(Snapshot.extend_nil _ _ _).symm, rfl, rfl, ?_⟩
      have hnothing : a.snapshot.entities.flatMap (·.told a.source []) = [] :=
        List.flatMap_eq_nil_iff.mpr fun r _ => rfl
      rw [List.map_nil, hnothing]
      exact .refl _
  | cons shape shapes ih =>
      have hne := ne_of_newTo (newTo_of_assignAll h)
      obtain ⟨hrecord₁, hrecords⟩ := List.forall_mem_cons.mp hrecord
      obtain ⟨entity, rest, hone, hmore, rfl, hstate⟩ := assignAll_cons_of_ok h
      have hfollows := follows_of_assign ha hrecord₁ hone
      have htells := ih hfollows.coherent (fun s hs =>
        hfollows.nodup_propertyNames ha (hne s hs) (hrecords s hs)) hmore
      refine ⟨?_, ?_, ?_, ?_⟩
      · rw [hstate, htells.snapshot, hfollows.extend_eq hne]
      · rw [hstate, htells.seen, hfollows.seen, List.map_cons, List.reverse_cons,
          List.append_assoc]
        rfl
      · rw [hstate, htells.source, hfollows.source]
      · have hnew : shape.outline.name ∉ (shapes.map (·.outline)).map (·.name) := by
          rw [List.map_map]
          intro hmem
          obtain ⟨s, hs, hname⟩ := List.mem_map.mp hmem
          exact hne s hs hname
        -- the others are told of as they would have been without the first shape
        have hrest := htells.turns
        rw [hfollows.source, hfollows.snapshot, Snapshot.flatMap_told_extend hnew] at hrest
        rw [events_assignAll_cons hone, List.filter_append]
        -- first all records against this shape and then all against the others, or each record
        -- against both in turn
        refine ((filter_isTurn_assign ha hrecord₁ hone).append hrest).trans ?_
        refine (flatMap_perm_of_forall₂ (R := Eq) (List.forall₂_same.mpr fun _ _ => rfl) ?_).symm
        rintro r _ rfl
        exact EntityRecord.told_cons hnew r a.source

end Assigner

/-! ## The end of a run -/

/-- Whether a record is live and belongs to a unit, and none of some outlines declares it. -/
def EntityRecord.isDropped (r : EntityRecord) (source : Option String) (outlines : List Outline) :
    Bool :=
  !r.retired && r.source == source && !(outlines.map (·.name)).contains r.name

/-- The end of a run tells of the records that are dropped, in the order of the snapshot. -/
theorem Assigner.events_finish {a : Assigner} {s : Snapshot} {nameSpace : String}
    {options : DeriveOptions} {outlines : List Outline}
    (hsnapshot : a.snapshot = s.extend nameSpace options outlines)
    (hsource : a.source = options.source)
    (hseen : ∀ name, name ∈ a.seen ↔ name ∈ outlines.map (·.name)) :
    a.finish.1 = (s.entities.filter (·.isDropped options.source outlines)).map fun r =>
      .retiringEntity r.name r.id := by
  -- a new record was seen
  have hnew : (s.newRecords nameSpace options outlines).filter a.isDropped = [] := by
    rw [List.filter_eq_nil_iff]
    intro e he
    have hname := List.mem_map_of_mem (f := EntityRecord.name) he
    rw [Snapshot.map_name_newRecords] at hname
    have hdeclared := (List.filter_sublist.map _).subset hname
    rw [isDropped_of_seen ((hseen e.name).mpr hdeclared)]
    exact Bool.false_ne_true
  -- a record that is not declared is the old one, and one that is declared was seen
  have hold : ∀ r ∈ s.entities,
      (a.isDropped ∘ fun r => r.redeclared options.source outlines) r =
        r.isDropped options.source outlines := by
    intro r _
    rw [Function.comp_apply, EntityRecord.isDropped]
    by_cases hr : r.name ∈ outlines.map (·.name)
    · rw [isDropped_of_seen ((hseen _).mpr (by rwa [EntityRecord.redeclared_name])),
        List.contains_iff_mem.mpr hr, Bool.not_true, Bool.and_false]
    · have hout : a.seen.contains r.name = false := by simpa using mt (hseen r.name).mp hr
      have hnone : (outlines.map (·.name)).contains r.name = false := by simpa using hr
      rw [EntityRecord.redeclared_of_notMem hr, isDropped, hout, hsource, hnone]
  rw [finish, hsnapshot, Snapshot.extend]
  dsimp only
  rw [List.filter_append, hnew, List.append_nil, List.filter_map, List.filter_congr hold,
    List.map_map]
  refine List.map_congr_left fun r _ => ?_
  rw [Function.comp_apply, EntityRecord.redeclared_name, EntityRecord.redeclared_id]

end RecordSchema
