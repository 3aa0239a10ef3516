/-
The order of discovery.

Collecting goes down into modules, adds to what it has, and ends at the first invalid attribute.
What comes of it is told here by the places of the records alone. It comes out exactly if every
record at any place is valid, skipped ones included, and then it has the declarations of the others
in the order of the text. Else it ends with what the first invalid record is refused for. A module
is nothing to it but its items (`Item.collectAll_exact`).

Two steps lead there. Collecting a tree is collecting the list of its records, since outcomes can be
chained in any grouping (`Item.collect_eq`); and what comes of a list is put together from what
comes of its records one by one (`Record.result_collectEach`).
-/
import RecordSchema.Proofs.Result
import RecordSchema.Proofs.Source.Place
import RecordSchema.Source.Discovery

set_option autoImplicit false

namespace RecordSchema.Source

/-! ## What a record says -/

/-- The attributes of a record and those of all its fields are valid. -/
def Record.Valid (r : Record) : Prop :=
  (∃ skipped, Attribute.skips r.attributes = .ok skipped) ∧
    ∀ f ∈ r.fields, ∃ tag, Attribute.tag f.attributes = .ok tag

/-- The record is marked as one to be skipped. -/
def Record.isSkipped (r : Record) : Bool :=
  match Attribute.skips r.attributes with
  | .ok skipped => skipped
  | .error _ => false

/-- A declaration has the name of a record and its fields in their order, each with its position,
its type and its tag. -/
structure Record.Declares (r : Record) (d : Declaration) : Prop where
  name : d.name = r.name
  length : d.fields.length = r.fields.length
  field : ∀ (i : Nat) (f : RecordField), r.fields[i]? = some f →
    ∃ tag, Attribute.tag f.attributes = .ok tag ∧ d.fields[i]? = some ⟨i, f.name, f.typeName, tag⟩

/-- What a record is refused for: its own attributes, or those of the first field that has invalid
ones. -/
inductive Record.Fault (r : Record) : AttributeError → Prop where
  | own {e : AttributeError} (h : Attribute.skips r.attributes = .error e) : Fault r e
  | field {skipped : Bool} {front back : List RecordField} {f : RecordField} {e : AttributeError}
      (hown : Attribute.skips r.attributes = .ok skipped) (hfields : r.fields = front ++ f :: back)
      (hfront : ∀ g ∈ front, ∃ tag, Attribute.tag g.attributes = .ok tag)
      (h : Attribute.tag f.attributes = .error e) : Fault r e

/-! ## One record -/

/-- Tags are those of the fields one by one. -/
theorem RecordField.tags_eq_mapM (fields : List RecordField) :
    tags fields = fields.mapM fun f => Attribute.tag f.attributes := by
  induction fields with
  | nil => rfl
  | cons f rest ih => rw [tags, List.mapM_cons, ih]

namespace Record

variable {r : Record}

/-- Attributes are looked at before a record is skipped. -/
theorem declaration?_eq_ok_iff {o : Option Declaration} : r.declaration? = .ok o ↔
    ∃ skipped texts, Attribute.skips r.attributes = .ok skipped ∧
      RecordField.tags r.fields = .ok texts ∧
      o = if skipped then none else some (.ofParts r.name
        ((r.fields.zip texts).map fun (field, tag) => (field.name, field.typeName, tag))) := by
  rw [declaration?, bind_eq_ok_iff]
  constructor
  · rintro ⟨skipped, hskipped, h⟩
    obtain ⟨texts, htexts, h⟩ := bind_eq_ok_iff.mp h
    refine ⟨skipped, texts, hskipped, htexts, ?_⟩
    cases skipped <;> exact (Except.ok.inj h).symm
  · rintro ⟨skipped, texts, hskipped, htexts, rfl⟩
    refine ⟨skipped, hskipped, bind_eq_ok_iff.mpr ⟨texts, htexts, ?_⟩⟩
    cases skipped <;> rfl

theorem valid_iff : r.Valid ↔ ∃ o, r.declaration? = .ok o := by
  rw [Valid, ← exists_mapM_iff, ← RecordField.tags_eq_mapM]
  constructor
  · rintro ⟨⟨skipped, hskipped⟩, texts, htexts⟩
    exact ⟨_, declaration?_eq_ok_iff.mpr ⟨skipped, texts, hskipped, htexts, rfl⟩⟩
  · rintro ⟨o, h⟩
    obtain ⟨skipped, texts, hskipped, htexts, -⟩ := declaration?_eq_ok_iff.mp h
    exact ⟨⟨skipped, hskipped⟩, texts, htexts⟩

theorem fault_iff {e : AttributeError} : r.Fault e ↔ r.declaration? = .error e := by
  rw [declaration?, bind_eq_error_iff, RecordField.tags_eq_mapM]
  constructor
  · intro h
    cases h with
    | own h => exact .inl h
    | field hown hfields hfront h =>
        refine .inr ⟨_, hown, bind_eq_error_iff.mpr (.inl ?_)⟩
        exact mapM_eq_error_iff.mpr ⟨_, _, _, hfields, hfront, h⟩
  · rintro (h | ⟨skipped, hown, h⟩)
    · exact .own h
    · rcases bind_eq_error_iff.mp h with h | ⟨texts, -, h⟩
      · obtain ⟨front, f, back, hfields, hfront, h⟩ := mapM_eq_error_iff.mp h
        exact .field hown hfields hfront h
      · cases skipped <;> cases h

/-- The declaration made of a record and the tags of its fields. -/
theorem declares_ofParts {texts : List String} (h : RecordField.tags r.fields = .ok texts) :
    r.Declares (.ofParts r.name
      ((r.fields.zip texts).map fun (field, tag) => (field.name, field.typeName, tag))) := by
  rw [RecordField.tags_eq_mapM] at h
  have htexts := mapM_eq_ok_iff.mp h
  have hlength := htexts.length_eq
  refine ⟨rfl, ?_, fun i f hf => ?_⟩
  · simp [Declaration.ofParts, hlength]
  · obtain ⟨hi, rfl⟩ := List.getElem?_eq_some_iff.mp hf
    have hi' : i < texts.length := by omega
    have hpair : (r.fields.zip texts)[i]? = some (r.fields[i], texts[i]) := by
      rw [List.getElem?_zip_eq_some]
      exact ⟨hf, List.getElem?_eq_getElem hi'⟩
    refine ⟨texts[i], htexts.get hi hi', ?_⟩
    simp [Declaration.ofParts, hpair]

theorem isSkipped_of_none (h : r.declaration? = .ok none) : r.isSkipped = true := by
  obtain ⟨skipped, texts, hskipped, -, heq⟩ := declaration?_eq_ok_iff.mp h
  cases skipped with
  | true => rw [isSkipped, hskipped]
  | false => cases heq

theorem declares_of_some {d : Declaration} (h : r.declaration? = .ok (some d)) :
    r.isSkipped = false ∧ r.Declares d := by
  obtain ⟨skipped, texts, hskipped, htexts, heq⟩ := declaration?_eq_ok_iff.mp h
  cases skipped with
  | true => cases heq
  | false =>
      obtain rfl := Option.some.inj heq
      exact ⟨by rw [isSkipped, hskipped], declares_ofParts htexts⟩

/-- What a record adds to a result: its declaration, nothing, or its refusal. -/
theorem result_collect (r : Record) : r.collect.result = r.declaration?.map Option.toList := by
  unfold collect
  cases r.declaration? with
  | error e => rfl
  | ok o => cases o <;> rfl

end Record

/-! ## Chains of outcomes -/

/-- The outcome of nothing. -/
def Collected.nothing : Collected := ⟨[], .ok []⟩

/-- One outcome and then another, unless the first is a refusal. -/
def Collected.andThen (first more : Collected) : Collected :=
  match first.result with
  | .error e => ⟨first.events, .error e⟩
  | .ok declarations => ⟨first.events ++ more.events, more.result.map (declarations ++ ·)⟩

namespace Collected

theorem result_andThen (first more : Collected) : (first.andThen more).result =
    first.result >>= fun declarations => more.result.map (declarations ++ ·) := by
  unfold andThen
  cases first.result <;> rfl

theorem nothing_andThen (more : Collected) : nothing.andThen more = more := by
  obtain ⟨events, result⟩ := more
  cases result <;> rfl

theorem andThen_nothing (first : Collected) : first.andThen nothing = first := by
  obtain ⟨events, result⟩ := first
  cases result <;> simp [andThen, nothing, Except.map]

theorem andThen_assoc (first more last : Collected) :
    (first.andThen more).andThen last = first.andThen (more.andThen last) := by
  obtain ⟨firstEvents, firstResult⟩ := first
  obtain ⟨moreEvents, moreResult⟩ := more
  obtain ⟨lastEvents, lastResult⟩ := last
  cases firstResult <;> cases moreResult <;> cases lastResult <;> simp [andThen, Except.map]

end Collected

theorem Item.collectAll_cons (item : Item) (rest : List Item) :
    collectAll (item :: rest) = item.collect.andThen (collectAll rest) := by
  rw [collectAll]
  rfl

theorem Item.collectAll_append (front back : List Item) :
    collectAll (front ++ back) = (collectAll front).andThen (collectAll back) := by
  induction front with
  | nil =>
      rw [List.nil_append, collectAll]
      exact (Collected.nothing_andThen _).symm
  | cons item rest ih =>
      rw [List.cons_append, collectAll_cons, collectAll_cons, ih, Collected.andThen_assoc]

/-- Items are collected alike in a module of their own, whatever stands around it. -/
theorem Item.Wraps.collectAll_eq {items others : List Item} (h : Wraps items others) :
    collectAll others = collectAll items := by
  induction h with
  | here front run back =>
      rw [collectAll_append, collectAll_append, collectAll_append, collectAll_cons, collect]
  | inside front back _ ih =>
      rw [collectAll_append, collectAll_append, collectAll_cons, collectAll_cons, collect, collect,
        ih]

/-! ## Lists of records -/

/-- Records one after the other. -/
def Record.collectEach (records : List Record) : Collected :=
  records.foldr (fun r more => r.collect.andThen more) .nothing

theorem Record.collectEach_append (front back : List Record) :
    collectEach (front ++ back) = (collectEach front).andThen (collectEach back) := by
  induction front with
  | nil => exact (Collected.nothing_andThen _).symm
  | cons r rest ih =>
      change r.collect.andThen (collectEach (rest ++ back)) = _
      rw [ih, ← Collected.andThen_assoc]
      rfl

mutual

/-- Collecting an item is collecting its records in the order of the text. -/
theorem Item.collect_eq : ∀ item : Item,
    item.collect = Record.collectEach (item.placed.map (·.2))
  | .record r => by
      rw [Item.collect, Item.placed]
      exact (Collected.andThen_nothing r.collect).symm
  | .module items => by
      rw [Item.collect, Item.placed, Item.collectAll_eq 0 items]
  | .other => by
      rw [Item.collect, Item.placed]
      rfl

theorem Item.collectAll_eq (n : Nat) : ∀ items : List Item,
    Item.collectAll items = Record.collectEach ((Item.allPlaced n items).map (·.2))
  | [] => by
      rw [Item.collectAll, Item.allPlaced]
      rfl
  | first :: rest => by
      rw [Item.collectAll_cons, Item.allPlaced, List.map_append, List.map_map,
        Record.collectEach_append, ← Item.collectAll_eq (n + 1) rest, Item.collect_eq first]
      rfl

end

namespace Record

variable {records : List Record}

/-- What comes out is made of the outcomes of the records one by one. -/
theorem result_collectEach (records : List Record) : (collectEach records).result =
    (records.mapM declaration?).map fun found => found.flatMap Option.toList := by
  induction records with
  | nil => rfl
  | cons r rest ih =>
      change (r.collect.andThen (collectEach rest)).result = _
      rw [Collected.result_andThen, result_collect, ih, List.mapM_cons]
      cases r.declaration? with
      | error e => rfl
      | ok o => cases rest.mapM declaration? <;> rfl

theorem exists_collectEach_iff :
    (∃ ds, (collectEach records).result = .ok ds) ↔ ∀ r ∈ records, r.Valid := by
  simp only [valid_iff, ← exists_mapM_iff, result_collectEach, map_eq_ok_iff]
  constructor
  · rintro ⟨ds, found, hfound, -⟩
    exact ⟨found, hfound⟩
  · rintro ⟨found, hfound⟩
    exact ⟨_, found, hfound, rfl⟩

/-- What is refused is refused for the first that is invalid. -/
theorem collectEach_eq_error_iff {e : AttributeError} : (collectEach records).result = .error e ↔
    ∃ front r back, records = front ++ r :: back ∧ (∀ q ∈ front, q.Valid) ∧ r.Fault e := by
  simp only [valid_iff, fault_iff, result_collectEach, map_eq_error_iff]
  exact mapM_eq_error_iff

/-- What comes out is the declarations of those that are not skipped. -/
theorem collectEach_of_ok {ds : List Declaration} (h : (collectEach records).result = .ok ds) :
    List.Forall₂ Declares (records.filter fun r => !r.isSkipped) ds := by
  rw [result_collectEach] at h
  obtain ⟨found, hfound, rfl⟩ := map_eq_ok_iff.mp h
  rw [mapM_eq_ok_iff] at hfound
  clear h
  induction hfound with
  | nil => exact .nil
  | @cons r o _ _ ho _ ih =>
      cases o with
      | none =>
          rw [List.filter_cons_of_neg (by simp [isSkipped_of_none ho])]
          exact ih
      | some d =>
          obtain ⟨hkept, hd⟩ := declares_of_some ho
          rw [List.filter_cons_of_pos (by simp [hkept])]
          exact .cons hd ih

end Record

/-! ## Trees of items -/

namespace Item

/-- The records of a source in the order of the text. -/
theorem collectAll_eq_collectEach (items : List Item) :
    collectAll items = Record.collectEach ((Item.module items).placed.map (·.2)) := by
  rw [← collect_eq, collect]

theorem exists_collectAll_iff (items : List Item) :
    (∃ ds, (collectAll items).result = .ok ds) ↔
      ∀ path r, Holds (.module items) path r → r.Valid := by
  rw [collectAll_eq_collectEach, Record.exists_collectEach_iff]
  constructor
  · intro h path r hr
    exact h r (List.mem_map.mpr ⟨(path, r), (mem_placed_iff _ path r).mpr hr, rfl⟩)
  · intro h r hr
    obtain ⟨⟨path, q⟩, hq, rfl⟩ := List.mem_map.mp hr
    exact h path q ((mem_placed_iff _ path q).mp hq)

/-- A source is refused for the record that is the first in the text among the invalid ones. -/
theorem collectAll_eq_error_iff (items : List Item) (e : AttributeError) :
    (collectAll items).result = .error e ↔ ∃ path r, Holds (.module items) path r ∧ r.Fault e ∧
      ∀ path' r', path' < path → Holds (.module items) path' r' → r'.Valid := by
  have hmem := mem_placed_iff (.module items)
  have hsorted := pairwise_placed (.module items)
  rw [collectAll_eq_collectEach, Record.collectEach_eq_error_iff]
  constructor
  · rintro ⟨front, r, back, hsplit, hfront, hr⟩
    obtain ⟨before, behind, hplaces, rfl, hbehind⟩ := List.map_eq_append_iff.mp hsplit
    obtain ⟨⟨path, q⟩, after, rfl, rfl, rfl⟩ := List.map_eq_cons_iff.mp hbehind
    rw [hplaces, List.pairwise_append, List.pairwise_cons] at hsorted
    rw [hplaces] at hmem
    refine ⟨path, q, (hmem path q).mp (by simp), hr, fun path' r' hlt hheld => ?_⟩
    rcases List.mem_append.mp ((hmem path' r').mpr hheld) with hin | hin
    · exact hfront r' (List.mem_map.mpr ⟨(path', r'), hin, rfl⟩)
    · -- what is not in front of the record is the record, or is behind it
      rcases List.mem_cons.mp hin with heq | hin
      · obtain ⟨rfl, rfl⟩ := Prod.mk.inj heq
        exact absurd hlt (List.lt_irrefl _)
      · exact absurd hlt (List.lt_asymm (hsorted.2.1.1 _ hin))
  · rintro ⟨path, r, hheld, hr, hearlier⟩
    obtain ⟨before, after, hplaces⟩ := List.append_of_mem ((hmem path r).mpr hheld)
    rw [hplaces, List.pairwise_append] at hsorted
    rw [hplaces] at hmem
    refine ⟨before.map (·.2), r, after.map (·.2), ?_, ?_, hr⟩
    · rw [hplaces, List.map_append, List.map_cons]
    · intro q hq
      obtain ⟨⟨path', q'⟩, hin, rfl⟩ := List.mem_map.mp hq
      apply hearlier path' q'
      · exact hsorted.2.2 _ hin _ List.mem_cons_self
      · exact (hmem path' q').mp (List.mem_append_left _ hin)

/-- The declarations of a source are those of its records that are not skipped, in the order of the
text. -/
theorem declares_of_collectAll {items : List Item} {ds : List Declaration}
    (h : (collectAll items).result = .ok ds) : ∃ places : List (List Nat × Record),
      places.Pairwise (fun p q => p.1 < q.1) ∧
        (∀ path r, (path, r) ∈ places ↔
          Holds (.module items) path r ∧ r.isSkipped = false) ∧
        List.Forall₂ (fun place d => place.2.Declares d) places ds := by
  rw [collectAll_eq_collectEach] at h
  have hdeclares := Record.collectEach_of_ok h
  rw [List.filter_map, List.forall₂_map_left_iff] at hdeclares
  refine ⟨_, (pairwise_placed (.module items)).filter _, fun path r => ?_, hdeclares⟩
  rw [List.mem_filter, mem_placed_iff]
  simp

/-- Collecting comes out exactly if every record at any depth of modules is valid, skipped or not.
It then has one declaration for each record that is not skipped, in the order of the text, with its
fields in their order and numbered by it. Else it ends with what the first invalid record is refused
for. Putting items in a row into a module of their own, at any depth, changes nothing. -/
theorem collectAll_exact (items : List Item) :
    ((∃ ds, (collectAll items).result = .ok ds) ↔
      ∀ path r, Holds (.module items) path r → r.Valid) ∧
    (∀ ds, (collectAll items).result = .ok ds → ∃ places : List (List Nat × Record),
      places.Pairwise (fun p q => p.1 < q.1) ∧
        (∀ path r, (path, r) ∈ places ↔
          Holds (.module items) path r ∧ r.isSkipped = false) ∧
        List.Forall₂ (fun place d => place.2.Declares d) places ds) ∧
    (∀ e, (collectAll items).result = .error e ↔
      ∃ path r, Holds (.module items) path r ∧ r.Fault e ∧
        ∀ path' r', path' < path → Holds (.module items) path' r' → r'.Valid) ∧
    ∀ others, Wraps items others → collectAll others = collectAll items := by
  refine ⟨exists_collectAll_iff items, fun ds h => declares_of_collectAll h,
    collectAll_eq_error_iff items, fun others h => h.collectAll_eq⟩

/-- Two records in a module, the second of them one module further in, a record that is skipped, and
one more record. -/
def nestedItems : List Item :=
  let tagged : Attribute := ⟨"flatschema",
    .list [.word "tag", .mark '=' false, .literal .text "\"id\"" "id"]⟩
  [.module [.record ⟨"Order", [], [⟨"id", "u64", [tagged]⟩, ⟨"total", "i64", []⟩]⟩,
      .module [.record ⟨"Line", [], [⟨"id", "i64", [tagged]⟩]⟩], .other],
    .record ⟨"Helper", [⟨"flatschema", .list [.word "skip"]⟩], [⟨"a", "u8", []⟩]⟩,
    .record ⟨"User", [], [⟨"id", "i64", [tagged]⟩]⟩]

/-- The records of all depths are collected in the order of the text and without the skipped one,
and nothing changes when the last two of them are put into a module. -/
theorem collectAll_exact_nested :
    (collectAll nestedItems).result = .ok [
        .ofParts "Order" [("id", "u64", "id"), ("total", "i64", "")],
        .ofParts "Line" [("id", "i64", "id")], .ofParts "User" [("id", "i64", "id")]] ∧
      (∀ path r, Holds (.module nestedItems) path r → r.Valid) ∧
      (∃ places : List (List Nat × Record), places.length = 3 ∧
        places.Pairwise (fun p q => p.1 < q.1) ∧
        ∀ path r, (path, r) ∈ places ↔
          Holds (.module nestedItems) path r ∧ r.isSkipped = false) ∧
      collectAll (nestedItems.take 1 ++ [.module (nestedItems.drop 1)]) =
        collectAll nestedItems := by
  have hresult : (collectAll nestedItems).result = .ok [
      .ofParts "Order" [("id", "u64", "id"), ("total", "i64", "")],
      .ofParts "Line" [("id", "i64", "id")], .ofParts "User" [("id", "i64", "id")]] := by
    decide +kernel
  obtain ⟨hvalid, hdeclares, -, hwraps⟩ := collectAll_exact nestedItems
  refine ⟨hresult, hvalid.mp ⟨_, hresult⟩, ?_, ?_⟩
  · obtain ⟨places, hsorted, hmem, hpairs⟩ := hdeclares _ hresult
    exact ⟨places, hpairs.length_eq, hsorted, hmem⟩
  · apply hwraps
    exact .here (nestedItems.take 1) (nestedItems.drop 1) []

end Item

end RecordSchema.Source
