/-
The text of a snapshot and back.

A writer leaves the fields at their default out and a reader starts from a draft whose places are
all empty, so the places that the writer skipped are the ones that the reader fills with the same
default at the end. The fields of each record are followed one by one through its draft; the rest is
the round trip of the JSON text itself.
-/
import RecordSchema.Proofs.Json.Reading
import RecordSchema.Snapshot.Json

set_option autoImplicit false

namespace RecordSchema

/-! ## Values -/

namespace Json

theorem toIdUid_json (x : IdUid) : x.json.toIdUid = .ok x := by
  rw [IdUid.json, toIdUid, IdUid.parse_render]
  rfl

/-- A pair in a place that may be null. -/
theorem toOption_json (x : IdUid) : x.json.toOption toIdUid = .ok (some x) := by
  have hread := toIdUid_json x
  rw [IdUid.json] at hread ⊢
  rw [toOption, hread]
  · rfl
  · intro hnull
    cases hnull

theorem toWord_natural (n : UInt32) : (natural n.toNat).toWord = .ok n := by
  rw [toWord, if_pos n.toNat_lt_size, UInt32.ofNat_toNat]

/-- A list is read back if each of its items is. -/
theorem toListOf_map {α : Type} {write : α → Json} {read : Json → Except FormatError α}
    (h : ∀ x, read (write x) = .ok x) (xs : List α) :
    (list (xs.map write)).toListOf read = .ok xs := by
  rw [toListOf]
  induction xs with
  | nil => rfl
  | cons x xs ih =>
      rw [List.map_cons, List.mapM_cons, h, ih]
      rfl

end Json

/-! ## Drafts -/

section Drafts

variable {δ : Type} {put : δ → String → Json → Except FormatError δ}

theorem putAll_append {draft after : δ} {fields : List (String × Json)}
    (h : putAll put draft fields = .ok after) (more : List (String × Json)) :
    putAll put draft (fields ++ more) = putAll put after more := by
  induction fields generalizing draft with
  | nil =>
      rw [putAll] at h
      obtain rfl := Except.ok.inj h
      rfl
  | cons field fields ih =>
      rw [putAll] at h
      rw [List.cons_append, putAll]
      cases hput : put draft field.1 field.2 with
      | error e =>
          rw [hput] at h
          cases h
      | ok next =>
          rw [hput] at h
          exact ih h

/-- A field that is written only when it has a value: without one its place stays as it was. -/
theorem putAll_fieldOf {α : Type} (put : δ → String → Json → Except FormatError δ) (key : String)
    (write : α → Json) (draft : δ)
    (filled : Option α → δ) (hnone : filled none = draft)
    (hsome : ∀ x, put draft key (write x) = .ok (filled (some x))) (value : Option α) :
    putAll put draft (Json.fieldOf key (value.map write)) = .ok (filled value) := by
  cases value with
  | none => exact congrArg Except.ok hnone.symm
  | some x =>
      rw [Json.fieldOf, Option.map_some, Option.map_some, Option.toList_some, putAll, hsome]
      rfl

end Drafts

/-! ## Records -/

/-- The mark that a record is read with: there is none on a live one. -/
def retiredMark (retired : Bool) : Option Bool := if retired then some true else none

theorem getD_retiredMark (retired : Bool) : (retiredMark retired).getD false = retired := by
  cases retired <;> rfl

theorem getD_map_some {α : Type} (value : Option α) : (value.map some).getD none = value := by
  cases value <;> rfl

theorem Json.retiredField_eq (retired : Bool) :
    retiredField retired = fieldOf "retired" ((retiredMark retired).map .bool) := by
  cases retired <;> rfl

theorem PropertyRecord.ofJson_json (p : PropertyRecord) : ofJson p.json = .ok p := by
  have hnames : putAll PropertyDraft.put {} [("id", p.id.json), ("name", .text p.name)] =
      .ok ⟨some p.id, some p.name, none⟩ := by
    simp only [putAll, PropertyDraft.put, Json.toIdUid_json]
    rfl
  have hretired := putAll_fieldOf PropertyDraft.put "retired" Json.bool
    ⟨some p.id, some p.name, none⟩ (fun mark => ⟨some p.id, some p.name, mark⟩) rfl
    (fun _ => rfl) (retiredMark p.retired)
  rw [json, Json.retiredField_eq, ofJson, readRecord, putAll_append hnames, hretired]
  change Except.ok (⟨p.id, p.name, (retiredMark p.retired).getD false⟩ : PropertyRecord) = .ok p
  rw [getD_retiredMark]

theorem EntityRecord.ofJson_json (e : EntityRecord) : ofJson e.json = .ok e := by
  have hnames : putAll EntityDraft.put {} [("id", e.id.json), ("name", .text e.name)] =
      .ok ⟨some e.id, some e.name, none, none, none, none⟩ := by
    simp only [putAll, EntityDraft.put, Json.toIdUid_json]
    rfl
  have hsource := putAll_fieldOf EntityDraft.put "source" Json.text
    ⟨some e.id, some e.name, none, none, none, none⟩
    (fun source => ⟨some e.id, some e.name, source.map some, none, none, none⟩) rfl
    (fun _ => rfl) e.source
  have hretired := putAll_fieldOf EntityDraft.put "retired" Json.bool
    ⟨some e.id, some e.name, e.source.map some, none, none, none⟩
    (fun mark => ⟨some e.id, some e.name, e.source.map some, mark, none, none⟩) rfl
    (fun _ => rfl) (retiredMark e.retired)
  have hlast := putAll_fieldOf EntityDraft.put "lastPropertyId" IdUid.json
    ⟨some e.id, some e.name, e.source.map some, retiredMark e.retired, none, none⟩
    (fun last =>
      ⟨some e.id, some e.name, e.source.map some, retiredMark e.retired, last.map some, none⟩) rfl
    (fun x => by
      simp only [EntityDraft.put, Json.toOption_json]
      rfl)
    e.lastPropertyId
  have hproperties : putAll EntityDraft.put
      ⟨some e.id, some e.name, e.source.map some, retiredMark e.retired,
        e.lastPropertyId.map some, none⟩
      [("properties", .list (e.properties.map PropertyRecord.json))] =
        .ok ⟨some e.id, some e.name, e.source.map some, retiredMark e.retired,
          e.lastPropertyId.map some, some e.properties⟩ := by
    simp only [putAll, EntityDraft.put, Json.toListOf_map PropertyRecord.ofJson_json]
    rfl
  rw [json, Json.retiredField_eq, ofJson, readRecord, List.append_assoc, List.append_assoc,
    List.append_assoc, putAll_append hnames, putAll_append hsource, putAll_append hretired,
    putAll_append hlast, hproperties]
  change Except.ok (⟨e.id, e.name, (e.source.map some).getD none,
    (retiredMark e.retired).getD false, (e.lastPropertyId.map some).getD none,
    e.properties⟩ : EntityRecord) = .ok e
  rw [getD_retiredMark, getD_map_some, getD_map_some]

theorem Snapshot.ofJson_json (s : Snapshot) : ofJson s.json = .ok s := by
  have hversion : putAll SnapshotDraft.put {} [("version", .natural s.version.toNat)] =
      .ok ⟨some s.version, none, none⟩ := by
    simp only [putAll, SnapshotDraft.put, Json.toWord_natural]
    rfl
  have hlast := putAll_fieldOf SnapshotDraft.put "lastEntityId" IdUid.json
    ⟨some s.version, none, none⟩ (fun last => ⟨some s.version, last.map some, none⟩) rfl
    (fun x => by
      simp only [SnapshotDraft.put, Json.toOption_json]
      rfl)
    s.lastEntityId
  have hentities : putAll SnapshotDraft.put ⟨some s.version, s.lastEntityId.map some, none⟩
      [("entities", .list (s.entities.map EntityRecord.json))] =
        .ok ⟨some s.version, s.lastEntityId.map some, some s.entities⟩ := by
    simp only [putAll, SnapshotDraft.put, Json.toListOf_map EntityRecord.ofJson_json]
    rfl
  rw [json, ofJson, readRecord, List.append_assoc, putAll_append hversion, putAll_append hlast,
    hentities]
  change Except.ok (⟨s.version, (s.lastEntityId.map some).getD none, s.entities⟩ : Snapshot) =
    .ok s
  rw [getD_map_some]

/-! ## Texts -/

namespace Json

theorem integral_bool (b : Bool) : (bool b).Integral := trivial

theorem integral_text (s : String) : (text s).Integral := trivial

theorem fieldsIntegral_append {fs more : List (String × Json)} :
    FieldsIntegral (fs ++ more) ↔ FieldsIntegral fs ∧ FieldsIntegral more := by
  simp only [fieldsIntegral_iff, List.forall_mem_append]

theorem fieldsIntegral_fieldOf {α : Type} (key : String) {write : α → Json}
    (h : ∀ x, (write x).Integral) (value : Option α) :
    FieldsIntegral (fieldOf key (value.map write)) := by
  cases value with
  | none => trivial
  | some x => exact ⟨h x, trivial⟩

theorem fieldsIntegral_retiredField (retired : Bool) :
    FieldsIntegral (retiredField retired) := by
  rw [retiredField_eq]
  exact fieldsIntegral_fieldOf _ integral_bool _

theorem allIntegral_map {α : Type} {write : α → Json} (h : ∀ x, (write x).Integral)
    (xs : List α) : AllIntegral (xs.map write) := by
  rw [allIntegral_iff, List.forall_mem_map]
  exact fun x _ => h x

end Json

theorem IdUid.integral_json (x : IdUid) : x.json.Integral := trivial

theorem PropertyRecord.integral_json (p : PropertyRecord) : p.json.Integral := by
  rw [json, Json.Integral, Json.fieldsIntegral_append]
  exact ⟨⟨trivial, trivial, trivial⟩, Json.fieldsIntegral_retiredField _⟩

theorem EntityRecord.integral_json (e : EntityRecord) : e.json.Integral := by
  simp only [json, Json.Integral, Json.fieldsIntegral_append]
  refine ⟨⟨⟨⟨?_, ?_⟩, ?_⟩, ?_⟩, ?_⟩
  · exact ⟨trivial, trivial, trivial⟩
  · exact Json.fieldsIntegral_fieldOf _ Json.integral_text _
  · exact Json.fieldsIntegral_retiredField _
  · exact Json.fieldsIntegral_fieldOf _ IdUid.integral_json _
  · exact ⟨Json.allIntegral_map PropertyRecord.integral_json _, trivial⟩

theorem Snapshot.integral_json (s : Snapshot) : s.json.Integral := by
  simp only [json, Json.Integral, Json.fieldsIntegral_append]
  refine ⟨⟨⟨trivial, trivial⟩, ?_⟩, ?_⟩
  · exact Json.fieldsIntegral_fieldOf _ IdUid.integral_json _
  · exact ⟨Json.allIntegral_map EntityRecord.integral_json _, trivial⟩

namespace Snapshot

/-- A text that is read without a fault holds the snapshot of its value. -/
theorem read_eq_ok {text : String} {value : Json} {rest : List Char} {s : Snapshot}
    (htext : Json.readText text = ⟨some value, some rest⟩) (hvalue : ofJson value = .ok s) :
    read text = .ok s := by
  simp only [read, htext, Option.elim_some, hvalue, Option.isSome_some, if_true]

theorem read_fileText (s : Snapshot) : read s.fileText = .ok s :=
  read_eq_ok (Json.readText_pretty s.integral_json Json.blank_lineEnd) (ofJson_json s)

/-- Reading undoes writing, in the layout of a model file and in the compact one. This needs no
consistency: any version, any names and any numbers come back as they were. -/
theorem read_written (s : Snapshot) :
    read s.fileText = .ok s ∧ read s.json.compact = .ok s :=
  ⟨read_fileText s, read_eq_ok (Json.readText_compact s.integral_json) (ofJson_json s)⟩

end Snapshot

end RecordSchema
