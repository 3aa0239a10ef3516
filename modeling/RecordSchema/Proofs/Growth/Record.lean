/-
Records of declarations that grow.

A declaration grows when further fields are appended to it. What is new in the longer declaration is
what was new in the shorter one, and then what is new once that has been recorded. A declared record
leaves the next number on record, so declaring it and then more of it comes to declaring all of it at
once, and what the shorter declaration has retired comes back with the number it had.

A new entity is treated as a record that has no properties yet. Declaring it gives the fresh record,
and what is said of recorded entities is said of new ones with it.
-/
import RecordSchema.Proofs.Demand
import RecordSchema.Proofs.Entity.Outline

set_option autoImplicit false

namespace RecordSchema

/-! ## Declarations that grow -/

/-- An outline that has further properties behind those of another. -/
structure Outline.Grows (before after : Outline) : Prop where
  name : after.name = before.name
  properties : before.properties <+: after.properties

/-- A declaration that has further fields behind those of another. -/
structure Declaration.Grows (before after : Declaration) : Prop where
  name : after.name = before.name
  fields : before.fields <+: after.fields

namespace Declaration

variable {before after : Declaration}

instance : Decidable (before.Grows after) :=
  decidable_of_iff (after.name = before.name ∧ before.fields <+: after.fields)
    ⟨fun h => ⟨h.1, h.2⟩, fun h => ⟨h.name, h.fields⟩⟩

/-- The stored fields of a declaration that grows are the first of those it grows to. -/
theorem Grows.outline (h : before.Grows after) : before.outline.Grows after.outline where
  name := h.name
  properties := (h.fields.filter _).map _

/-- Fields with distinct names had distinct names before there were more of them. -/
theorem Grows.fieldsDistinct (h : before.Grows after) (hafter : after.FieldsDistinct) :
    before.FieldsDistinct :=
  hafter.sublist (h.fields.map _).sublist

end Declaration

/-! ## One record -/

/-- Numbering goes on behind the numbers that were given. -/
theorem PropertyRecord.numbered_append (uid : UInt64) (first : Nat) (names more : List String) :
    numbered uid first (names ++ more) =
      numbered uid first names ++ numbered uid (first + names.length) more := by
  induction names generalizing first with
  | nil => rfl
  | cons name names ih =>
      rw [List.cons_append, numbered_cons, numbered_cons, ih, List.length_cons, List.cons_append]
      congr 3
      omega

namespace EntityRecord

section Declared

variable {r : EntityRecord} {source : Option String} {names more : List String}

/-- What is new in the longer of two declarations is what was new in the shorter one and what is
new once that has been recorded. -/
theorem newNames_of_prefix (r : EntityRecord) (source : Option String) (h : names <+: more) :
    r.newNames more = r.newNames names ++ (r.declared source names).newNames more := by
  obtain ⟨rest, rfl⟩ := h
  -- the shorter declaration has recorded all of its own names
  have hfirst : names.filter
      (fun name => !(r.declared source names).propertyNames.contains name) = [] := by
    rw [List.filter_eq_nil_iff]
    intro name hname
    simp [propertyNames_declared, mem_newNames_iff, hname, Classical.em]
  have hrest : rest.filter (fun name => !(r.declared source names).propertyNames.contains name) =
      (rest.filter fun name => !r.propertyNames.contains name).removeAll
        (names.filter fun name => !r.propertyNames.contains name) := by
    rw [List.removeAll, List.filter_filter]
    refine List.filter_congr fun name _ => ?_
    rw [Bool.eq_iff_iff]
    simp only [propertyNames_declared, List.contains_eq_mem, List.mem_append, mem_newNames_iff,
      List.mem_filter, Bool.not_eq_true', decide_eq_false_iff_not,
      Bool.and_eq_true]
    tauto
  rw [newNames, newNames, newNames, List.filter_append, List.filter_append, hfirst, hrest,
    List.nil_append, List.eraseDups_append]

/-- A declaration leaves the number after those it has issued as the next one. -/
theorem nextNumber_declared (source : Option String)
    (hnum : Numberable r.id.uid r.nextNumber (r.newNames names).length) :
    (r.declared source names).nextNumber = r.nextNumber + (r.newNames names).length := by
  by_cases hnil : r.newNames names = []
  · have hadded : r.added names = [] := by rw [added, hnil]; rfl
    simp [nextNumber, declared, hadded, hnil]
  · obtain ⟨p, hp⟩ : ∃ p, p ∈ r.added names := by
      apply List.exists_mem_of_ne_nil
      intro hadded
      rw [← map_name_added, hadded] at hnil
      exact hnil rfl
    obtain ⟨last, hlast, hnumber, -⟩ := PropertyRecord.id_le_getLast?_numbered hnum hp
    have hid : (r.declared source names).lastPropertyId = some last.id := by
      change ((r.added names).getLast?.map (·.id)).or r.lastPropertyId = some last.id
      rw [added, hlast]
      rfl
    rw [nextNumber, hid]
    exact hnumber

/-- What the longer of two declarations adds is what the shorter one adds and what the longer one
adds after it. -/
theorem added_of_prefix (source : Option String) (h : names <+: more)
    (hnum : Numberable r.id.uid r.nextNumber (r.newNames names).length) :
    r.added more = r.added names ++ (r.declared source names).added more := by
  rw [added, added, added, nextNumber_declared source hnum, r.newNames_of_prefix source h,
    PropertyRecord.numbered_append, declared_id]

/-- The same of the numbers. -/
theorem addedNumbers_of_prefix (source : Option String) (h : names <+: more)
    (hnum : Numberable r.id.uid r.nextNumber (r.newNames names).length) :
    r.addedNumbers more = r.addedNumbers names ++ (r.declared source names).addedNumbers more := by
  rw [addedNumbers, addedNumbers, addedNumbers, nextNumber_declared source hnum,
    r.newNames_of_prefix source h, List.length_append, List.range'_append_1]

/-- Declaring a record and then more of it comes to declaring all of it at once. -/
theorem declared_declared (source : Option String) (h : names <+: more)
    (hnum : Numberable r.id.uid r.nextNumber (r.newNames names).length) :
    (r.declared source names).declared source more = r.declared source more := by
  have hadded := added_of_prefix source h hnum
  -- what the shorter declaration has added is live, and it still is declared
  have hlive : (r.added names).map (fun p => { p with retired := !more.contains p.name }) =
      r.added names := by
    refine (List.map_congr_left fun p hp => ?_).trans (List.map_id' _)
    have hname : p.name ∈ r.newNames names := r.map_name_added names ▸ List.mem_map_of_mem hp
    have hmore : p.name ∈ more := h.subset (mem_newNames_iff.mp hname).1
    have hretired : p.retired = false := PropertyRecord.retired_of_mem_numbered hp
    simp [hmore, ← hretired]
  have hlast : (((r.declared source names).added more).getLast?.map (·.id)).or
      (((r.added names).getLast?.map (·.id)).or r.lastPropertyId) =
        ((r.added more).getLast?.map (·.id)).or r.lastPropertyId := by
    rw [hadded, List.getLast?_append]
    cases ((r.declared source names).added more).getLast? <;> rfl
  have hproperties : (r.declared source names).properties.map
      (fun p : PropertyRecord => { p with retired := !more.contains p.name }) ++
        (r.declared source names).added more =
      r.properties.map (fun p => { p with retired := !more.contains p.name }) ++ r.added more := by
    change (r.properties.map (fun p : PropertyRecord =>
      { p with retired := !names.contains p.name }) ++ r.added names).map _ ++ _ = _
    rw [hadded, List.map_append, hlive, List.map_map, List.append_assoc]
    rfl
  rw [declared, hproperties]
  change ({ r with
    source
    retired := false
    lastPropertyId := (((r.declared source names).added more).getLast?.map (·.id)).or
      (((r.added names).getLast?.map (·.id)).or r.lastPropertyId)
    properties := _ } : EntityRecord) = _
  rw [hlast]
  rfl

/-- The numbers of the declared properties are the same if some of them were declared before. -/
theorem declaredNumbers_declared (source : Option String) (h : names <+: more)
    (hnum : Numberable r.id.uid r.nextNumber (r.newNames names).length) :
    (r.declared source names).declaredNumbers more = r.declaredNumbers more := by
  have hadded : (r.added names).filter (fun p => more.contains p.name) = r.added names := by
    rw [List.filter_eq_self]
    intro p hp
    have hname : p.name ∈ r.newNames names := r.map_name_added names ▸ List.mem_map_of_mem hp
    simpa using h.subset (mem_newNames_iff.mp hname).1
  have hnumbers : (r.added names).map (·.id.id.toNat) = r.addedNumbers names :=
    PropertyRecord.map_id_numbered hnum
  rw [declaredNumbers, declaredNumbers, addedNumbers_of_prefix source h hnum, ← List.append_assoc]
  refine congrArg (· ++ _) ?_
  change ((r.properties.map (fun p : PropertyRecord =>
    { p with retired := !names.contains p.name }) ++ r.added names).filter
      fun p : PropertyRecord => more.contains p.name).map (fun p : PropertyRecord => p.id.id.toNat) =
        _
  rw [List.filter_append, hadded, List.map_append, hnumbers, List.filter_map, List.map_map]
  rfl

/-- The shorter of two declarations adds the first of the numbers that the longer one adds. -/
theorem addedNumbers_prefix (r : EntityRecord) (h : names <+: more) :
    r.addedNumbers names <+: r.addedNumbers more := by
  rw [addedNumbers, addedNumbers, r.newNames_of_prefix none h, List.length_append,
    ← List.range'_append_1]
  exact List.prefix_append _ _

/-- The shorter of two declarations names no other numbers. -/
theorem declaredNumbers_subset (r : EntityRecord) (h : names <+: more) :
    r.declaredNumbers names ⊆ r.declaredNumbers more := by
  intro n hn
  rcases List.mem_append.mp hn with hold | hnew
  · obtain ⟨p, hp, rfl⟩ := List.mem_map.mp hold
    obtain ⟨hmem, hname⟩ := List.mem_filter.mp hp
    refine List.mem_append_left _ (List.mem_map_of_mem (List.mem_filter.mpr ⟨hmem, ?_⟩))
    have hdeclared : p.name ∈ names := by simpa using hname
    simpa using h.subset hdeclared
  · exact List.mem_append_right _ ((r.addedNumbers_prefix h).subset hnew)

end Declared

section Blank

variable {name : String} {id : IdUid} {names : List String}

/-- The record of an entity that has no properties yet. -/
def blank (name : String) (id : IdUid) : EntityRecord where
  id
  name
  source := none
  retired := false
  lastPropertyId := none
  properties := []

theorem newNames_blank (name : String) (id : IdUid) (h : names.Nodup) :
    (blank name id).newNames names = names := by
  have hall : names.filter (fun n => !(blank name id).propertyNames.contains n) = names := by
    rw [List.filter_eq_self]
    intro n _
    rfl
  rw [newNames, hall, eraseDups_of_nodup h]

theorem addedNumbers_blank (name : String) (id : IdUid) (h : names.Nodup) :
    (blank name id).addedNumbers names = List.range names.length := by
  rw [addedNumbers, newNames_blank name id h, List.range_eq_range']
  rfl

theorem declaredNumbers_blank (name : String) (id : IdUid) (h : names.Nodup) :
    (blank name id).declaredNumbers names = List.range names.length :=
  addedNumbers_blank name id h

/-- A fresh record is one without properties, declared for the first time. -/
theorem declared_blank (source : Option String) {outline : Outline} (id : IdUid)
    (h : outline.properties.Nodup) :
    (blank outline.name id).declared source outline.properties = fresh source outline id := by
  have hadded : (blank outline.name id).added outline.properties =
      PropertyRecord.numbered id.uid 0 outline.properties := by
    rw [added, newNames_blank outline.name id h]
    rfl
  rw [declared, hadded]
  simp [fresh, blank]

theorem numberable_blank {name : String} {id : IdUid} (h : names.Nodup)
    (hnum : Numberable id.uid 0 names.length) :
    Numberable (blank name id).id.uid (blank name id).nextNumber
      ((blank name id).newNames names).length := by
  rw [newNames_blank name id h]
  exact hnum

end Blank

end EntityRecord

end RecordSchema
