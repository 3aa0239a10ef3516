/-
Which types fit which capabilities.

The column of a field is worked out in steps that may each refuse it. Said at once: the type is in the
table, a date and an identifier are longs, and an identifier is no date. A date keeps the wire type of
its long. `TypeFault` says the same of the refusals: which one is made, and what it names.
-/
import RecordSchema.Column
import RecordSchema.Proofs.Keys

set_option autoImplicit false

namespace RecordSchema

open Tag

/-! ## The table -/

/-- A type text has the column that the table gives it. -/
theorem mapType_eq_ok_iff {typeName : String} {mapping : TypeMapping} :
    mapType typeName = .ok mapping ↔ (typeName, mapping) ∈ typeTable := by
  have hkeys : (typeTable.map (·.1)).Nodup := by decide
  rw [← lookup_eq_some_iff_mem hkeys, mapType]
  cases typeTable.lookup typeName <;> simp

/-- A type text that the table does not have is unknown. -/
theorem mapType_eq_error_iff {typeName : String} {error : TypeError} :
    mapType typeName = .error error ↔
      typeName ∉ typeTable.map (·.1) ∧ error = .unknown typeName := by
  rw [← lookup_eq_none_iff_notMem, mapType]
  cases typeTable.lookup typeName <;> simp [eq_comm]

/-! ## Capabilities of a column -/

namespace TypeMapping

/-- What the capabilities of a field ask of the column of its type. -/
structure Fits (mapping : TypeMapping) (caps : Capabilities) : Prop where
  date : caps.isDate = true → mapping.storage = .long
  id : caps.isId = true → mapping.storage = .long ∧ caps.isDate = false

/-- A column under capabilities: a date is stored as one. -/
def under (mapping : TypeMapping) (caps : Capabilities) : TypeMapping :=
  if caps.isDate then { mapping with storage := .date } else mapping

end TypeMapping

/-- Why a type and capabilities do not go together, and what is said about it: there is no such type,
a date is no long, or an identifier is no long, which one that is also a date never is. -/
inductive TypeFault (typeName : String) (caps : Capabilities) : TypeError → Prop where
  | unknown (h : typeName ∉ typeTable.map (·.1)) : TypeFault typeName caps (.unknown typeName)
  | date {base : TypeMapping} (hbase : (typeName, base) ∈ typeTable) (hdate : caps.isDate = true)
      (h : base.storage ≠ .long) : TypeFault typeName caps (.dateRequiresLong base.storage)
  | id {base : TypeMapping} (hbase : (typeName, base) ∈ typeTable)
      (hdate : caps.isDate = true → base.storage = .long) (hid : caps.isId = true)
      (h : (base.under caps).storage ≠ .long) :
      TypeFault typeName caps (.idRequiresLong (base.under caps).storage)

section Resolve

variable {typeName : String} {caps : Capabilities} {base : TypeMapping}

/-- A type that fits the capabilities is resolved to its column under them. -/
theorem resolveType_of_fits (hbase : (typeName, base) ∈ typeTable) (h : base.Fits caps) :
    resolveType typeName caps = .ok (base.under caps) := by
  unfold resolveType TypeMapping.under
  rw [mapType_eq_ok_iff.mpr hbase]
  by_cases hdate : caps.isDate = true
  · have hid : caps.isId = false := by
      rw [Bool.eq_false_iff]
      intro hid
      have hnot := (h.id hid).2
      rw [hdate] at hnot
      cases hnot
    simp [hdate, hid, TypeMapping.asDate, h.date hdate, bind, Except.bind]
  · by_cases hid : caps.isId = true
    · simp [hdate, hid, TypeMapping.asId, (h.id hid).1, bind, Except.bind]
    · simp [hdate, hid, bind, Except.bind]

/-- A fault of type and capabilities is what is reported. -/
theorem resolveType_of_fault {error : TypeError} (h : TypeFault typeName caps error) :
    resolveType typeName caps = .error error := by
  unfold resolveType
  cases h with
  | unknown h =>
      rw [mapType_eq_error_iff.mpr ⟨h, rfl⟩]
      rfl
  | date hbase hdate h =>
      rw [mapType_eq_ok_iff.mpr hbase]
      simp [hdate, TypeMapping.asDate, h, bind, Except.bind]
  | @id base hbase hdate hid h =>
      rw [mapType_eq_ok_iff.mpr hbase]
      unfold TypeMapping.under at h ⊢
      by_cases hd : caps.isDate = true
      · simp [hd, hid, TypeMapping.asDate, TypeMapping.asId, hdate hd, bind, Except.bind]
      · rw [if_neg hd] at h
        simp [hd, hid, TypeMapping.asId, h, bind, Except.bind]

/-- A type fits the capabilities, or there is a fault. -/
theorem exists_fits_or_fault (typeName : String) (caps : Capabilities) :
    (∃ base, (typeName, base) ∈ typeTable ∧ base.Fits caps) ∨
      ∃ error, TypeFault typeName caps error := by
  by_cases hknown : typeName ∈ typeTable.map (·.1)
  · obtain ⟨⟨_, base⟩, hbase, rfl⟩ := List.mem_map.mp hknown
    by_cases hdate : caps.isDate = true → base.storage = .long
    · by_cases hid : caps.isId = true → (base.under caps).storage = .long
      · left
        refine ⟨base, hbase, hdate, fun h => ?_⟩
        have hlong := hid h
        unfold TypeMapping.under at hlong
        by_cases hd : caps.isDate = true
        · rw [if_pos hd] at hlong
          cases hlong
        · rw [if_neg hd] at hlong
          exact ⟨hlong, by simpa using hd⟩
      · rw [Classical.not_imp] at hid
        exact Or.inr ⟨_, .id hbase hdate hid.1 hid.2⟩
    · rw [Classical.not_imp] at hdate
      exact Or.inr ⟨_, .date hbase hdate.1 hdate.2⟩
  · exact Or.inr ⟨_, .unknown hknown⟩

end Resolve

end RecordSchema
