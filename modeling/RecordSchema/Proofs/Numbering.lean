/-
Numbers of properties and entities.

Identifiers are words, and every statement about them is made on the natural numbers that the words
hold: a UID is its entity's UID times the scale plus the numeric ID as an integer, not as a word,
and where that does not fit its word there is no UID. What is defined in checked steps has a closed
form here. `PropertyRecord.numbered` is the list of records that both ways of adding properties come
to: live, in the order of the names, numbered from a first number on.
-/
import Mathlib.Data.List.Nodup
import RecordSchema.Assigner

set_option autoImplicit false

namespace RecordSchema

/-! ## Checked steps -/

theorem checked?_eq_some_iff {size n m : Nat} : checked? size n = some m ↔ n < size ∧ n = m := by
  unfold checked?
  by_cases h : n < size
  · rw [if_pos h, Option.some.injEq, and_iff_right h]
  · rw [if_neg h]
    exact iff_of_false (by simp) fun hc => h hc.1

theorem checked?_eq_none_iff {size n : Nat} : checked? size n = none ↔ size ≤ n := by
  unfold checked?
  by_cases h : n < size
  · rw [if_pos h]
    exact iff_of_false (by simp) (Nat.not_le.mpr h)
  · rw [if_neg h]
    exact iff_of_true rfl (Nat.not_lt.mp h)

/-- A checked step that is only added to need not be checked by itself: what follows it, with the
sum that is checked next, comes out the same. -/
theorem checked?_bind_add {α : Type} (size n k : Nat) (f : Nat → Option α) :
    ((checked? size n).bind fun m => (checked? size (m + k)).bind f) =
      (checked? size (n + k)).bind f := by
  by_cases h : n < size
  · rw [checked?_eq_some_iff.mpr ⟨h, rfl⟩, Option.bind_some]
  · have hsum : size ≤ n + k := by omega
    rw [checked?_eq_none_iff.mpr (Nat.not_lt.mp h), checked?_eq_none_iff.mpr hsum]
    rfl

/-! ## Single identifiers -/

/-- The UID of a property is computed at once and checked in the end. -/
theorem propertyUid?_eq (entity : UInt64) (property : UInt32) :
    propertyUid? entity property =
      (checked? UInt64.size (entity.toNat * uidScale + property.toNat)).bind
        fun uid => some (UInt64.ofNat uid) :=
  checked?_bind_add _ _ _ _

/-- The UID of a property is an exact integer. -/
theorem propertyUid?_eq_some_iff {entity uid : UInt64} {property : UInt32} :
    propertyUid? entity property = some uid ↔
      uid.toNat = entity.toNat * uidScale + property.toNat := by
  rw [propertyUid?_eq, Option.bind_eq_some_iff]
  constructor
  · rintro ⟨n, hn, hword⟩
    obtain ⟨hfits, rfl⟩ := checked?_eq_some_iff.mp hn
    rw [← Option.some.inj hword, UInt64.toNat_ofNat_of_lt' hfits]
  · intro h
    refine ⟨uid.toNat, checked?_eq_some_iff.mpr ⟨h ▸ uid.toNat_lt_size, h.symm⟩, ?_⟩
    rw [UInt64.ofNat_toNat]

/-- A property has no UID exactly if the integer that it would be has no word. -/
theorem propertyUid?_eq_none_iff {entity : UInt64} {property : UInt32} :
    propertyUid? entity property = none ↔
      UInt64.size ≤ entity.toNat * uidScale + property.toNat := by
  rw [propertyUid?_eq, ← checked?_eq_none_iff]
  cases checked? UInt64.size (entity.toNat * uidScale + property.toNat) <;> simp

/-- The number after a property ID does not leave its word. -/
theorem nextPropertyId_toNat (id : UInt32) :
    (nextPropertyId id).toNat = min (id.toNat + 1) (UInt32.size - 1) := by
  have hid := id.toNat_lt_size
  unfold nextPropertyId
  split
  · rename_i h
    rw [UInt32.toNat_add]
    simp only [UInt32.size] at *
    change (id.toNat + 1) % 2 ^ 32 = _
    omega
  · rename_i h
    omega

theorem positionalId_toNat (position : Nat) :
    (positionalId position).toNat = min position (UInt32.size - 1) := by
  unfold positionalId
  rw [UInt32.toNat_ofNat_of_lt']
  simp only [UInt32.size]
  omega

/-- The offset of a slot is computed at once and checked in the end. -/
theorem vtableOffset?_eq (id : UInt32) :
    vtableOffset? id = (checked? UInt16.size (id.toNat * vtableSlotBytes + vtableHeaderBytes)).bind
      fun offset => some (UInt16.ofNat offset) := by
  have hsteps : vtableOffset? id =
      (checked? UInt32.size (id.toNat * vtableSlotBytes + vtableHeaderBytes)).bind fun sum =>
        (checked? UInt16.size sum).bind fun offset => some (UInt16.ofNat offset) :=
    checked?_bind_add _ _ _ _
  rw [hsteps]
  by_cases h : id.toNat * vtableSlotBytes + vtableHeaderBytes < UInt32.size
  · rw [checked?_eq_some_iff.mpr ⟨h, rfl⟩, Option.bind_some]
  · -- what does not fit 32 bits does not fit 16
    have hshort : UInt16.size ≤ id.toNat * vtableSlotBytes + vtableHeaderBytes := by
      simp only [UInt16.size, UInt32.size] at h ⊢
      omega
    rw [checked?_eq_none_iff.mpr (Nat.not_lt.mp h), checked?_eq_none_iff.mpr hshort]
    rfl

/-- An ID is in range if the offset of its slot fits. -/
private theorem offset_lt_iff {id : UInt32} :
    id.toNat * vtableSlotBytes + vtableHeaderBytes < UInt16.size ↔ id.toNat ≤ maxPropertyId := by
  simp only [vtableHeaderBytes, vtableSlotBytes, maxPropertyId, UInt16.size]
  omega

/-- A property has a slot exactly when its ID is in range, and then the slot stands at the header
plus two bytes for each property before it. -/
theorem vtableOffset_eq_ok_iff {id : UInt32} {offset : UInt16} :
    vtableOffset id = .ok offset ↔
      id.toNat ≤ maxPropertyId ∧
        offset.toNat = vtableHeaderBytes + vtableSlotBytes * id.toNat := by
  rw [vtableOffset, vtableOffset?_eq, Nat.add_comm vtableHeaderBytes, Nat.mul_comm vtableSlotBytes,
    ← offset_lt_iff]
  by_cases h : id.toNat * vtableSlotBytes + vtableHeaderBytes < UInt16.size
  · rw [checked?_eq_some_iff.mpr ⟨h, rfl⟩, Option.bind_some]
    dsimp only
    rw [Except.ok.injEq, eq_comm, ← UInt16.toNat_inj, UInt16.toNat_ofNat_of_lt' h, and_iff_right h]
  · rw [checked?_eq_none_iff.mpr (Nat.not_lt.mp h), Option.bind_none]
    exact iff_of_false (by simp) fun hc => h hc.1

/-- A property is refused a slot only if its ID is out of range. -/
theorem lt_of_vtableOffset_eq_error {id : UInt32} {e : LayoutError}
    (h : vtableOffset id = .error e) : maxPropertyId < id.toNat := by
  by_contra hle
  have hfits := offset_lt_iff.mpr (Nat.not_lt.mp hle)
  rw [vtableOffset, vtableOffset?_eq, checked?_eq_some_iff.mpr ⟨hfits, rfl⟩] at h
  cases h

/-- The numeric ID that a hash gives is its high bits, as an integer. -/
theorem hashedEntityId_toNat (hash : UInt64) : (hashedEntityId hash).toNat = hash.toNat >>> 40 := by
  have h := hash.toNat_lt
  unfold hashedEntityId
  rw [UInt64.toNat_toUInt32, UInt64.toNat_shiftRight]
  change hash.toNat >>> 40 % 2 ^ 32 = hash.toNat >>> 40
  rw [Nat.shiftRight_eq_div_pow]
  omega

/-- The high bits of a hash make a numeric ID of 24 bits. -/
theorem hashedEntityId_le (hash : UInt64) : (hashedEntityId hash).toNat ≤ maxEntityId := by
  have h := hash.toNat_lt
  rw [hashedEntityId_toNat, Nat.shiftRight_eq_div_pow]
  change hash.toNat / 2 ^ 40 ≤ 0xFFFFFF
  omega

/-- The UID of an entity is its hash, divided as an integer. -/
theorem entityUid_toNat (hash : UInt64) : (entityUid hash).toNat = hash.toNat / uidScale :=
  UInt64.toNat_div _ _

/-! ## Numbered records -/

/-- Live records of new properties of an entity, numbered from `first` on in the order of their
names. -/
def PropertyRecord.numbered (uid : UInt64) (first : Nat) (names : List String) :
    List PropertyRecord :=
  names.mapIdx fun k name =>
    ⟨⟨UInt32.ofNat (first + k), UInt64.ofNat (uid.toNat * uidScale + (first + k))⟩, name, false⟩

/-- The numbers of `count` properties from `first` on fit their words, and so do their UIDs. -/
def Numberable (uid : UInt64) (first count : Nat) : Prop :=
  ∀ k < count, first + k < UInt32.size ∧ uid.toNat * uidScale + (first + k) < UInt64.size

theorem numberable_succ_iff {uid : UInt64} {first count : Nat} :
    Numberable uid first (count + 1) ↔
      (first < UInt32.size ∧ uid.toNat * uidScale + first < UInt64.size) ∧
        Numberable uid (first + 1) count := by
  constructor
  · intro h
    refine ⟨by simpa using h 0 (by omega), fun k hk => ?_⟩
    rw [show first + 1 + k = first + (k + 1) by omega]
    exact h (k + 1) (by omega)
  · rintro ⟨h₀, h⟩ k hk
    rcases k with _ | k
    · simpa using h₀
    · rw [show first + (k + 1) = first + 1 + k by omega]
      exact h k (by omega)

namespace PropertyRecord

variable {uid : UInt64} {first : Nat}

@[simp] theorem numbered_nil : numbered uid first [] = [] := rfl

theorem numbered_cons (name : String) (names : List String) :
    numbered uid first (name :: names) =
      ⟨⟨UInt32.ofNat first, UInt64.ofNat (uid.toNat * uidScale + first)⟩, name, false⟩ ::
        numbered uid (first + 1) names := by
  unfold numbered
  rw [List.mapIdx_cons]
  refine congrArg₂ List.cons rfl (congrArg (fun f => List.mapIdx f names) ?_)
  funext k name
  rw [show first + (k + 1) = first + 1 + k by omega]

@[simp] theorem length_numbered (names : List String) :
    (numbered uid first names).length = names.length := by
  simp [numbered]

@[simp] theorem map_name_numbered (names : List String) :
    (numbered uid first names).map (·.name) = names := by
  induction names generalizing first with
  | nil => rfl
  | cons name names ih => rw [numbered_cons, List.map_cons, ih]

/-- The records are numbered consecutively. -/
theorem map_id_numbered {names : List String} (h : Numberable uid first names.length) :
    (numbered uid first names).map (·.id.id.toNat) = List.range' first names.length := by
  induction names generalizing first with
  | nil => rfl
  | cons name names ih =>
      obtain ⟨⟨hid, -⟩, hrest⟩ := numberable_succ_iff.mp h
      rw [numbered_cons, List.map_cons, ih hrest, List.length_cons, List.range'_succ,
        UInt32.toNat_ofNat_of_lt' hid]

/-- A numbered record is live. -/
theorem retired_of_mem_numbered {names : List String} {p : PropertyRecord}
    (hp : p ∈ numbered uid first names) : p.retired = false := by
  rw [numbered, List.mem_mapIdx] at hp
  obtain ⟨k, hk, rfl⟩ := hp
  rfl

/-- A numbered record is live, has its number in range and its UID in exact arithmetic. -/
theorem of_mem_numbered {names : List String} (h : Numberable uid first names.length)
    {p : PropertyRecord} (hp : p ∈ numbered uid first names) :
    p.retired = false ∧ first ≤ p.id.id.toNat ∧ p.id.id.toNat < first + names.length ∧
      p.id.uid.toNat = uid.toNat * uidScale + p.id.id.toNat := by
  rw [numbered, List.mem_mapIdx] at hp
  obtain ⟨k, hk, rfl⟩ := hp
  obtain ⟨hid, huid⟩ := h k hk
  dsimp only
  rw [UInt32.toNat_ofNat_of_lt' hid, UInt64.toNat_ofNat_of_lt' huid]
  exact ⟨rfl, by omega, by omega, rfl⟩

/-- The UIDs of consecutive numbers, as integers. -/
theorem map_uid_numbered {names : List String} (h : Numberable uid first names.length) :
    (numbered uid first names).map (·.id.uid.toNat) =
      (List.range' first names.length).map (uid.toNat * uidScale + ·) := by
  rw [← map_id_numbered h, List.map_map]
  refine List.map_congr_left fun p hp => ?_
  exact (of_mem_numbered h hp).2.2.2

/-- Properties are numbered from `first` on, and each has the UID of its entity and its number: as
integers, without a word that wrapped. -/
def NumberedFrom (uid : UInt64) (first : Nat) (ps : List PropertyRecord) : Prop :=
  ∀ k p, ps[k]? = some p →
    p.id.id.toNat = first + k ∧ p.id.uid.toNat = uid.toNat * uidScale + (first + k)

/-- Numbers that fit their words are those in the records. -/
theorem numberedFrom_numbered {names : List String} (h : Numberable uid first names.length) :
    NumberedFrom uid first (numbered uid first names) := by
  intro k p hp
  rw [numbered, List.getElem?_mapIdx] at hp
  obtain ⟨name, hname, rfl⟩ := Option.map_eq_some_iff.mp hp
  obtain ⟨hk, -⟩ := List.getElem?_eq_some_iff.mp hname
  obtain ⟨hid, huid⟩ := h k hk
  exact ⟨UInt32.toNat_ofNat_of_lt' hid, UInt64.toNat_ofNat_of_lt' huid⟩

/-- Distinct numbers make distinct words. -/
theorem nodup_id_numbered {names : List String} (h : Numberable uid first names.length) :
    ((numbered uid first names).map (·.id.id)).Nodup := by
  have hnat : (((numbered uid first names).map (·.id.id)).map (·.toNat)).Nodup := by
    rw [List.map_map]
    exact (map_id_numbered h) ▸ List.nodup_range'
  exact List.Nodup.of_map _ hnat

/-- The last of some numbered records has the highest number. -/
theorem id_le_getLast?_numbered {names : List String} (h : Numberable uid first names.length)
    {p : PropertyRecord} (hp : p ∈ numbered uid first names) :
    ∃ last, (numbered uid first names).getLast? = some last ∧
      last.id.id.toNat + 1 = first + names.length ∧ p.id.id ≤ last.id.id := by
  have hlt := (of_mem_numbered h hp).2.2.1
  have hne : numbered uid first names ≠ [] := List.ne_nil_of_mem hp
  refine ⟨_, List.getLast?_eq_some_getLast hne, ?_⟩
  have hids := map_id_numbered h
  have hlen : 0 < names.length := by
    have hpos := List.length_pos_iff.mpr hne
    rwa [length_numbered] at hpos
  -- the numbers are a range, and the last of a range is its highest
  have hlast : ((numbered uid first names).getLast hne).id.id.toNat =
      first + (names.length - 1) := by
    have hget : ((numbered uid first names).map (·.id.id.toNat)).getLast? =
        some (((numbered uid first names).getLast hne).id.id.toNat) := by
      rw [List.getLast?_map, List.getLast?_eq_some_getLast hne]
      rfl
    rw [hids, List.getLast?_range'] at hget
    split at hget
    · omega
    · simp only [Option.some.injEq] at hget
      omega
  refine ⟨by omega, ?_⟩
  rw [UInt32.le_iff_toNat_le]
  omega

end PropertyRecord

end RecordSchema
