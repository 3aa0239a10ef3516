/-
Lists of things that a key tells apart.

Names, numeric IDs and UIDs are all used in the same two ways. A list grows by things whose keys are
new to it, which `NewTo` states of a whole series of additions at once. And in a list whose keys are
distinct a thing is found, and replaced where it stands, by its key alone: looking for the first
match and writing to its position is the same as mapping over the list.
-/
import Mathlib.Data.List.Nodup
import Mathlib.Data.List.Perm.Subperm
import Mathlib.Tactic.Tauto

set_option autoImplicit false

namespace RecordSchema

/-! ## New keys -/

section NewTo

variable {α : Type}

/-- The keys differ from each other and from those before them. -/
def NewTo (before keys : List α) : Prop := keys.Nodup ∧ ∀ k ∈ keys, k ∉ before

instance [DecidableEq α] (before keys : List α) : Decidable (NewTo before keys) :=
  inferInstanceAs (Decidable (_ ∧ _))

@[simp] theorem newTo_nil (before : List α) : NewTo before [] := by simp [NewTo]

@[simp] theorem newTo_empty_iff (keys : List α) : NewTo [] keys ↔ keys.Nodup := by simp [NewTo]

/-- Only membership in the keys before counts. -/
theorem NewTo.congr {before before' keys : List α} (h : ∀ k, k ∈ before ↔ k ∈ before') :
    NewTo before keys ↔ NewTo before' keys := by
  simp only [NewTo, h]

/-- What is new to more keys is new to some of them. -/
theorem NewTo.mono {before before' keys : List α} (hsub : before' ⊆ before)
    (h : NewTo before keys) : NewTo before' keys :=
  ⟨h.1, fun k hk hmem => h.2 k hk (hsub hmem)⟩

/-- Some of several new keys are new, in whatever order. -/
theorem NewTo.subperm {before keys more : List α} (h : NewTo before more)
    (hsub : keys.Subperm more) : NewTo before keys := by
  obtain ⟨middle, hperm, hsublist⟩ := hsub
  refine ⟨hperm.nodup_iff.mp (h.1.sublist hsublist), fun k hk => ?_⟩
  exact h.2 k (hsublist.subset (hperm.mem_iff.mpr hk))

theorem newTo_cons_iff {before keys : List α} {k : α} :
    NewTo before (k :: keys) ↔ k ∉ before ∧ NewTo (k :: before) keys := by
  simp only [NewTo, List.nodup_cons, List.mem_cons]
  constructor
  · rintro ⟨⟨hk, hnd⟩, hb⟩
    refine ⟨hb k (Or.inl rfl), hnd, fun x hx => ?_⟩
    rintro (rfl | hxb)
    · exact hk hx
    · exact hb x (Or.inr hx) hxb
  · rintro ⟨hk, hnd, hb⟩
    refine ⟨⟨fun h => hb k h (Or.inl rfl), hnd⟩, ?_⟩
    rintro x (rfl | hx)
    · exact hk
    · exact fun h => hb x hx (Or.inr h)

theorem newTo_append_iff {before keys more : List α} :
    NewTo before (keys ++ more) ↔ NewTo before keys ∧ NewTo (keys ++ before) more := by
  induction keys generalizing before with
  | nil => simp
  | cons k keys ih =>
      have hcomm : ∀ x, x ∈ keys ++ k :: before ↔ x ∈ k :: keys ++ before := by
        intro x
        simp only [List.mem_append, List.mem_cons, List.cons_append]
        tauto
      rw [List.cons_append, newTo_cons_iff, newTo_cons_iff, ih, NewTo.congr hcomm]
      tauto

/-- Keys that are new to distinct ones make distinct ones with them. -/
theorem nodup_append_iff_newTo {before keys : List α} :
    (before ++ keys).Nodup ↔ before.Nodup ∧ NewTo before keys := by
  rw [← newTo_empty_iff, newTo_append_iff, newTo_empty_iff, List.append_nil]

/-- The same with the keys in the order in which they come. -/
theorem newTo_behind_iff {before keys more : List α} :
    NewTo before (keys ++ more) ↔ NewTo before keys ∧ NewTo (before ++ keys) more := by
  rw [newTo_append_iff]
  refine and_congr_right fun _ => NewTo.congr fun k => ?_
  rw [List.mem_append, List.mem_append, or_comm]

/-- Keys that are new one batch after the other are new the other way round. -/
theorem newTo_comm {before keys more : List α} :
    NewTo before keys ∧ NewTo (before ++ keys) more ↔
      NewTo before more ∧ NewTo (before ++ more) keys := by
  have hperm : (keys ++ more).Perm (more ++ keys) := List.perm_append_comm
  rw [← newTo_behind_iff, ← newTo_behind_iff]
  exact ⟨fun h => h.subperm hperm.symm.subperm, fun h => h.subperm hperm.subperm⟩

/-- Keys that can be told apart by a function are new exactly if what it makes of them is. -/
theorem newTo_map_iff {β : Type} {f : α → β} (hf : Function.Injective f) {before keys : List α} :
    NewTo (before.map f) (keys.map f) ↔ NewTo before keys := by
  unfold NewTo
  rw [List.nodup_map_iff hf, List.forall_mem_map]
  simp only [List.mem_map_of_injective hf]

theorem newTo_singleton_iff {before : List α} {k : α} : NewTo before [k] ↔ k ∉ before := by
  simp [newTo_cons_iff]

/-- Keeping the first of each key leaves distinct keys. -/
theorem nodup_eraseDups [DecidableEq α] (keys : List α) : keys.eraseDups.Nodup := by
  -- what is left after the first key is a filtered list, which is shorter but no tail, so the
  -- induction is on the length
  induction hlen : keys.length using Nat.strongRecOn generalizing keys with
  | ind n ih =>
      cases keys with
      | nil => simp
      | cons k keys =>
          have hle := List.length_filter_le (fun x => !x == k) keys
          simp only [List.length_cons] at hlen
          rw [List.eraseDups_cons, List.nodup_cons]
          refine ⟨?_, ih _ (by omega) _ rfl⟩
          simp [List.mem_eraseDups]

/-- Distinct keys are all kept. -/
theorem eraseDups_of_nodup [DecidableEq α] {keys : List α} (h : keys.Nodup) :
    keys.eraseDups = keys := by
  induction keys with
  | nil => rfl
  | cons k keys ih =>
      obtain ⟨hk, hkeys⟩ := List.nodup_cons.mp h
      have hkept : keys.filter (fun x => !x == k) = keys := by
        rw [List.filter_eq_self]
        intro x hx
        have hne : x ≠ k := fun he => hk (he ▸ hx)
        simpa using hne
      rw [List.eraseDups_cons, hkept, ih hkeys]

end NewTo

/-! ## Distinct keys -/

section Keyed

variable {α β : Type} [DecidableEq β] {key : α → β} {xs : List α} {x : α}

omit [DecidableEq β] in
/-- Under distinct keys one thing stands between others with other keys. -/
theorem exists_split_of_nodup_map (h : (xs.map key).Nodup) (hx : x ∈ xs) :
    ∃ before after, xs = before ++ x :: after ∧ (∀ y ∈ before, key y ≠ key x) ∧
      ∀ y ∈ after, key y ≠ key x := by
  obtain ⟨before, after, rfl⟩ := List.append_of_mem hx
  rw [List.map_append, List.map_cons, List.nodup_middle, ← List.map_append, List.nodup_cons,
    List.mem_map] at h
  have hne : ∀ y ∈ before ++ after, key y ≠ key x := fun y hy he => h.1 ⟨y, hy, he⟩
  exact ⟨before, after, rfl, fun y hy => hne y (List.mem_append_left _ hy),
    fun y hy => hne y (List.mem_append_right _ hy)⟩

/-- Under distinct keys a thing is found by its key. -/
theorem find?_key_eq_some_iff (h : (xs.map key).Nodup) {k : β} :
    xs.find? (fun y => key y = k) = some x ↔ x ∈ xs ∧ key x = k := by
  constructor
  · intro hf
    exact ⟨List.mem_of_find?_eq_some hf, by simpa using List.find?_some hf⟩
  · rintro ⟨hx, rfl⟩
    obtain ⟨before, after, rfl, hb, -⟩ := exists_split_of_nodup_map h hx
    rw [List.find?_append, List.find?_eq_none.mpr (by simpa using hb)]
    simp

theorem find?_key_eq_none_iff (key : α → β) (xs : List α) {k : β} :
    xs.find? (fun y => key y = k) = none ↔ k ∉ xs.map key := by
  simp [List.find?_eq_none]

/-- Under distinct keys nothing but what is found by a key has it. -/
theorem filter_key_eq (h : (xs.map key).Nodup) (k : β) :
    (xs.filter fun y => key y = k) = (xs.find? fun y => key y = k).toList := by
  cases hf : xs.find? fun y => key y = k with
  | none => exact List.filter_eq_nil_iff.mpr (List.find?_eq_none.mp hf)
  | some x =>
      obtain ⟨hx, rfl⟩ := (find?_key_eq_some_iff h).mp hf
      obtain ⟨before, after, rfl, hb, ha⟩ := exists_split_of_nodup_map h hx
      have hbefore : (before.filter fun y => key y = key x) = [] := by simpa using hb
      have hafter : (after.filter fun y => key y = key x) = [] := by simpa using ha
      rw [List.filter_append, List.filter_cons_of_pos (by simp), hbefore, hafter]
      rfl

/-- Under distinct keys the order does not matter for what is found. -/
theorem find?_key_perm {ys : List α} (h : (xs.map key).Nodup) (hperm : ys.Perm xs) (k : β) :
    ys.find? (fun y => key y = k) = xs.find? (fun y => key y = k) := by
  have hys : (ys.map key).Nodup := (hperm.map key).nodup_iff.mpr h
  apply Option.ext
  intro x
  rw [find?_key_eq_some_iff hys, find?_key_eq_some_iff h, hperm.mem_iff]

/-- A thing that is found by its key stands at the position that is found by it. -/
theorem findIdx?_of_find? {k : β} (hf : xs.find? (fun y => key y = k) = some x) :
    ∃ i, xs.findIdx? (fun y => key y = k) = some i ∧ xs[i]? = some x := by
  obtain ⟨-, before, after, rfl, hb⟩ := List.find?_eq_some_iff_append.mp hf
  refine ⟨before.length, ?_, by simp⟩
  have hk := List.find?_some hf
  rw [List.findIdx?_append, List.findIdx?_eq_none_iff.mpr (by simpa using hb),
    List.findIdx?_cons, if_pos hk]
  simp

/-- The thing found under a key stands at the position of the key. -/
theorem getElem?_of_findIdx? {k : β} {i : Nat} (hf : xs.find? (fun y => key y = k) = some x)
    (hi : xs.findIdx? (fun y => key y = k) = some i) : xs[i]? = some x := by
  obtain ⟨j, hj, hget⟩ := findIdx?_of_find? hf
  obtain rfl : j = i := Option.some.inj (hj.symm.trans hi)
  exact hget

/-- Replacing the thing at the position of a key is mapping over the list. -/
theorem set_findIdx?_eq_map (h : (xs.map key).Nodup) {k : β} {i : Nat}
    (hf : xs.find? (fun y => key y = k) = some x)
    (hi : xs.findIdx? (fun y => key y = k) = some i) (f : α → α) :
    xs.set i (f x) = xs.map fun y => if key y = k then f y else y := by
  obtain ⟨hx, rfl⟩ := (find?_key_eq_some_iff h).mp hf
  obtain ⟨before, after, rfl, hb, ha⟩ := exists_split_of_nodup_map h hx
  have hlen : i = before.length := by
    rw [List.findIdx?_append, List.findIdx?_eq_none_iff.mpr (by simpa using hb)] at hi
    simpa [List.findIdx?_cons, eq_comm] using hi
  -- the map can change only the thing in the middle: no other has its key
  rw [hlen, List.set_append_right _ _ (Nat.le_refl _), Nat.sub_self, List.set_cons_zero,
    List.map_append, List.map_cons, if_pos rfl]
  have hid : ∀ ys : List α, (∀ y ∈ ys, key y ≠ key x) →
      ys.map (fun y => if key y = key x then f y else y) = ys := by
    intro ys hys
    rw [List.map_congr_left fun y hy => if_neg (hys y hy), List.map_id']
  rw [hid before hb, hid after ha]

end Keyed

/-! ## Things of which there is one -/

section CountP

variable {α : Type} {p : α → Bool} {xs : List α} {x : α}

/-- Where at most one thing has a property, nothing in front of it has. -/
theorem not_of_countP_le_one {before after : List α}
    (h : (before ++ x :: after).countP p ≤ 1) (hx : p x = true) : ∀ y ∈ before, ¬p y = true := by
  rw [← List.countP_eq_zero]
  rw [List.countP_append, List.countP_cons_of_pos hx] at h
  omega

/-- The only thing that has a property is found by it. -/
theorem find?_eq_some_of_countP_le_one (h : xs.countP p ≤ 1) (hmem : x ∈ xs) (hx : p x = true) :
    xs.find? p = some x := by
  obtain ⟨before, after, rfl⟩ := List.append_of_mem hmem
  rw [List.find?_append, List.find?_eq_none.mpr (not_of_countP_le_one h hx), Option.none_or,
    List.find?_cons_of_pos hx]

/-- The only thing that has a property is all that is left of those that have it. -/
theorem filter_eq_singleton_of_countP_le_one (h : xs.countP p ≤ 1) (hmem : x ∈ xs)
    (hx : p x = true) : xs.filter p = [x] := by
  have hkept : x ∈ xs.filter p := List.mem_filter.mpr ⟨hmem, hx⟩
  rw [List.countP_eq_length_filter] at h
  obtain ⟨y, hy⟩ := List.length_eq_one_iff.mp (Nat.le_antisymm h (List.length_pos_of_mem hkept))
  rw [hy, List.mem_singleton] at hkept
  rw [hy, hkept]

/-- The position of the only thing that has a property is found by it. -/
theorem findIdx?_eq_some_of_countP_le_one {i : Nat} (h : xs.countP p ≤ 1) (hi : xs[i]? = some x)
    (hx : p x = true) : xs.findIdx? p = some i := by
  obtain ⟨hlt, rfl⟩ := List.getElem?_eq_some_iff.mp hi
  rw [← List.take_append_drop i xs, List.drop_eq_getElem_cons hlt] at h
  rw [List.findIdx?_eq_some_iff_getElem]
  refine ⟨hlt, hx, fun j hj => not_of_countP_le_one h hx _ ?_⟩
  exact List.mem_take_iff_getElem.mpr ⟨j, by omega, rfl⟩

end CountP

/-! ## Tables -/

section Lookup

variable {α β : Type} [DecidableEq α] {table : List (α × β)} {k : α}

/-- In a table of distinct keys the entry of a key is looked up. -/
theorem lookup_eq_some_iff_mem (h : (table.map (·.1)).Nodup) {v : β} :
    table.lookup k = some v ↔ (k, v) ∈ table := by
  rw [List.lookup_eq_some_iff]
  constructor
  · rintro ⟨before, after, rfl, -⟩
    exact List.mem_append_right _ List.mem_cons_self
  · intro hmem
    obtain ⟨before, after, rfl, hb, -⟩ := exists_split_of_nodup_map h hmem
    refine ⟨before, after, rfl, fun entry hentry => ?_⟩
    simpa using (hb entry hentry).symm

/-- Nothing is looked up for a key that the table does not have. -/
theorem lookup_eq_none_iff_notMem : table.lookup k = none ↔ k ∉ table.map (·.1) := by
  simp only [List.lookup_eq_none_iff, List.mem_map, not_exists, not_and, bne_iff_ne]
  exact forall₂_congr fun p _ => ne_comm

end Lookup

end RecordSchema
