/-
Results that may be refusals.

Checks and derivations are chains of steps, each of which ends the chain with a refusal or goes on.
What a chain that came out says of its steps is read off it one step at a time. A chain that takes
the same step for each entry of a list comes out if the step does for all of them, and is refused
for the first for which it is.
-/
import RecordSchema.Proofs.Pairing

set_option autoImplicit false

namespace RecordSchema

variable {ε ε' α β : Type}

/-- A chain comes out exactly when its first step does and the rest comes out of that. -/
theorem bind_eq_ok_iff {x : Except ε β} {f : β → Except ε α} {a : α} :
    (x >>= f) = .ok a ↔ ∃ b, x = .ok b ∧ f b = .ok a := by
  cases x <;> simp [bind, Except.bind]

/-- A chain is refused exactly by its first step, or by the rest of it after that step. -/
theorem bind_eq_error_iff {x : Except ε β} {f : β → Except ε α} {e : ε} :
    (x >>= f) = .error e ↔ x = .error e ∨ ∃ b, x = .ok b ∧ f b = .error e := by
  cases x <;> simp [bind, Except.bind]

/-- A guard that throws lets a chain go on exactly when its condition is false. -/
theorem guard_eq_ok_iff {c : Prop} [Decidable c] {e : ε} {f : β → Except ε α}
    {next : Except ε α} {a : α} :
    (if c then (throw e : Except ε β) >>= f else next) = .ok a ↔ ¬c ∧ next = .ok a := by
  by_cases h : c
  · rw [if_pos h]
    simp [h, bind, Except.bind, throw, throwThe, MonadExceptOf.throw]
  · rw [if_neg h]
    simp [h]

/-- A guard that throws refuses a chain by its own refusal if its condition is true, and else leaves
it to the rest. -/
theorem guard_eq_error_iff {c : Prop} [Decidable c] {e err : ε} {f : β → Except ε α}
    {next : Except ε α} :
    (if c then (throw e : Except ε β) >>= f else next) = .error err ↔
      c ∧ e = err ∨ ¬c ∧ next = .error err := by
  by_cases h : c
  · rw [if_pos h]
    simp [h, bind, Except.bind, throw, throwThe, MonadExceptOf.throw]
  · rw [if_neg h]
    simp [h]

/-- Saying a refusal in other words changes nothing about what comes out. -/
theorem mapError_eq_ok_iff {x : Except ε α} {f : ε → ε'} {a : α} :
    x.mapError f = .ok a ↔ x = .ok a := by
  cases x with
  | error e => exact iff_of_false (fun h => by cases h) (fun h => by cases h)
  | ok b =>
      change Except.ok b = .ok a ↔ Except.ok b = .ok a
      rw [Except.ok.injEq, Except.ok.injEq]

/-- What a mapped result comes out with is the image of what came out before. -/
theorem map_eq_ok_iff {x : Except ε β} {f : β → α} {a : α} :
    x.map f = .ok a ↔ ∃ b, x = .ok b ∧ f b = a := by
  cases x <;> simp [Except.map]

/-- Mapping a result changes nothing about its refusal. -/
theorem map_eq_error_iff {x : Except ε β} {f : β → α} {e : ε} :
    x.map f = .error e ↔ x = .error e := by
  cases x <;> simp [Except.map]

/-- A result that is not a refusal has a value. -/
theorem exists_eq_ok {x : Except ε α} (h : x.isOk = true) : ∃ a, x = .ok a := by
  cases x with
  | error e => cases h
  | ok a => exact ⟨a, rfl⟩

/-- A result that is a refusal has an error. -/
theorem exists_eq_error {x : Except ε α} (h : x.isOk = false) : ∃ e, x = .error e := by
  cases x with
  | error e => exact ⟨e, rfl⟩
  | ok a => cases h

/-- Of two results either both come out or neither does, if each comes out where the other does. -/
theorem isOk_eq_of_imp {x : Except ε α} {y : Except ε' β} (h : ∀ a, x = .ok a → ∃ b, y = .ok b)
    (h' : ∀ b, y = .ok b → ∃ a, x = .ok a) : x.isOk = y.isOk := by
  cases x with
  | ok a =>
      obtain ⟨b, rfl⟩ := h a rfl
      rfl
  | error e =>
      cases y with
      | ok b =>
          obtain ⟨a, ha⟩ := h' b rfl
          cases ha
      | error e' => rfl

/-- Where a list of results are the values of a list, each of them is a value. -/
theorem exists_ok_of_map_eq_map_ok {f : β → Except ε α} {xs : List β} {as : List α}
    (h : xs.map f = as.map .ok) {x : β} (hx : x ∈ xs) : ∃ a ∈ as, f x = .ok a := by
  have hmem : f x ∈ as.map Except.ok := h ▸ List.mem_map_of_mem hx
  obtain ⟨a, ha, heq⟩ := List.mem_map.mp hmem
  exact ⟨a, ha, heq.symm⟩

/-! ## One step for each entry of a list -/

section Entries

variable {f : β → Except ε α} {xs : List β}

/-- What comes out goes with the list entry by entry. -/
theorem mapM_eq_ok_iff {as : List α} :
    xs.mapM f = .ok as ↔ List.Forall₂ (fun x a => f x = .ok a) xs as := by
  induction xs generalizing as with
  | nil =>
      rw [List.forall₂_nil_left_iff, List.mapM_nil]
      change Except.ok [] = .ok as ↔ as = []
      rw [Except.ok.injEq, eq_comm]
  | cons x xs ih =>
      rw [List.mapM_cons, bind_eq_ok_iff, List.forall₂_cons_left_iff]
      constructor
      · rintro ⟨a, ha, h⟩
        obtain ⟨more, hmore, h⟩ := bind_eq_ok_iff.mp h
        exact ⟨a, more, ha, ih.mp hmore, (Except.ok.inj h).symm⟩
      · rintro ⟨a, more, ha, hmore, rfl⟩
        exact ⟨a, ha, bind_eq_ok_iff.mpr ⟨more, ih.mpr hmore, rfl⟩⟩

theorem exists_mapM_iff : (∃ as, xs.mapM f = .ok as) ↔ ∀ x ∈ xs, ∃ a, f x = .ok a := by
  constructor
  · rintro ⟨as, h⟩ x hx
    obtain ⟨a, -, ha⟩ := exists_mem_of_forall₂ (mapM_eq_ok_iff.mp h) hx
    exact ⟨a, ha⟩
  · intro h
    obtain ⟨as, has⟩ := exists_forall₂ (R := fun a x => f x = .ok a) h
    exact ⟨as, mapM_eq_ok_iff.mpr has.flip⟩

/-- A refusal is that of the first entry that has one. -/
theorem mapM_eq_error_iff {e : ε} : xs.mapM f = .error e ↔ ∃ front x back,
    xs = front ++ x :: back ∧ (∀ y ∈ front, ∃ a, f y = .ok a) ∧ f x = .error e := by
  constructor
  · intro h
    induction xs with
    | nil => cases h
    | cons x xs ih =>
        rw [List.mapM_cons] at h
        rcases bind_eq_error_iff.mp h with hx | ⟨a, ha, h⟩
        · exact ⟨[], x, xs, rfl, List.forall_mem_nil _, hx⟩
        · rcases bind_eq_error_iff.mp h with hrest | ⟨more, -, h⟩
          · obtain ⟨front, y, back, rfl, hfront, hy⟩ := ih hrest
            exact ⟨x :: front, y, back, rfl, List.forall_mem_cons.mpr ⟨⟨a, ha⟩, hfront⟩, hy⟩
          · cases h
  · rintro ⟨front, x, back, rfl, hfront, hx⟩
    induction front with
    | nil =>
        rw [List.nil_append, List.mapM_cons]
        exact bind_eq_error_iff.mpr (.inl hx)
    | cons y front ih =>
        obtain ⟨⟨a, ha⟩, hfront⟩ := List.forall_mem_cons.mp hfront
        rw [List.cons_append, List.mapM_cons]
        exact bind_eq_error_iff.mpr (.inr ⟨a, ha, bind_eq_error_iff.mpr (.inl (ih hfront))⟩)

end Entries

end RecordSchema
