/-
Lists that go together entry by entry.

Building, identifying and publishing each turn a list of things into a list of other things in the
same order. What they say of two such lists is a relation that every pair satisfies; here is how to
get such lists, how to take them apart, and what one list says about the other.
-/
import Mathlib.Data.List.Forall2

set_option autoImplicit false

namespace RecordSchema

variable {α β γ : Type} {R : α → β → Prop} {xs : List α} {ys : List β}

/-- In two lists that are related element by element, one of an element is in the other. -/
theorem exists_mem_of_forall₂ (h : List.Forall₂ R xs ys) {x : α} (hx : x ∈ xs) :
    ∃ y ∈ ys, R x y := by
  induction h with
  | nil => cases hx
  | cons hone _ ih =>
      rcases List.mem_cons.mp hx with rfl | hx
      · exact ⟨_, List.mem_cons_self, hone⟩
      · obtain ⟨y, hy, hxy⟩ := ih hx
        exact ⟨y, List.mem_cons_of_mem _ hy, hxy⟩

/-- Things that go together are in the lists that do. -/
theorem forall₂_and_mem (h : List.Forall₂ R xs ys) :
    List.Forall₂ (fun x y => x ∈ xs ∧ y ∈ ys ∧ R x y) xs ys := by
  induction h with
  | nil => exact .nil
  | cons hone _ ih =>
      refine .cons ⟨List.mem_cons_self, List.mem_cons_self, hone⟩ (ih.imp ?_)
      rintro x y ⟨hx, hy, hxy⟩
      exact ⟨List.mem_cons_of_mem _ hx, List.mem_cons_of_mem _ hy, hxy⟩

/-- Things that each have one that goes with them have a list that goes with theirs. -/
theorem exists_forall₂ (h : ∀ y ∈ ys, ∃ x, R x y) : ∃ xs, List.Forall₂ R xs ys := by
  induction ys with
  | nil => exact ⟨[], .nil⟩
  | cons y ys ih =>
      obtain ⟨x, hx⟩ := h y List.mem_cons_self
      obtain ⟨xs, hxs⟩ := ih fun z hz => h z (List.mem_cons_of_mem _ hz)
      exact ⟨x :: xs, .cons hx hxs⟩

/-- What goes with a list that goes with a third one. -/
theorem forall₂_trans {S : β → γ → Prop} {zs : List γ} (hxy : List.Forall₂ R xs ys)
    (hyz : List.Forall₂ S ys zs) : List.Forall₂ (fun x z => ∃ y, R x y ∧ S y z) xs zs := by
  induction hxy generalizing zs with
  | nil =>
      cases hyz
      exact .nil
  | cons hone _ ih =>
      cases hyz with
      | cons hother hrest => exact .cons ⟨_, hone, hother⟩ (ih hrest)

/-- Where each thing goes with one that goes with a third, there is a list of those in between. -/
theorem exists_between_of_forall₂ {S : β → γ → Prop} {zs : List γ}
    (h : List.Forall₂ (fun x z => ∃ y, R x y ∧ S y z) xs zs) :
    ∃ ys, List.Forall₂ R xs ys ∧ List.Forall₂ S ys zs := by
  induction h with
  | nil => exact ⟨[], .nil, .nil⟩
  | cons hone _ ih =>
      obtain ⟨y, hxy, hyz⟩ := hone
      obtain ⟨ys, hxs, hzs⟩ := ih
      exact ⟨y :: ys, .cons hxy hxs, .cons hyz hzs⟩

/-- What goes with a list and one thing more. -/
theorem forall₂_concat_iff {y : β} : List.Forall₂ R xs (ys ++ [y]) ↔
    ∃ front x, xs = front ++ [x] ∧ List.Forall₂ R front ys ∧ R x y := by
  rw [← List.forall₂_reverse_iff, List.reverse_append, List.reverse_singleton,
    List.singleton_append, List.forall₂_cons_right_iff]
  constructor
  · rintro ⟨x, back, hxy, hback, heq⟩
    refine ⟨back.reverse, x, ?_, ?_, hxy⟩
    · rw [← List.reverse_reverse xs, heq, List.reverse_cons]
    · rwa [← List.forall₂_reverse_iff, List.reverse_reverse]
  · rintro ⟨front, x, rfl, hfront, hxy⟩
    refine ⟨x, front.reverse, hxy, List.forall₂_reverse_iff.mpr hfront, ?_⟩
    rw [List.reverse_append, List.reverse_singleton, List.singleton_append]

/-- What related things have in common may be read off either list. -/
theorem map_eq_of_forall₂ {f : α → γ} {g : β → γ} (h : List.Forall₂ R xs ys)
    (hfg : ∀ x y, R x y → f x = g y) : xs.map f = ys.map g := by
  rw [← List.forall₂_eq_eq_eq, List.forall₂_map_left_iff, List.forall₂_map_right_iff]
  exact h.imp fun x y hxy => hfg x y hxy

/-- What is found in one of two lists goes with what is found in the other, if both are asked for the
same. -/
theorem find?_of_forall₂ {p : α → Bool} {q : β → Bool} (h : List.Forall₂ R xs ys)
    (hpq : ∀ x y, R x y → p x = q y) {x : α} (hx : xs.find? p = some x) :
    ∃ y, ys.find? q = some y ∧ R x y := by
  induction h with
  | nil => cases hx
  | @cons a b xs ys hone _ ih =>
      cases hp : p a with
      | true =>
          rw [List.find?_cons_of_pos hp, Option.some.injEq] at hx
          refine ⟨b, List.find?_cons_of_pos (hpq a b hone ▸ hp), hx ▸ hone⟩
      | false =>
          rw [List.find?_cons_of_neg (by simp [hp])] at hx
          obtain ⟨y, hy, hxy⟩ := ih hx
          refine ⟨y, ?_, hxy⟩
          rw [List.find?_cons_of_neg (by simp [← hpq a b hone, hp])]
          exact hy

/-- A list made of two parts for each pair has the first parts and then the second ones, up to the
order. -/
theorem flatMap_perm_of_forall₂ {f : α → List γ} {g k : β → List γ} (h : List.Forall₂ R xs ys)
    (hfg : ∀ x y, R x y → k y = f x ++ g y) :
    (ys.flatMap k).Perm (xs.flatMap f ++ ys.flatMap g) := by
  induction h with
  | nil => exact .refl _
  | @cons x y xs ys hone _ ih =>
      rw [List.flatMap_cons, List.flatMap_cons, List.flatMap_cons, hfg x y hone]
      refine (ih.append_left _).trans ?_
      rw [List.append_assoc, List.append_assoc]
      refine List.Perm.append_left _ ?_
      rw [← List.append_assoc, ← List.append_assoc]
      exact List.perm_append_comm.append_right _

/-- Parts of what is made for each thing are parts of what is made for all of them. -/
theorem flatMap_sublist_of_forall₂ {f : α → List γ} {k : β → List γ} (h : List.Forall₂ R xs ys)
    (hfk : ∀ x y, R x y → (f x).Sublist (k y)) : (xs.flatMap f).Sublist (ys.flatMap k) := by
  induction h with
  | nil => exact .slnil
  | cons hone _ ih =>
      rw [List.flatMap_cons, List.flatMap_cons]
      exact (hfk _ _ hone).append ih

end RecordSchema
