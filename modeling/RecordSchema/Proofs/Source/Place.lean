/-
Places of records in a tree of items.

The items of a source are those of one module, and the modules in it make a tree. A record stands at
a place in that tree: the positions of the modules around it from the outermost inwards, and its own
position behind them. Places are compared in the order of the text, position by position, so the
record that starts first comes first. `Item.placed` lists the records of an item with their places;
the list has every record that stands anywhere (`mem_placed_iff`), and it is in the order of the
text (`pairwise_placed`), which leaves no room for a record twice.
-/
import RecordSchema.Source.Item

set_option autoImplicit false

namespace RecordSchema.Source

/-! ## Places -/

/-- A record stands in an item at a place: it is the item, or it stands in one of its items. -/
inductive Item.Holds : Item → List Nat → Record → Prop where
  | self (r : Record) : Holds (.record r) [] r
  | inside {items : List Item} {i : Nat} {item : Item} {path : List Nat} {r : Record}
      (hitem : items[i]? = some item) (h : Holds item path r) :
      Holds (.module items) (i :: path) r

mutual

/-- The records in an item with their places, in the order of the text. -/
def Item.placed : Item → List (List Nat × Record)
  | .record r => [([], r)]
  | .module items => Item.allPlaced 0 items
  | .other => []

/-- The records in items of which the first has a given position. -/
def Item.allPlaced (i : Nat) : List Item → List (List Nat × Record)
  | [] => []
  | item :: rest =>
    (item.placed.map fun place => (i :: place.1, place.2)) ++ Item.allPlaced (i + 1) rest

end

/-- Seen from the items around it, the places in an item start with its position. -/
theorem mem_map_cons_iff {places : List (List Nat × Record)} {i : Nat} {path : List Nat}
    {r : Record} : (path, r) ∈ places.map (fun place => (i :: place.1, place.2)) ↔
      ∃ tail, path = i :: tail ∧ (tail, r) ∈ places := by
  rw [List.mem_map]
  constructor
  · rintro ⟨⟨tail, q⟩, hmem, heq⟩
    obtain ⟨hpath, rfl⟩ := Prod.mk.inj heq
    exact ⟨tail, hpath.symm, hmem⟩
  · rintro ⟨tail, rfl, hmem⟩
    exact ⟨(tail, r), hmem, rfl⟩

mutual

/-- The list has the records that stand in the item, at their places. -/
theorem Item.mem_placed_iff : ∀ (item : Item) (path : List Nat) (r : Record),
    (path, r) ∈ item.placed ↔ item.Holds path r
  | .record q, path, r => by
      rw [Item.placed, List.mem_singleton, Prod.mk.injEq]
      constructor
      · rintro ⟨rfl, rfl⟩
        exact .self _
      · intro h
        cases h
        exact ⟨rfl, rfl⟩
  | .module items, path, r => by
      rw [Item.placed, Item.mem_allPlaced_iff 0 items path r]
      constructor
      · rintro ⟨i, tail, item, rfl, hitem, h⟩
        rw [Nat.zero_add]
        exact .inside hitem h
      · intro h
        cases h with
        | inside hitem h => exact ⟨_, _, _, by rw [Nat.zero_add], hitem, h⟩
  | .other, path, r => by
      rw [Item.placed]
      constructor
      · intro h
        cases h
      · intro h
        cases h

theorem Item.mem_allPlaced_iff (n : Nat) : ∀ (items : List Item) (path : List Nat) (r : Record),
    (path, r) ∈ Item.allPlaced n items ↔ ∃ i tail item, path = (n + i) :: tail ∧
      items[i]? = some item ∧ item.Holds tail r
  | [], path, r => by simp [Item.allPlaced]
  | first :: rest, path, r => by
      rw [Item.allPlaced, List.mem_append, mem_map_cons_iff,
        Item.mem_allPlaced_iff (n + 1) rest path r]
      constructor
      · rintro (⟨tail, rfl, hmem⟩ | ⟨i, tail, item, rfl, hitem, h⟩)
        · exact ⟨0, tail, first, rfl, rfl, (Item.mem_placed_iff first tail r).mp hmem⟩
        · exact ⟨i + 1, tail, item, by rw [Nat.add_assoc, Nat.add_comm 1], hitem, h⟩
      · rintro ⟨i, tail, item, rfl, hitem, h⟩
        cases i with
        | zero =>
            obtain rfl : first = item := Option.some.inj hitem
            exact .inl ⟨tail, rfl, (Item.mem_placed_iff first tail r).mpr h⟩
        | succ i => exact .inr ⟨i, tail, item, by rw [Nat.add_assoc, Nat.add_comm 1], hitem, h⟩

end

/-! ## The order of the text -/

mutual

/-- The list is in the order of the text. -/
theorem Item.pairwise_placed : ∀ item : Item, item.placed.Pairwise fun p q => p.1 < q.1
  | .record _ => by
      rw [Item.placed]
      exact List.pairwise_singleton _ _
  | .module items => by
      rw [Item.placed]
      exact Item.pairwise_allPlaced 0 items
  | .other => by
      rw [Item.placed]
      exact .nil

theorem Item.pairwise_allPlaced (n : Nat) : ∀ items : List Item,
    (Item.allPlaced n items).Pairwise fun p q => p.1 < q.1
  | [] => by
      rw [Item.allPlaced]
      exact .nil
  | first :: rest => by
      rw [Item.allPlaced, List.pairwise_append, List.pairwise_map]
      refine ⟨?_, Item.pairwise_allPlaced (n + 1) rest, ?_⟩
      · refine (Item.pairwise_placed first).imp ?_
        intro p q h
        exact List.cons_lt_cons_iff.mpr (.inr ⟨rfl, h⟩)
      · -- what stands in the first item is in front because of the first position alone
        rintro ⟨path, q⟩ hfirst ⟨path', q'⟩ hrest
        obtain ⟨tail, rfl, -⟩ := mem_map_cons_iff.mp hfirst
        obtain ⟨i, tail', item, rfl, -, -⟩ :=
          (Item.mem_allPlaced_iff (n + 1) rest path' q').mp hrest
        exact List.cons_lt_cons_iff.mpr (.inl (by omega))

end

/-! ## Modules around items -/

/-- Some items in a row, there or in a module at any depth, are put into a module of their own. -/
inductive Item.Wraps : List Item → List Item → Prop where
  | here (front run back : List Item) :
      Wraps (front ++ (run ++ back)) (front ++ .module run :: back)
  | inside {items others : List Item} (front back : List Item) (h : Wraps items others) :
      Wraps (front ++ .module items :: back) (front ++ .module others :: back)

end RecordSchema.Source
