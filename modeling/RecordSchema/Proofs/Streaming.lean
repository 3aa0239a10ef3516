/-
Hashing in pieces.

A hasher takes a byte string up in chunks, and a byte string can be hashed at once. Both are folds
of the same step, so all that counts is what was written so far: after each chunk the state is the
hash of everything up to it, wherever the cuts were made (`Hasher.states_eq`).

An entity is hashed in three chunks: its namespace, a space and its name. Together they are the
bytes of one text, and a text is determined by its bytes. A namespace may have spaces of its own. As
long as the name has none, the last space is the one in between, so the text says which part is
which (`flatten_entityChunks_inj`).
-/
import RecordSchema.Proofs.Hash

set_option autoImplicit false

namespace RecordSchema

/-! ## Bytes of a text -/

/-- The bytes of a text are those that it is stored as. -/
theorem toByteArray_utf8Bytes (s : String) : (utf8Bytes s).toByteArray = s.toByteArray := by
  calc (utf8Bytes s).toByteArray
      = (String.ofList s.toList).toByteArray := String.toByteArray_ofList.symm
    _ = s.toByteArray := by rw [String.ofList_toList]

/-- A text is determined by its bytes. -/
theorem utf8Bytes_injective : Function.Injective utf8Bytes := by
  intro s t h
  apply String.toByteArray_inj.mp
  rw [← toByteArray_utf8Bytes, ← toByteArray_utf8Bytes, h]

theorem utf8Bytes_append (s t : String) : utf8Bytes (s ++ t) = utf8Bytes s ++ utf8Bytes t := by
  simp [utf8Bytes]

/-! ## The last place of an entry -/

section LastPlace

variable {α : Type} {front back front' back' : List α} {x : α}

/-- Nothing stands in front of an entry that is at the head of a list and nowhere behind it. -/
private theorem eq_nil_of_notMem_back {between : List α} (hback : x ∉ back)
    (h : x :: back = between ++ x :: back') : between = [] := by
  cases between with
  | nil => rfl
  | cons y between =>
      obtain ⟨-, hrest⟩ := List.cons.inj h
      apply absurd _ hback
      rw [hrest]
      simp

/-- There is one way to cut a list at the last place of an entry. -/
theorem append_cons_inj_of_notMem_back (hback : x ∉ back) (hback' : x ∉ back') :
    front ++ x :: back = front' ++ x :: back' ↔ front = front' ∧ back = back' := by
  constructor
  · intro h
    -- what the longer front has more of would bring the entry behind its last place
    rcases List.append_eq_append_iff.mp h with ⟨between, hfront, hrest⟩ | ⟨between, hfront, hrest⟩
    · obtain rfl := eq_nil_of_notMem_back hback hrest
      rw [List.append_nil] at hfront
      exact ⟨hfront.symm, (List.cons.inj hrest).2⟩
    · obtain rfl := eq_nil_of_notMem_back hback' hrest
      rw [List.append_nil] at hfront
      exact ⟨hfront, (List.cons.inj hrest).2.symm⟩
  · rintro ⟨rfl, rfl⟩
    rfl

end LastPlace

namespace Hash

/-! ## Chunks -/

/-- After each chunk a hasher has taken up all that was written so far. -/
theorem Hasher.states_eq (hasher : Hasher) (chunks : List (List UInt8)) :
    hasher.states chunks = (List.range chunks.length).map fun k =>
      (chunks.take (k + 1)).flatten.foldl absorb hasher.state := by
  induction chunks generalizing hasher with
  | nil => rfl
  | cons chunk rest ih =>
      rw [states, ih, List.length_cons, List.range_succ_eq_map, List.map_cons, List.map_map]
      congr 1
      · simp [state_write]
      · apply List.map_congr_left
        intro k _
        -- what comes after the first chunk goes on from the state that it left
        simp [state_write]

/-! ## Namespace and name -/

/-- The chunks in which an entity is hashed: its namespace, one space and its name. -/
def entityChunks (modelNamespace name : String) : List (List UInt8) :=
  [utf8Bytes modelNamespace, utf8Bytes " ", utf8Bytes name]

theorem getLast?_states_entityChunks (modelNamespace name : String) :
    (Hasher.new.states (entityChunks modelNamespace name)).getLast? =
      some (entityHash modelNamespace name) := rfl

/-- The chunks of an entity are a text with a space in it. -/
theorem flatten_entityChunks (modelNamespace name : String) :
    (entityChunks modelNamespace name).flatten =
      utf8Bytes (modelNamespace ++ " " ++ name) := by
  simp [entityChunks, utf8Bytes_append]

/-- The space is one byte. -/
theorem flatten_entityChunks_eq_cons (modelNamespace name : String) :
    (entityChunks modelNamespace name).flatten =
      utf8Bytes modelNamespace ++ 0x20 :: utf8Bytes name := by
  have hspace : utf8Bytes " " = [0x20] := by decide
  simp [entityChunks, hspace]

/-- An entity is hashed as all of its chunks in one. -/
theorem entityHash_eq_flatten (modelNamespace name : String) :
    entityHash modelNamespace name = fnv1a (entityChunks modelNamespace name).flatten := by
  apply Option.some.inj
  rw [← getLast?_states_entityChunks, Hasher.states_eq]
  rfl

/-- Names without a space are kept apart from their namespaces. -/
theorem flatten_entityChunks_inj {modelNamespace name otherNamespace otherName : String}
    (hname : ' ' ∉ name.toList) (hother : ' ' ∉ otherName.toList) :
    (entityChunks modelNamespace name).flatten = (entityChunks otherNamespace otherName).flatten ↔
      modelNamespace = otherNamespace ∧ name = otherName := by
  have htext : ∀ first second : String,
      (first ++ " " ++ second).toList = first.toList ++ ' ' :: second.toList := by
    intro first second
    simp
  rw [flatten_entityChunks, flatten_entityChunks, utf8Bytes_injective.eq_iff, ← String.toList_inj,
    htext, htext, append_cons_inj_of_notMem_back hname hother, String.toList_inj, String.toList_inj]

/-- However a byte string is cut into chunks, a hasher that they are written to has after each of
them the hash of what was written so far. So an entity, which is written in three, is hashed as its
namespace, a space and its name in one byte string; and no two entities whose names have no space
are hashed as the same one. -/
theorem states_exact :
    (∀ chunks : List (List UInt8), Hasher.new.states chunks =
      (List.range chunks.length).map fun k => fnv1a (chunks.take (k + 1)).flatten) ∧
    (∀ modelNamespace name : String,
      (Hasher.new.states (entityChunks modelNamespace name)).getLast? =
          some (entityHash modelNamespace name) ∧
        entityHash modelNamespace name =
          fnv1a (utf8Bytes modelNamespace ++ 0x20 :: utf8Bytes name)) ∧
    ∀ modelNamespace name otherNamespace otherName : String, ' ' ∉ name.toList →
      ' ' ∉ otherName.toList → (modelNamespace, name) ≠ (otherNamespace, otherName) →
      (entityChunks modelNamespace name).flatten ≠
        (entityChunks otherNamespace otherName).flatten := by
  refine ⟨Hasher.new.states_eq, ?_, ?_⟩
  · intro modelNamespace name
    constructor
    · exact getLast?_states_entityChunks modelNamespace name
    · rw [entityHash_eq_flatten, flatten_entityChunks_eq_cons]
  · intro modelNamespace name otherNamespace otherName hname hother hne hbytes
    obtain ⟨rfl, rfl⟩ := (flatten_entityChunks_inj hname hother).mp hbytes
    exact hne rfl

/-- A namespace of two words, and one whose second word has gone over to the name. -/
theorem states_exact_spaced :
    ' ' ∉ "User".toList ∧ ' ' ∉ "shopUser".toList ∧
      (entityChunks "my shop" "User").flatten ≠ (entityChunks "my" "shopUser").flatten := by
  have hfirst : ' ' ∉ "User".toList := by decide
  have hsecond : ' ' ∉ "shopUser".toList := by decide
  exact ⟨hfirst, hsecond, states_exact.2.2 _ _ _ _ hfirst hsecond (by decide)⟩

/-- A name with a space can pass for a part of the namespace. -/
example : (entityChunks "my shop" "User").flatten = (entityChunks "my" "shop User").flatten := by
  decide

end Hash

end RecordSchema
