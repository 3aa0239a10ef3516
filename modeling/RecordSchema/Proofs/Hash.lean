/-
What the hash keeps of a text.

A step of the hash can be undone if the byte is known: the multiplier is odd, so it has an inverse
modulo `2^64`, and an exclusive or is its own inverse. A step is therefore a permutation of the
states, and so is any run of steps over a fixed byte string. Two texts that end alike collide
exactly if what stands in front of the common end does (`fnv1a_append_eq_iff`); nothing that follows
can make a collision or mend one.

For entities this settles two things. Under one namespace, names that differ in one byte never
collide. And a namespace that has the hash of another for one name has it for all names, since the
name is what both end with.
-/
import Mathlib.Logic.Function.Basic
import RecordSchema.Hash

set_option autoImplicit false

namespace RecordSchema

/-! ## Lists that differ in one place -/

/-- Lists of one length that differ in one place have different entries there and are equal in front
of it and behind it. -/
theorem exists_split_of_differ_once {α : Type} {xs ys : List α} (hlength : xs.length = ys.length)
    (h : ∃! i : Nat, xs[i]? ≠ ys[i]?) :
    ∃ front x y back, x ≠ y ∧ xs = front ++ x :: back ∧ ys = front ++ y :: back := by
  obtain ⟨i, hdiffer, hunique⟩ := h
  have hsame : ∀ j, j ≠ i → xs[j]? = ys[j]? := by
    intro j hj
    by_contra hne
    exact hj (hunique j hne)
  have hx : i < xs.length := by
    by_contra hge
    apply hdiffer
    rw [List.getElem?_eq_none (by omega), List.getElem?_eq_none (by omega)]
  have hy : i < ys.length := by omega
  have hfront : xs.take i = ys.take i := by
    apply List.ext_getElem?
    intro j
    rw [List.getElem?_take, List.getElem?_take]
    by_cases hj : j < i
    · rw [if_pos hj, if_pos hj, hsame j (by omega)]
    · rw [if_neg hj, if_neg hj]
  have hback : xs.drop (i + 1) = ys.drop (i + 1) := by
    apply List.ext_getElem?
    intro j
    rw [List.getElem?_drop, List.getElem?_drop, hsame _ (by omega)]
  refine ⟨xs.take i, xs[i], ys[i], xs.drop (i + 1), ?_, ?_, ?_⟩
  · intro heq
    apply hdiffer
    rw [List.getElem?_eq_getElem hx, List.getElem?_eq_getElem hy, heq]
  · rw [← List.drop_eq_getElem_cons hx, List.take_append_drop]
  · rw [hfront, hback, ← List.drop_eq_getElem_cons hy, List.take_append_drop]

namespace Hash

/-! ## One step -/

/-- The inverse of the multiplier modulo `2^64`. -/
def primeInverse : UInt64 := 0xce965057aff6957b

theorem prime_mul_primeInverse : prime * primeInverse = 1 := by decide

/-- The state before a step over a byte, from the state after it. -/
def release (state : UInt64) (byte : UInt8) : UInt64 := (state * primeInverse) ^^^ byte.toUInt64

theorem release_absorb (state : UInt64) (byte : UInt8) :
    release (absorb state byte) byte = state := by
  rw [release, absorb, UInt64.mul_assoc, prime_mul_primeInverse, UInt64.mul_one, UInt64.xor_assoc,
    UInt64.xor_self, UInt64.xor_zero]

theorem absorb_release (state : UInt64) (byte : UInt8) :
    absorb (release state byte) byte = state := by
  have hinverse : primeInverse * prime = 1 := by rw [UInt64.mul_comm, prime_mul_primeInverse]
  rw [absorb, release, UInt64.xor_assoc, UInt64.xor_self, UInt64.xor_zero, UInt64.mul_assoc,
    hinverse, UInt64.mul_one]

/-- A step over a byte is a permutation of the states. -/
theorem absorb_bijective (byte : UInt8) : Function.Bijective (absorb · byte) :=
  Function.bijective_iff_has_inverse.mpr
    ⟨(release · byte), (release_absorb · byte), (absorb_release · byte)⟩

/-- From one state, different bytes lead to different states. -/
theorem absorb_byte_injective (state : UInt64) : Function.Injective (absorb state) := by
  intro byte other h
  have hmixed : state ^^^ byte.toUInt64 = state ^^^ other.toUInt64 := by
    calc state ^^^ byte.toUInt64
        = (state ^^^ byte.toUInt64) * prime * primeInverse := by
          rw [UInt64.mul_assoc, prime_mul_primeInverse, UInt64.mul_one]
      _ = (state ^^^ other.toUInt64) * prime * primeInverse := congrArg (· * primeInverse) h
      _ = state ^^^ other.toUInt64 := by
          rw [UInt64.mul_assoc, prime_mul_primeInverse, UInt64.mul_one]
  rwa [UInt64.xor_right_inj, UInt8.toUInt64_inj] at hmixed

/-! ## Byte strings -/

/-- A run of steps over a byte string leads from different states to different states. -/
theorem foldl_absorb_injective (bytes : List UInt8) :
    Function.Injective fun state => bytes.foldl absorb state := by
  induction bytes with
  | nil => exact Function.injective_id
  | cons byte rest ih =>
      intro state other h
      apply (absorb_bijective byte).1
      exact ih h

theorem fnv1a_append (front back : List UInt8) :
    fnv1a (front ++ back) = back.foldl absorb (fnv1a front) := List.foldl_append

/-- A common end neither makes a collision nor mends one. -/
theorem fnv1a_append_eq_iff (p q s : List UInt8) :
    fnv1a (p ++ s) = fnv1a (q ++ s) ↔ fnv1a p = fnv1a q := by
  rw [fnv1a_append, fnv1a_append]
  exact (foldl_absorb_injective s).eq_iff

/-- Byte strings that differ in one place do not collide, whatever stands around it. -/
theorem fnv1a_ne_of_byte_ne {byte other : UInt8} (h : byte ≠ other) (front back : List UInt8) :
    fnv1a (front ++ byte :: back) ≠ fnv1a (front ++ other :: back) := by
  intro heq
  rw [fnv1a_append, fnv1a_append] at heq
  have hstep : absorb (fnv1a front) byte = absorb (fnv1a front) other :=
    foldl_absorb_injective back heq
  exact h (absorb_byte_injective _ hstep)

/-! ## Entities -/

/-- What is written to a hasher is taken up byte by byte. -/
theorem Hasher.state_write (hasher : Hasher) (bytes : List UInt8) :
    (hasher.write bytes).state = bytes.foldl absorb hasher.state := by
  induction bytes generalizing hasher with
  | nil => rfl
  | cons byte rest ih => exact ih ⟨absorb hasher.state byte⟩

/-- The hash of an entity is that of its namespace, a space and its name in one byte string. -/
theorem entityHash_eq (modelNamespace name : String) :
    entityHash modelNamespace name =
      fnv1a (utf8Bytes modelNamespace ++ utf8Bytes " " ++ utf8Bytes name) := by
  rw [entityHash, Hasher.state_write, Hasher.state_write, Hasher.state_write, fnv1a,
    List.foldl_append, List.foldl_append]
  rfl

/-- Two namespaces give a name one hash exactly if they collide themselves; the name plays no part.
-/
theorem entityHash_eq_iff (first second name : String) :
    entityHash first name = entityHash second name ↔
      fnv1a (utf8Bytes first) = fnv1a (utf8Bytes second) := by
  rw [entityHash_eq, entityHash_eq, fnv1a_append_eq_iff, fnv1a_append_eq_iff]

/-- Byte strings with a common end have one hash exactly if their beginnings have one. So names that
differ in one byte have different hashes under one namespace, and two namespaces give one hash
either to every name or to none. -/
theorem fnv1a_cancels_end :
    (∀ p q s : List UInt8, fnv1a (p ++ s) = fnv1a (q ++ s) ↔ fnv1a p = fnv1a q) ∧
      (∀ modelNamespace name other : String,
        (utf8Bytes name).length = (utf8Bytes other).length →
        (∃! i : Nat, (utf8Bytes name)[i]? ≠ (utf8Bytes other)[i]?) →
        entityHash modelNamespace name ≠ entityHash modelNamespace other) ∧
      ∀ first second : String, (∀ name, entityHash first name = entityHash second name) ∨
        ∀ name, entityHash first name ≠ entityHash second name := by
  refine ⟨fnv1a_append_eq_iff, fun modelNamespace name other hlength hdiffer => ?_,
    fun first second => ?_⟩
  · obtain ⟨front, byte, byte', back, hne, hname, hother⟩ :=
      exists_split_of_differ_once hlength hdiffer
    rw [entityHash_eq, entityHash_eq, hname, hother, ← List.append_assoc, ← List.append_assoc]
    exact fnv1a_ne_of_byte_ne hne _ back
  · by_cases h : fnv1a (utf8Bytes first) = fnv1a (utf8Bytes second)
    · left
      intro name
      exact (entityHash_eq_iff first second name).mpr h
    · right
      intro name heq
      exact h ((entityHash_eq_iff first second name).mp heq)

/-- Two names whose last letters are written with two bytes each, the first of them the same. -/
theorem fnv1a_cancels_end_accent :
    utf8Bytes "Caf\u00e8" = [67, 97, 102, 195, 168] ∧
      utf8Bytes "Caf\u00e9" = [67, 97, 102, 195, 169] ∧
      entityHash "app" "Caf\u00e8" ≠ entityHash "app" "Caf\u00e9" := by
  have hgrave : utf8Bytes "Caf\u00e8" = [67, 97, 102, 195, 168] := by decide +kernel
  have hacute : utf8Bytes "Caf\u00e9" = [67, 97, 102, 195, 169] := by decide +kernel
  refine ⟨hgrave, hacute, fnv1a_cancels_end.2.1 _ _ _ ?_ ?_⟩
  · rw [hgrave, hacute]
    rfl
  · rw [hgrave, hacute]
    refine ⟨4, by decide, ?_⟩
    rintro (_ | _ | _ | _ | _ | j) hj
    · exact absurd rfl hj
    · exact absurd rfl hj
    · exact absurd rfl hj
    · exact absurd rfl hj
    · rfl
    · exact absurd rfl hj

end Hash

end RecordSchema
