/-
Numerals, and the pairs that are written with them.

A number is written without leading zeros and read back leniently, so reading undoes writing but not
the other way round. The digits of a numeral are all that matters about its text: none of them is a
sign or a colon, which is why a numeral needs no separator of its own and a pair of them is cut at
the right place.
-/
import RecordSchema.Identity

set_option autoImplicit false

namespace RecordSchema

/-! ## One numeral -/

namespace Text.Decimal

theorem isDigit_of_mem_render {n : Nat} {c : Char} (h : c ∈ render n) : c.isDigit = true :=
  Nat.isDigit_of_mem_toDigits (by decide) (by decide) h

theorem render_ne_nil (n : Nat) : render n ≠ [] := Nat.toDigits_ne_nil

/-- A numeral is not written with a sign. -/
theorem unsigned_render (n : Nat) : unsigned (render n) = render n := by
  unfold unsigned
  split
  · rename_i cs h
    have hplus : '+' ∈ render n := h ▸ List.mem_cons_self
    exact absurd (isDigit_of_mem_render hplus) (by decide)
  · rfl

/-- Reading a numeral gives its number back if that is below the limit. -/
theorem read?_render {limit n : Nat} (h : n < limit) : read? limit (render n) = some n := by
  have hall : (render n).all Char.isDigit = true :=
    List.all_eq_true.mpr fun c hc => isDigit_of_mem_render hc
  rw [read?, unsigned_render, digits?, if_pos ⟨render_ne_nil n, hall⟩]
  change Option.filter _ (some (Nat.ofDigitChars 10 (Nat.toDigits 10 n) 0)) = _
  rw [Nat.ofDigitChars_ten_toDigits]
  exact Option.filter_some_pos (by simpa using h)

end Text.Decimal

/-! ## Pairs -/

open Text

/-- A text is cut at its first colon. -/
theorem splitColon?_append {cs : List Char} (h : ':' ∉ cs) (rest : List Char) :
    splitColon? (cs ++ ':' :: rest) = some (cs, rest) := by
  have hbefore : ∀ c ∈ cs, decide (c ≠ ':') = true := by
    intro c hc
    exact decide_eq_true fun he => h (he ▸ hc)
  rw [splitColon?, List.dropWhile_append_of_pos hbefore, List.takeWhile_append_of_pos hbefore]
  simp

/-- Reading a written pair gives the pair back. -/
theorem IdUid.read?_render (x : IdUid) : IdUid.read? x.render = some x := by
  have hcolon : ':' ∉ Decimal.render x.id.toNat := fun h =>
    absurd (Decimal.isDigit_of_mem_render h) (by decide)
  rw [IdUid.read?, IdUid.render, String.toList_ofList, splitColon?_append hcolon]
  simp only [Option.bind_eq_bind, Option.bind_some,
    Decimal.read?_render x.id.toNat_lt_size, Decimal.read?_render x.uid.toNat_lt_size,
    UInt32.ofNat_toNat, UInt64.ofNat_toNat]
  rfl

theorem IdUid.parse_render (x : IdUid) : IdUid.parse x.render = .ok x := by
  rw [IdUid.parse, IdUid.read?_render]

end RecordSchema
