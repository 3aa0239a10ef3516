/-
The texts that are identifier pairs.

A pair is written in one way and read in many: each of its numbers may have a plus sign and leading
zeros. This module says what is read as a grammar, which gives a run of digits its value place by
place and knows no order of tests. Reading takes in what the grammar gives a value that fits its
word, and refuses every other text with that text (`IdUid.parse_exact`). What is written is among
the texts that are read, so the written form of a pair determines it.
-/
import Mathlib.Data.List.Induction
import Mathlib.Logic.Function.Basic
import RecordSchema.Proofs.Text.Blank
import RecordSchema.Proofs.Text.Numeral

set_option autoImplicit false

namespace RecordSchema

/-! ## Numerals -/

namespace Text.Decimal

/-- One or more digits with the number that they write. A digit behind others is added to ten times
what they write. -/
inductive Digits : List Char → Nat → Prop where
  | one {d : Nat} (hd : d < 10) : Digits [Nat.digitChar d] d
  | more {cs : List Char} {n d : Nat} (h : Digits cs n) (hd : d < 10) :
      Digits (cs ++ [Nat.digitChar d]) (10 * n + d)

/-- A numeral: digits, or a plus sign and digits. -/
inductive Numeral : List Char → Nat → Prop where
  | plain {cs : List Char} {n : Nat} (h : Digits cs n) : Numeral cs n
  | signed {cs : List Char} {n : Nat} (h : Digits cs n) : Numeral ('+' :: cs) n

/-- The digits are the characters of the numbers below ten. -/
theorem isDigit_iff {c : Char} : c.isDigit = true ↔ ∃ d < 10, c = Nat.digitChar d := by
  constructor
  · intro h
    rw [Char.isDigit, Bool.and_eq_true, decide_eq_true_eq, decide_eq_true_eq] at h
    have hlow : 48 ≤ c.toNat := UInt32.le_iff_toNat_le.mp h.1
    have hhigh : c.toNat ≤ 57 := UInt32.le_iff_toNat_le.mp h.2
    have hchar : ∀ d < 10, Nat.digitChar d = Char.ofNat (48 + d) := by decide
    refine ⟨c.toNat - 48, by omega, ?_⟩
    rw [hchar _ (by omega), Nat.add_sub_cancel' hlow, Char.ofNat_toNat]
  · rintro ⟨d, hd, rfl⟩
    rw [Nat.isDigit_digitChar]
    exact decide_eq_true hd

/-- The value of one more digit. -/
theorem ofDigitChars_concat {d : Nat} (hd : d < 10) (cs : List Char) :
    Nat.ofDigitChars 10 (cs ++ [Nat.digitChar d]) 0 = 10 * Nat.ofDigitChars 10 cs 0 + d := by
  have hvalue : ∀ d < 10, (Nat.digitChar d).toNat - '0'.toNat = d := by decide
  rw [Nat.ofDigitChars_append, Nat.ofDigitChars_cons, hvalue d hd]
  rfl

theorem Digits.ne_nil {cs : List Char} {n : Nat} (h : Digits cs n) : cs ≠ [] := by
  cases h <;> simp

theorem Digits.isDigit {cs : List Char} {n : Nat} (h : Digits cs n) :
    ∀ c ∈ cs, c.isDigit = true := by
  induction h with
  | one hd =>
      intro c hc
      exact isDigit_iff.mpr ⟨_, hd, List.mem_singleton.mp hc⟩
  | more _ hd ih =>
      intro c hc
      rcases List.mem_append.mp hc with hc | hc
      · exact ih c hc
      · exact isDigit_iff.mpr ⟨_, hd, List.mem_singleton.mp hc⟩

theorem Digits.value {cs : List Char} {n : Nat} (h : Digits cs n) :
    Nat.ofDigitChars 10 cs 0 = n := by
  induction h with
  | one hd => simpa using ofDigitChars_concat hd []
  | more _ hd ih => rw [ofDigitChars_concat hd, ih]

/-- Characters that are digits write the number that they add up to. -/
theorem digits_of_isDigit {cs : List Char} (hne : cs ≠ []) (h : ∀ c ∈ cs, c.isDigit = true) :
    Digits cs (Nat.ofDigitChars 10 cs 0) := by
  induction cs using List.reverseRecOn with
  | nil => exact absurd rfl hne
  | append_singleton cs c ih =>
      obtain ⟨d, hd, rfl⟩ := isDigit_iff.mp (h c (by simp))
      rw [ofDigitChars_concat hd]
      by_cases hnil : cs = []
      · subst hnil
        simpa using Digits.one hd
      · apply Digits.more _ hd
        exact ih hnil fun c hc => h c (List.mem_append_left _ hc)

theorem digits?_eq_some_iff {cs : List Char} {n : Nat} : digits? cs = some n ↔ Digits cs n := by
  unfold digits?
  constructor
  · intro h
    obtain ⟨⟨hne, hall⟩, hvalue⟩ := Option.ite_none_right_eq_some.mp h
    obtain rfl : Nat.ofDigitChars 10 cs 0 = n := Option.some.inj hvalue
    exact digits_of_isDigit hne (List.all_eq_true.mp hall)
  · intro h
    rw [if_pos ⟨h.ne_nil, List.all_eq_true.mpr h.isDigit⟩, h.value]

theorem numeral_iff {cs : List Char} {n : Nat} : Numeral cs n ↔ Digits (unsigned cs) n := by
  constructor
  · intro h
    cases h with
    | plain h =>
        -- no digit is a plus sign, so none is taken away
        cases cs with
        | nil => exact h
        | cons c cs =>
            have hc : c ≠ '+' := by
              rintro rfl
              exact absurd (h.isDigit '+' List.mem_cons_self) (by decide)
            simpa [unsigned, hc] using h
    | signed h => exact h
  · intro h
    unfold unsigned at h
    split at h
    · exact .signed h
    · exact .plain h

/-- Reading takes in exactly the numerals of the numbers below the limit. -/
theorem read?_eq_some_iff {limit n : Nat} {cs : List Char} :
    read? limit cs = some n ↔ Numeral cs n ∧ n < limit := by
  rw [read?, Option.filter_eq_some_iff, digits?_eq_some_iff, numeral_iff, decide_eq_true_eq]

end Text.Decimal

/-! ## Pairs -/

open Text Decimal

theorem splitColon?_eq_some_iff {cs first second : List Char} :
    splitColon? cs = some (first, second) ↔ cs = first ++ ':' :: second ∧ ':' ∉ first := by
  constructor
  · intro h
    obtain ⟨front, rest, rfl, hfront, hrest⟩ := exists_span (fun c => decide (c ≠ ':')) cs
    have hcolon : ':' ∉ front := by
      intro hmem
      simpa using hfront _ hmem
    cases rest with
    | nil =>
        -- without a colon nothing is left behind the first part
        rw [splitColon?, List.dropWhile_append_of_pos hfront] at h
        cases h
    | cons c rest =>
        obtain rfl : c = ':' := by simpa using hrest c rfl
        rw [splitColon?_append hcolon] at h
        cases h
        exact ⟨rfl, hcolon⟩
  · rintro ⟨rfl, hfirst⟩
    exact splitColon?_append hfirst second

/-- A text with numerals on both sides of its first colon, and the numbers that they write. -/
def IdUid.Spells (s : String) (id uid : Nat) : Prop :=
  ∃ first second, s.toList = first ++ ':' :: second ∧ ':' ∉ first ∧
    Numeral first id ∧ Numeral second uid

theorem IdUid.read?_eq_some_iff {s : String} {x : IdUid} :
    read? s = some x ↔ ∃ id uid, Spells s id uid ∧ id < UInt32.size ∧ uid < UInt64.size ∧
      x = ⟨UInt32.ofNat id, UInt64.ofNat uid⟩ := by
  unfold read?
  simp only [Option.bind_eq_bind, Option.bind_eq_some_iff, Decimal.read?_eq_some_iff]
  constructor
  · rintro ⟨⟨first, second⟩, hsplit, id, ⟨hid, hidlt⟩, uid, ⟨huid, huidlt⟩, heq⟩
    obtain ⟨htext, hcolon⟩ := splitColon?_eq_some_iff.mp hsplit
    exact ⟨id, uid, ⟨first, second, htext, hcolon, hid, huid⟩, hidlt, huidlt,
      (Option.some.inj heq).symm⟩
  · rintro ⟨id, uid, ⟨first, second, htext, hcolon, hid, huid⟩, hidlt, huidlt, rfl⟩
    exact ⟨⟨first, second⟩, splitColon?_eq_some_iff.mpr ⟨htext, hcolon⟩, id, ⟨hid, hidlt⟩, uid,
      ⟨huid, huidlt⟩, rfl⟩

theorem IdUid.read?_eq_none_iff {s : String} :
    read? s = none ↔ ¬∃ id uid, Spells s id uid ∧ id < UInt32.size ∧ uid < UInt64.size := by
  rw [Option.eq_none_iff_forall_ne_some]
  constructor
  · rintro h ⟨id, uid, hspells, hid, huid⟩
    exact h _ (read?_eq_some_iff.mpr ⟨id, uid, hspells, hid, huid, rfl⟩)
  · intro h x hx
    obtain ⟨id, uid, hspells, hid, huid, -⟩ := read?_eq_some_iff.mp hx
    exact h ⟨id, uid, hspells, hid, huid⟩

/-- A text is read as a pair exactly if it has numerals on both sides of its first colon whose
numbers fit 32 and 64 bits, and then as the pair of these numbers; any other text is refused with
the text itself. A pair that was written is read back, and no two pairs are written alike. -/
theorem IdUid.parse_exact :
    (∀ s x, parse s = .ok x ↔ ∃ id uid, Spells s id uid ∧ id < UInt32.size ∧ uid < UInt64.size ∧
      x = ⟨UInt32.ofNat id, UInt64.ofNat uid⟩) ∧
    (∀ s e, parse s = .error e ↔
      e = ⟨s⟩ ∧ ¬∃ id uid, Spells s id uid ∧ id < UInt32.size ∧ uid < UInt64.size) ∧
    (∀ x : IdUid, parse x.render = .ok x) ∧ Function.Injective render := by
  refine ⟨fun s x => ?_, fun s e => ?_, parse_render, fun x y h => ?_⟩
  · rw [← read?_eq_some_iff, parse]
    cases read? s <;> simp
  · rw [← read?_eq_none_iff, parse]
    cases read? s with
    | none => simp [eq_comm]
    | some x => simp
  · have hread : parse x.render = parse y.render := congrArg parse h
    rw [parse_render, parse_render] at hread
    exact Except.ok.inj hread

/-- Signs and leading zeros are read over, up to the highest numbers of both words. -/
example : IdUid.parse "+04294967295:018446744073709551615" =
    .ok ⟨4294967295, 18446744073709551615⟩ := by decide +kernel

end RecordSchema
