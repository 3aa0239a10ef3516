/-
Blanks at the ends of a text.

What a text is without the blanks at its ends is said here without the reversing and dropping that
computes it: the text is that value between blanks, and the value neither starts nor ends with one.
`trimmed_iff` says that this determines the value and that `trim` computes it.
-/
import RecordSchema.Text.Blank

set_option autoImplicit false

namespace RecordSchema.Text

/-! ## Where a property of characters ends -/

section Span

variable {p : Char → Bool} {front rest : List Char}

/-- The characters in front that have a property are taken, and no more. -/
theorem takeWhile_append_eq (hfront : ∀ c ∈ front, p c = true)
    (hrest : ∀ c, rest.head? = some c → p c = false) : (front ++ rest).takeWhile p = front := by
  rw [List.takeWhile_append_of_pos hfront]
  cases rest with
  | nil => simp
  | cons c rest => simp [hrest c rfl]

/-- The same characters are dropped. -/
theorem dropWhile_append_eq (hfront : ∀ c ∈ front, p c = true)
    (hrest : ∀ c, rest.head? = some c → p c = false) : (front ++ rest).dropWhile p = rest := by
  rw [List.dropWhile_append_of_pos hfront]
  cases rest with
  | nil => simp
  | cons c rest => simp [hrest c rfl]

/-- Every text is characters with a property and something that does not start with one. -/
theorem exists_span (p : Char → Bool) (cs : List Char) : ∃ front rest, cs = front ++ rest ∧
    (∀ c ∈ front, p c = true) ∧ ∀ c, rest.head? = some c → p c = false := by
  refine ⟨cs.takeWhile p, cs.dropWhile p, List.takeWhile_append_dropWhile.symm, ?_, ?_⟩
  · exact fun c hc => List.all_eq_true.mp List.all_takeWhile c hc
  · intro c hc
    have hnot := List.head?_dropWhile_not p cs
    rw [hc] at hnot
    exact hnot

end Span

/-! ## Blanks -/

/-- A text of blanks alone, or of nothing. -/
def Blanks (cs : List Char) : Prop := ∀ c ∈ cs, isBlank c = true

instance (cs : List Char) : Decidable (Blanks cs) :=
  decidable_of_iff (cs.all isBlank = true) List.all_eq_true

theorem Blanks.append {cs ds : List Char} (hcs : Blanks cs) (hds : Blanks ds) :
    Blanks (cs ++ ds) := by
  intro c hc
  rcases List.mem_append.mp hc with h | h
  · exact hcs c h
  · exact hds c h

/-- Blanks in front of a text are all dropped with those of the text. -/
theorem Blanks.dropWhile_append {cs : List Char} (h : Blanks cs) (rest : List Char) :
    (cs ++ rest).dropWhile isBlank = rest.dropWhile isBlank :=
  List.dropWhile_append_of_pos h

theorem Blanks.dropWhile_eq {cs : List Char} (h : Blanks cs) : cs.dropWhile isBlank = [] := by
  rw [← List.append_nil cs, h.dropWhile_append, List.dropWhile_nil]

/-- Every text is blanks and something that does not start with one. -/
theorem exists_blanks_append (cs : List Char) : ∃ before rest, cs = before ++ rest ∧
    Blanks before ∧ ∀ c, rest.head? = some c → isBlank c = false :=
  exists_span isBlank cs

/-! ## Trimming -/

/-- A value is a text without the blanks at its ends. -/
structure Trimmed (text value : List Char) : Prop where
  surrounded : ∃ before after, Blanks before ∧ Blanks after ∧ text = before ++ (value ++ after)
  first : ∀ c, value.head? = some c → isBlank c = false
  last : ∀ c, value.getLast? = some c → isBlank c = false

/-- Blanks behind a value that does not end with one are cut off. -/
theorem trimEnd_append {value after : List Char} (hafter : Blanks after)
    (hlast : ∀ c, value.getLast? = some c → isBlank c = false) :
    trimEnd (value ++ after) = value := by
  have hreverse : ∀ c ∈ after.reverse, isBlank c = true := by
    intro c hc
    exact hafter c (List.mem_reverse.mp hc)
  have hhead : ∀ c, value.reverse.head? = some c → isBlank c = false := by
    intro c hc
    rw [List.head?_reverse] at hc
    exact hlast c hc
  rw [trimEnd, List.reverse_append, dropWhile_append_eq hreverse hhead, List.reverse_reverse]

/-- Trimming takes away exactly the blanks at the ends. -/
theorem trimmed_iff {text value : List Char} : Trimmed text value ↔ value = trim text := by
  constructor
  · rintro ⟨⟨before, after, hbefore, hafter, rfl⟩, hfirst, hlast⟩
    by_cases hnil : value = []
    · -- nothing but blanks
      have hblanks : Blanks (before ++ after) := hbefore.append hafter
      rw [hnil, List.nil_append, trim, hblanks.dropWhile_eq]
      rfl
    · obtain ⟨d, ds, rfl⟩ := List.exists_cons_of_ne_nil hnil
      have hhead : ∀ c, (d :: ds ++ after).head? = some c → isBlank c = false := hfirst
      rw [trim, dropWhile_append_eq hbefore hhead, trimEnd_append hafter hlast]
  · rintro rfl
    obtain ⟨before, rest, rfl, hbefore, hrest⟩ := exists_blanks_append text
    -- the blanks at the end are those in front of the reversed text
    obtain ⟨blanks, front, hsplit, hblanks, hfront⟩ := exists_blanks_append rest.reverse
    have heq : rest = front.reverse ++ blanks.reverse := by
      rw [← List.reverse_append, ← hsplit, List.reverse_reverse]
    have hafter : Blanks blanks.reverse := fun c hc => hblanks c (List.mem_reverse.mp hc)
    have hlast : ∀ c, front.reverse.getLast? = some c → isBlank c = false := by
      intro c hc
      rw [List.getLast?_reverse] at hc
      exact hfront c hc
    have htrim : trim (before ++ rest) = front.reverse := by
      rw [trim, dropWhile_append_eq hbefore hrest, heq, trimEnd_append hafter hlast]
    rw [htrim]
    refine ⟨⟨before, blanks.reverse, hbefore, hafter, by rw [← heq]⟩, ?_, hlast⟩
    intro c hc
    apply hrest
    rw [heq, List.head?_append, hc, Option.some_or]

end RecordSchema.Text
