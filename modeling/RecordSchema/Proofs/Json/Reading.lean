/-
What is printed is read back.

Both printers lay out the same tokens and differ in their blanks alone, so they are two cases of one
printer over a layout. The reader skips blanks, so its steps are proved over any layout whose blanks
are blanks. A value is read up to the text after it; that text has to end a number, which otherwise
goes on with the digits, the point or the exponent it finds there. Numbers that are not natural are
left out: they are kept as their text, which may hold anything.
-/
import RecordSchema.Json.Printer
import RecordSchema.Json.Reader
import RecordSchema.Proofs.Text.Numeral

set_option autoImplicit false

namespace RecordSchema

namespace Text.Decimal

/-- A positive number is not written with a zero in front. -/
theorem head?_render_ne_zero {n : Nat} (h : 0 < n) : (render n).head? ≠ some '0' := by
  have hsmall : ∀ k < 10, 0 < k → [k.digitChar].head? ≠ some '0' := by decide
  -- all digits but the last are those of a tenth of the number
  induction n using Nat.strongRecOn with
  | ind n ih =>
      rw [render, Nat.toDigits_eq_if (by decide)]
      by_cases hlt : n < 10
      · rw [if_pos hlt]
        exact hsmall n hlt h
      · have htenth := ih (n / 10) (by omega) (by omega)
        rw [if_neg hlt]
        cases hrender : render (n / 10) with
        | nil => exact absurd hrender (render_ne_nil _)
        | cons c cs =>
            rw [hrender] at htenth
            rw [render] at hrender
            rw [hrender]
            exact htenth

theorem exists_render_eq_cons (n : Nat) : ∃ c cs, render n = c :: cs ∧ c.isDigit = true := by
  cases hrender : render n with
  | nil => exact absurd hrender (render_ne_nil n)
  | cons c cs => exact ⟨c, cs, rfl, isDigit_of_mem_render (hrender ▸ List.mem_cons_self)⟩

end Text.Decimal

namespace Json

open Text

/-! ## Strings -/

theorem hexValue?_hexDigit {n : Nat} (h : n < 16) : hexValue? (hexDigit n) = some n := by
  revert n
  decide

/-- A character that a string can hold as it is. -/
theorem readString_cons {c : Char} (hquote : c ≠ '"') (hslash : c ≠ '\\') (hcontrol : 32 ≤ c.toNat)
    (rest : List Char) :
    readString (c :: rest) = (readString rest).map fun r => (c :: r.1, r.2) := by
  rw [readString]
  · rw [if_neg]
    rintro (h | h)
    · omega
    · exact hslash h
  · exact fun h => hquote h
  · rintro a b c d rest rfl
    intro _
    exact hslash rfl
  · rintro c' rest' rfl
    intro _
    exact hslash rfl

/-- A character below the space that has no letter of its own. -/
theorem readString_control {c : Char} (h : c.toNat < 32) (rest : List Char) :
    readString ('\\' :: 'u' :: '0' :: '0' :: hexDigit (c.toNat / 16) :: hexDigit (c.toNat % 16) ::
      rest) = (readString rest).map fun r => (c :: r.1, r.2) := by
  have hunit : hex4? '0' '0' (hexDigit (c.toNat / 16)) (hexDigit (c.toNat % 16)) =
      some c.toNat := by
    have hzero : hexValue? '0' = some 0 := by decide
    simp only [hex4?, hzero, hexValue?_hexDigit (n := c.toNat / 16) (by omega),
      hexValue?_hexDigit (n := c.toNat % 16) (by omega), Option.bind_eq_bind, Option.bind_some,
      Option.pure_def, Option.some.injEq]
    omega
  have hhigh : isHighHalf c.toNat = false := by
    rw [isHighHalf, Bool.and_eq_false_iff]
    exact .inl (decide_eq_false (by omega))
  have hlow : isLowHalf c.toNat = false := by
    rw [isLowHalf, Bool.and_eq_false_iff]
    exact .inl (decide_eq_false (by omega))
  rw [readString, hunit]
  simp only [hhigh, hlow, Bool.false_eq_true, if_false, Char.ofNat_toNat]

/-- An escaped character is read as the character. -/
theorem readString_escape (c : Char) (rest : List Char) :
    readString (escape c ++ rest) = (readString rest).map fun r => (c :: r.1, r.2) := by
  unfold escape
  iterate 7
    split
    · subst c
      rfl
  split
  · rename_i h
    exact readString_control h rest
  · rename_i hquote hslash _ _ _ _ _ hcontrol
    exact readString_cons hquote hslash (by omega) rest

/-- A quoted text is read as the text, up to its closing quote. -/
theorem readString_flatMap_escape (cs rest : List Char) :
    readString (cs.flatMap escape ++ '"' :: rest) = some (cs, rest) := by
  induction cs with
  | nil => rfl
  | cons c cs ih =>
      rw [List.flatMap_cons, List.append_assoc, readString_escape, ih]
      rfl

/-! ## Numbers -/

/-- A text that a number before it does not go on with. -/
def EndsNumber (rest : List Char) : Prop :=
  ∀ c ∈ rest.head?, c.isDigit = false ∧ c ≠ '.' ∧ c ≠ 'e' ∧ c ≠ 'E'

/-- The digits of a number are read up to the text after it. -/
theorem readDigits_render (n : Nat) {rest : List Char} (h : EndsNumber rest) :
    readDigits (Decimal.render n ++ rest) = some (Decimal.render n, rest) := by
  have hdigits : ∀ c ∈ Decimal.render n, c.isDigit = true := fun c hc =>
    Decimal.isDigit_of_mem_render hc
  have hrest : rest.takeWhile Char.isDigit = [] ∧ rest.dropWhile Char.isDigit = rest := by
    cases rest with
    | nil => exact ⟨rfl, rfl⟩
    | cons c cs =>
        have hc := (h c rfl).1
        simp [hc]
  rw [readDigits, List.takeWhile_append_of_pos hdigits, List.dropWhile_append_of_pos hdigits,
    hrest.1, hrest.2, List.append_nil]
  cases hrender : Decimal.render n with
  | nil => exact absurd hrender (Decimal.render_ne_nil n)
  | cons c cs => rfl

theorem readWhole_render (n : Nat) {rest : List Char} (h : EndsNumber rest) :
    readWhole (Decimal.render n ++ rest) = some (Decimal.render n, rest) := by
  rw [readWhole, readDigits_render n h]
  split
  · -- a zero before another digit would be the first of a positive number
    rename_i c cs more heq
    obtain ⟨hrender, -⟩ := Prod.mk.inj (Option.some.inj heq)
    rcases Nat.eq_zero_or_pos n with rfl | hpos
    · cases hrender
    · exact absurd (congrArg List.head? hrender) (Decimal.head?_render_ne_zero hpos)
  · rfl

/-- A numeral is read as its number, up to the text after it. -/
theorem readNumber_render (n : Nat) {rest : List Char} (h : EndsNumber rest) :
    readNumber (Decimal.render n ++ rest) = some (.natural n, rest) := by
  have hfraction : readFraction rest = some ([], rest) := by
    unfold readFraction
    split
    · exact absurd rfl (h '.' rfl).2.1
    · rfl
  have hexponent : readExponent rest = some ([], rest) := by
    unfold readExponent
    split
    · rename_i c cs
      obtain ⟨-, -, he, hE⟩ := h c rfl
      rw [if_neg (by rintro (rfl | rfl) <;> contradiction)]
    · rfl
  have hsign : ∀ cs, Decimal.render n ++ rest ≠ '-' :: cs := by
    intro cs hcs
    cases hrender : Decimal.render n with
    | nil => exact Decimal.render_ne_nil n hrender
    | cons c more =>
        rw [hrender] at hcs
        obtain rfl : c = '-' := (List.cons.inj hcs).1
        have hdigit := Decimal.isDigit_of_mem_render (n := n) (hrender ▸ List.mem_cons_self)
        exact absurd hdigit (by decide)
  have hvalue : Nat.ofDigitChars 10 (Decimal.render n) 0 = n := Nat.ofDigitChars_ten_toDigits
  unfold readNumber
  split
  rename_i sign cs heq
  split at heq
  · rename_i more hcs
    exact absurd hcs (hsign more)
  · obtain ⟨rfl, rfl⟩ := Prod.mk.inj heq
    simp only [readWhole_render n h, hfraction, hexponent, Option.bind_eq_bind, Option.bind_some,
      and_self, if_true, hvalue, Option.pure_def]

/-! ## Layouts -/

/-- Where a layout has blanks: before an item, a field or the end of either at a depth, and after
the colon of a field. -/
structure Layout where
  line : Nat → List Char
  colon : List Char

namespace Layout

/-- The layout without blanks. -/
def compact : Layout := ⟨fun _ => [], []⟩

/-- The layout with an item or a field to a line. -/
def indented : Layout := ⟨newLine, [' ']⟩

mutual

/-- A value in a layout. -/
def chars (l : Layout) (depth : Nat) : Json → List Char
  | .null => ['n', 'u', 'l', 'l']
  | .bool true => ['t', 'r', 'u', 'e']
  | .bool false => ['f', 'a', 'l', 's', 'e']
  | .natural n => Decimal.render n
  | .decimal digits => digits.toList
  | .text s => quote s
  | .list [] => ['[', ']']
  | .list (item :: rest) =>
    '[' :: (l.line (depth + 1) ++ (chars l (depth + 1) item ++ items l depth rest))
  | .object [] => ['\x7b', '\x7d']
  | .object ((key, value) :: rest) =>
    '\x7b' :: (l.line (depth + 1) ++
      (quote key ++ ':' :: (l.colon ++ (chars l (depth + 1) value ++ fields l depth rest))))

/-- The items after the first, and the end of the list. -/
def items (l : Layout) (depth : Nat) : List Json → List Char
  | [] => l.line depth ++ [']']
  | item :: rest =>
    ',' :: (l.line (depth + 1) ++ (chars l (depth + 1) item ++ items l depth rest))

/-- The fields after the first, and the end of the object. -/
def fields (l : Layout) (depth : Nat) : List (String × Json) → List Char
  | [] => l.line depth ++ ['\x7d']
  | (key, value) :: rest =>
    ',' :: (l.line (depth + 1) ++
      (quote key ++ ':' :: (l.colon ++ (chars l (depth + 1) value ++ fields l depth rest))))

end

mutual

theorem chars_compact (depth : Nat) : ∀ v : Json, compact.chars depth v = v.compactChars
  | .null | .bool true | .bool false | .natural _ | .decimal _ | .text _ => by
    simp only [chars, compactChars]
  | .list [] | .object [] => by simp only [chars, compactChars]
  | .list (item :: rest) => by
    simp only [chars, compactChars, chars_compact (depth + 1) item, items_compact depth rest]
    rfl
  | .object ((key, value) :: rest) => by
    simp only [chars, compactChars, chars_compact (depth + 1) value, fields_compact depth rest]
    simp [compact]

theorem items_compact (depth : Nat) : ∀ vs : List Json, compact.items depth vs = compactItems vs
  | [] => by simp only [items, compactItems]; rfl
  | item :: rest => by
    simp only [items, compactItems, chars_compact (depth + 1) item, items_compact depth rest]
    rfl

theorem fields_compact (depth : Nat) :
    ∀ fs : List (String × Json), compact.fields depth fs = compactFields fs
  | [] => by simp only [fields, compactFields]; rfl
  | (key, value) :: rest => by
    simp only [fields, compactFields, chars_compact (depth + 1) value, fields_compact depth rest]
    simp [compact]

end

mutual

theorem chars_indented (depth : Nat) : ∀ v : Json, indented.chars depth v = v.prettyChars depth
  | .null | .bool true | .bool false | .natural _ | .decimal _ | .text _ => by
    simp only [chars, prettyChars]
  | .list [] | .object [] => by simp only [chars, prettyChars]
  | .list (item :: rest) => by
    simp only [chars, prettyChars, chars_indented (depth + 1) item, items_indented depth rest]
    simp [indented]
  | .object ((key, value) :: rest) => by
    simp only [chars, prettyChars, chars_indented (depth + 1) value, fields_indented depth rest]
    simp [indented]

theorem items_indented (depth : Nat) :
    ∀ vs : List Json, indented.items depth vs = prettyItems depth vs
  | [] => by simp only [items, prettyItems]; rfl
  | item :: rest => by
    simp only [items, prettyItems, chars_indented (depth + 1) item, items_indented depth rest]
    simp [indented]

theorem fields_indented (depth : Nat) :
    ∀ fs : List (String × Json), indented.fields depth fs = prettyFields depth fs
  | [] => by simp only [fields, prettyFields]; rfl
  | (key, value) :: rest => by
    simp only [fields, prettyFields, chars_indented (depth + 1) value, fields_indented depth rest]
    simp [indented]

end

end Layout

/-! ## Values that are read back -/

mutual

/-- All numbers of a value are natural. -/
def Integral : Json → Prop
  | .decimal _ => False
  | .list vs => AllIntegral vs
  | .object fs => FieldsIntegral fs
  | _ => True

/-- All numbers of some values are natural. -/
def AllIntegral : List Json → Prop
  | [] => True
  | v :: rest => v.Integral ∧ AllIntegral rest

/-- All numbers of some fields are natural. -/
def FieldsIntegral : List (String × Json) → Prop
  | [] => True
  | (_, v) :: rest => v.Integral ∧ FieldsIntegral rest

end

theorem allIntegral_iff {vs : List Json} : AllIntegral vs ↔ ∀ v ∈ vs, v.Integral := by
  induction vs with
  | nil => simp [AllIntegral]
  | cons v rest ih => simp [AllIntegral, ih]

theorem fieldsIntegral_iff {fs : List (String × Json)} :
    FieldsIntegral fs ↔ ∀ f ∈ fs, f.2.Integral := by
  induction fs with
  | nil => simp [FieldsIntegral]
  | cons f rest ih => simp [FieldsIntegral, ih]

/-! ## Blanks -/

/-- Blanks alone. -/
def Blank (cs : List Char) : Prop := ∀ c ∈ cs, isSpace c = true

theorem skipSpace_append {ws : List Char} (h : Blank ws) (cs : List Char) :
    skipSpace (ws ++ cs) = skipSpace cs :=
  List.dropWhile_append_of_pos h

theorem skipSpace_cons {c : Char} (h : isSpace c = false) (cs : List Char) :
    skipSpace (c :: cs) = c :: cs := by
  rw [skipSpace, List.dropWhile_cons, h]
  rfl

theorem blank_nil : Blank [] := fun _ hc => absurd hc List.not_mem_nil

theorem blank_lineEnd : Blank ['\n'] := by
  intro c hc
  rw [List.mem_singleton.mp hc]
  rfl

theorem not_isDigit_of_isSpace {c : Char} (h : isSpace c = true) : c.isDigit = false := by
  simp only [isSpace, Bool.or_eq_true, beq_iff_eq] at h
  rcases h with ((rfl | rfl) | rfl) | rfl
  all_goals rfl

/-- A blank ends a number. -/
theorem endsNumber_of_isSpace {c : Char} (h : isSpace c = true) (rest : List Char) :
    EndsNumber (c :: rest) := by
  intro c' hc
  cases hc
  simp only [isSpace, Bool.or_eq_true, beq_iff_eq] at h
  rcases h with ((rfl | rfl) | rfl) | rfl
  all_goals decide

/-- Punctuation after blanks ends a number. -/
theorem endsNumber_append {ws : List Char} (h : Blank ws) {c : Char} (hdigit : c.isDigit = false)
    (hc : c ≠ '.' ∧ c ≠ 'e' ∧ c ≠ 'E') (rest : List Char) : EndsNumber (ws ++ c :: rest) := by
  cases ws with
  | nil =>
      intro c' hc'
      cases hc'
      exact ⟨hdigit, hc⟩
  | cons w ws => exact endsNumber_of_isSpace (h w List.mem_cons_self) (ws ++ c :: rest)

/-! ## The steps of the reader -/

section Steps

variable {fuel : Nat} {cs rest : List Char}

theorem readValue_number {c : Char} (h : skipSpace cs = c :: rest) (hc : c.isDigit = true) :
    readValue (fuel + 1) cs = .ofToken (readNumber (c :: rest)) := by
  rw [readValue, h]
  split
  iterate 6 (rename_i heq; obtain ⟨rfl, -⟩ := List.cons.inj heq; exact absurd hc (by decide))
  rfl

theorem readValue_text (s : String) (h : skipSpace cs = quote s ++ rest) :
    readValue (fuel + 1) cs = ⟨some (.text s), some rest⟩ := by
  rw [quote, List.append_assoc, List.singleton_append] at h
  rw [readValue, h]
  simp only [List.cons_append, readString_flatMap_escape, Option.map_some, String.ofList_toList]
  rfl

theorem readValue_items {c : Char} {more : List Char} (h : skipSpace cs = '[' :: rest)
    (hrest : skipSpace rest = c :: more) (hc : c ≠ ']') :
    readValue (fuel + 1) cs =
      ⟨some (.list (readItems fuel (c :: more)).value), (readItems fuel (c :: more)).rest⟩ := by
  rw [readValue, h]
  simp only [hrest]
  split
  · rename_i heq
    exact absurd (List.cons.inj heq).1 hc
  · rfl

theorem readValue_fields {c : Char} {more : List Char} (h : skipSpace cs = '\x7b' :: rest)
    (hrest : skipSpace rest = c :: more) (hc : c ≠ '\x7d') :
    readValue (fuel + 1) cs =
      ⟨some (.object (readFields fuel (c :: more)).value),
        (readFields fuel (c :: more)).rest⟩ := by
  rw [readValue, h]
  simp only [hrest]
  split
  · rename_i heq
    exact absurd (List.cons.inj heq).1 hc
  · rfl

theorem readItems_last {item : Json} {after : List Char}
    (hitem : readValue fuel cs = ⟨some item, some after⟩) (hafter : skipSpace after = ']' :: rest) :
    readItems (fuel + 1) cs = ⟨[item], some rest⟩ := by
  rw [readItems, hitem]
  simp only [hafter]
  rfl

theorem readItems_more {item : Json} {after : List Char}
    (hitem : readValue fuel cs = ⟨some item, some after⟩) (hafter : skipSpace after = ',' :: rest) :
    readItems (fuel + 1) cs =
      ⟨item :: (readItems fuel rest).value, (readItems fuel rest).rest⟩ := by
  rw [readItems, hitem]
  simp only [hafter]
  rfl

theorem readFields_last {key : String} {v : Json} {colon blanks after : List Char}
    (hkey : skipSpace cs = quote key ++ colon) (hcolon : skipSpace colon = ':' :: blanks)
    (hvalue : readValue fuel blanks = ⟨some v, some after⟩)
    (hafter : skipSpace after = '\x7d' :: rest) :
    readFields (fuel + 1) cs = ⟨[(key, v)], some rest⟩ := by
  rw [quote, List.append_assoc, List.singleton_append, List.cons_append] at hkey
  rw [readFields]
  simp only [hkey, readString_flatMap_escape, hcolon, hvalue, hafter, String.ofList_toList]
  rfl

theorem readFields_more {key : String} {v : Json} {colon blanks after : List Char}
    (hkey : skipSpace cs = quote key ++ colon) (hcolon : skipSpace colon = ':' :: blanks)
    (hvalue : readValue fuel blanks = ⟨some v, some after⟩)
    (hafter : skipSpace after = ',' :: rest) :
    readFields (fuel + 1) cs =
      ⟨(key, v) :: (readFields fuel rest).value, (readFields fuel rest).rest⟩ := by
  rw [quote, List.append_assoc, List.singleton_append, List.cons_append] at hkey
  rw [readFields]
  simp only [hkey, readString_flatMap_escape, hcolon, hvalue, hafter, String.ofList_toList]
  rfl

end Steps

/-! ## Reading a layout -/

namespace Layout

variable {l : Layout}

/-- The blanks of a layout are blanks. -/
structure IsBlank (l : Layout) : Prop where
  line : ∀ depth, Blank (l.line depth)
  colon : Blank l.colon

theorem isBlank_compact : compact.IsBlank :=
  ⟨fun _ _ hc => absurd hc List.not_mem_nil, fun _ hc => absurd hc List.not_mem_nil⟩

theorem isBlank_indented : indented.IsBlank := by
  constructor
  · intro depth c hc
    rcases List.mem_cons.mp hc with rfl | hc
    · rfl
    · rw [List.eq_of_mem_replicate hc]
      rfl
  · intro c hc
    rw [List.mem_singleton.mp hc]
    rfl

/-- A value begins with a character that is neither a blank nor the end of a list. -/
theorem exists_chars_eq_cons {v : Json} (hv : v.Integral) (depth : Nat) :
    ∃ c cs, l.chars depth v = c :: cs ∧ isSpace c = false ∧ c ≠ ']' := by
  cases v with
  | null => exact ⟨_, _, by rw [chars], by decide, by decide⟩
  | bool b => cases b <;> exact ⟨_, _, by rw [chars], by decide, by decide⟩
  | natural n =>
      obtain ⟨c, cs, hrender, hdigit⟩ := Decimal.exists_render_eq_cons n
      refine ⟨c, cs, by rw [chars, hrender], ?_, ?_⟩
      · rw [Bool.eq_false_iff]
        intro hspace
        exact absurd hdigit (by rw [not_isDigit_of_isSpace hspace]; decide)
      · rintro rfl
        exact absurd hdigit (by decide)
  | decimal digits => exact hv.elim
  | text s => exact ⟨_, _, by rw [chars]; rfl, by decide, by decide⟩
  | list vs => cases vs <;> exact ⟨_, _, by rw [chars], by decide, by decide⟩
  | object fs =>
      rcases fs with _ | ⟨⟨key, value⟩, rest⟩
      all_goals exact ⟨_, _, by rw [chars], by decide, by decide⟩

theorem skipSpace_chars {v : Json} (hv : v.Integral) (depth : Nat) (rest : List Char) :
    skipSpace (l.chars depth v ++ rest) = l.chars depth v ++ rest := by
  obtain ⟨c, cs, hchars, hspace, -⟩ := exists_chars_eq_cons (l := l) hv depth
  rw [hchars, List.cons_append, skipSpace_cons hspace]

theorem length_chars_pos {v : Json} (hv : v.Integral) (depth : Nat) :
    0 < (l.chars depth v).length := by
  obtain ⟨c, cs, hchars, -⟩ := exists_chars_eq_cons (l := l) hv depth
  rw [hchars]
  exact Nat.succ_pos _

/-- A value is read after blanks and up to a text that ends it, given enough steps. -/
def ReadsValues (l : Layout) (fuel : Nat) : Prop :=
  ∀ (v : Json) (depth : Nat) (ws rest : List Char), v.Integral → Blank ws → EndsNumber rest →
    (l.chars depth v).length < fuel →
    readValue fuel (ws ++ (l.chars depth v ++ rest)) = ⟨some v, some rest⟩

/-- The items of a list are read up to its end. -/
def ReadsItems (l : Layout) (fuel : Nat) : Prop :=
  ∀ (v : Json) (vs : List Json) (depth : Nat) (ws rest : List Char), v.Integral →
    AllIntegral vs → Blank ws →
    (l.chars (depth + 1) v).length + (l.items depth vs).length < fuel →
    readItems fuel (ws ++ (l.chars (depth + 1) v ++ (l.items depth vs ++ rest))) =
      ⟨v :: vs, some rest⟩

/-- The fields of an object are read up to its end. -/
def ReadsFields (l : Layout) (fuel : Nat) : Prop :=
  ∀ (key : String) (v : Json) (fs : List (String × Json)) (depth : Nat) (ws rest : List Char),
    v.Integral → FieldsIntegral fs → Blank ws →
    (l.chars (depth + 1) v).length + (l.fields depth fs).length < fuel →
    readFields fuel (ws ++ (quote key ++ ':' :: (l.colon ++
      (l.chars (depth + 1) v ++ (l.fields depth fs ++ rest))))) = ⟨(key, v) :: fs, some rest⟩

theorem readsItems_succ (hl : l.IsBlank) {fuel : Nat} (hvalue : l.ReadsValues fuel)
    (hitems : l.ReadsItems fuel) : l.ReadsItems (fuel + 1) := by
  intro v vs depth ws rest hv hvs hws hlen
  have hpos := length_chars_pos (l := l) hv (depth + 1)
  cases vs with
  | nil =>
      simp only [items, List.append_assoc, List.singleton_append, List.length_append,
        List.length_singleton] at hlen ⊢
      have hone := hvalue v (depth + 1) ws (l.line depth ++ ']' :: rest) hv hws
        (endsNumber_append (hl.line depth) (by decide) (by decide) rest) (by omega)
      refine readItems_last hone ?_
      rw [skipSpace_append (hl.line depth), skipSpace_cons (by decide)]
  | cons next more =>
      obtain ⟨hnext, hmore⟩ := hvs
      simp only [items, List.cons_append, List.append_assoc, List.length_cons,
        List.length_append] at hlen ⊢
      have hone := hvalue v (depth + 1) ws
        (',' :: (l.line (depth + 1) ++ (l.chars (depth + 1) next ++ (l.items depth more ++ rest))))
        hv hws (endsNumber_append blank_nil (by decide) (by decide) _) (by omega)
      have htail := hitems next more depth (l.line (depth + 1)) rest hnext hmore
        (hl.line (depth + 1)) (by omega)
      rw [readItems_more hone (skipSpace_cons (by decide) _), htail]

theorem readsFields_succ (hl : l.IsBlank) {fuel : Nat} (hvalue : l.ReadsValues fuel)
    (hfields : l.ReadsFields fuel) : l.ReadsFields (fuel + 1) := by
  intro key v fs depth ws rest hv hfs hws hlen
  have hpos := length_chars_pos (l := l) hv (depth + 1)
  have hkey : ∀ after, skipSpace (ws ++ (quote key ++ after)) = quote key ++ after := by
    intro after
    rw [skipSpace_append hws, quote, List.append_assoc, List.cons_append,
      skipSpace_cons (by decide)]
  have hcolon : ∀ after, skipSpace (':' :: after) = ':' :: after := fun after =>
    skipSpace_cons (by decide) after
  cases fs with
  | nil =>
      simp only [fields, List.append_assoc, List.singleton_append, List.length_append,
        List.length_singleton] at hlen ⊢
      have hone := hvalue v (depth + 1) l.colon (l.line depth ++ '\x7d' :: rest) hv hl.colon
        (endsNumber_append (hl.line depth) (by decide) (by decide) rest) (by omega)
      refine readFields_last (hkey _) (hcolon _) hone ?_
      rw [skipSpace_append (hl.line depth), skipSpace_cons (by decide)]
  | cons next more =>
      obtain ⟨nextKey, next⟩ := next
      obtain ⟨hnext, hmore⟩ := hfs
      simp only [fields, List.cons_append, List.append_assoc, List.length_cons,
        List.length_append] at hlen ⊢
      have hone := hvalue v (depth + 1) l.colon
        (',' :: (l.line (depth + 1) ++ (quote nextKey ++ ':' :: (l.colon ++
          (l.chars (depth + 1) next ++ (l.fields depth more ++ rest))))))
        hv hl.colon (endsNumber_append blank_nil (by decide) (by decide) _) (by omega)
      have htail := hfields nextKey next more depth (l.line (depth + 1)) rest hnext hmore
        (hl.line (depth + 1)) (by omega)
      rw [readFields_more (hkey _) (hcolon _) hone (skipSpace_cons (by decide) _), htail]

theorem readsValues_succ (hl : l.IsBlank) {fuel : Nat} (hitems : l.ReadsItems fuel)
    (hfields : l.ReadsFields fuel) : l.ReadsValues (fuel + 1) := by
  intro v depth ws rest hv hws hrest hlen
  have hskip : skipSpace (ws ++ (l.chars depth v ++ rest)) = l.chars depth v ++ rest := by
    rw [skipSpace_append hws, skipSpace_chars hv]
  cases v with
  | null =>
      rw [readValue, hskip, chars]
      rfl
  | bool b => cases b <;> rw [readValue, hskip, chars] <;> rfl
  | natural n =>
      obtain ⟨c, cs, hrender, hdigit⟩ := Decimal.exists_render_eq_cons n
      rw [chars, hrender, List.cons_append] at hskip
      rw [chars, hrender, List.cons_append, readValue_number hskip hdigit, ← List.cons_append,
        ← hrender, readNumber_render n hrest]
      rfl
  | decimal digits => exact hv.elim
  | text s => exact readValue_text s (by rw [hskip, chars])
  | list vs =>
      cases vs with
      | nil =>
          rw [readValue, hskip, chars]
          rfl
      | cons item more =>
          obtain ⟨hitem, hmore⟩ := hv
          obtain ⟨c, cs, hchars, -, hc⟩ := exists_chars_eq_cons (l := l) hitem (depth + 1)
          have hread := hitems item more depth [] rest hitem hmore blank_nil
          simp only [chars, List.cons_append, List.append_assoc, List.length_cons,
            List.length_append, List.nil_append] at hskip hlen hread ⊢
          have hfirst : skipSpace (l.line (depth + 1) ++ (l.chars (depth + 1) item ++
              (l.items depth more ++ rest))) = c :: (cs ++ (l.items depth more ++ rest)) := by
            rw [skipSpace_append (hl.line _), skipSpace_chars hitem, hchars, List.cons_append]
          rw [readValue_items hskip hfirst hc, ← List.cons_append, ← hchars,
            hread (by omega)]
  | object fs =>
      rcases fs with _ | ⟨⟨key, value⟩, more⟩
      · rw [readValue, hskip, chars]
        rfl
      · obtain ⟨hvalue, hmore⟩ := hv
        have hread := hfields key value more depth [] rest hvalue hmore blank_nil
        simp only [chars, quote, List.cons_append, List.append_assoc, List.length_cons,
          List.length_append, List.nil_append] at hskip hlen hread ⊢
        rw [readValue_fields hskip ((skipSpace_append (hl.line _) _).trans
          (skipSpace_cons (by decide) _)) (by decide), hread (by omega)]

/-- Every nesting of values is read with more steps than its text has characters. -/
theorem readsValues (hl : l.IsBlank) (fuel : Nat) :
    l.ReadsValues fuel ∧ l.ReadsItems fuel ∧ l.ReadsFields fuel := by
  induction fuel with
  | zero =>
      refine ⟨?_, ?_, ?_⟩
      · intro _ _ _ _ _ _ _ hlen
        exact absurd hlen (Nat.not_lt_zero _)
      · intro _ _ _ _ _ _ _ _ hlen
        exact absurd hlen (Nat.not_lt_zero _)
      · intro _ _ _ _ _ _ _ _ _ hlen
        exact absurd hlen (Nat.not_lt_zero _)
  | succ fuel ih =>
      obtain ⟨hvalues, hitems, hfields⟩ := ih
      exact ⟨readsValues_succ hl hitems hfields, readsItems_succ hl hvalues hitems,
        readsFields_succ hl hvalues hfields⟩

/-- A value in a layout, with blanks after it, is read as the value. -/
theorem readText_chars (hl : l.IsBlank) {v : Json} (hv : v.Integral) (depth : Nat)
    {ws : List Char} (hws : Blank ws) :
    readText (String.ofList (l.chars depth v ++ ws)) = ⟨some v, some ws⟩ := by
  have hends : EndsNumber ws := by
    cases ws with
    | nil => exact fun c hc => nomatch hc
    | cons w ws => exact endsNumber_of_isSpace (hws w List.mem_cons_self) ws
  have hread := (readsValues hl (readingFuel (l.chars depth v ++ ws))).1 v depth [] ws hv blank_nil
    hends (by rw [readingFuel, List.length_append]; omega)
  rw [List.nil_append] at hread
  have hskip : skipSpace ws = [] := by
    rw [← List.append_nil ws, skipSpace_append hws]
    rfl
  simp only [readText, String.toList_ofList, hread, Option.map_some, hskip]

end Layout

/-- The indented text of a value, with blanks after it, is read as the value. -/
theorem readText_pretty {v : Json} (hv : v.Integral) {ws : List Char} (hws : Blank ws) :
    readText (v.pretty ++ String.ofList ws) = ⟨some v, some ws⟩ := by
  rw [pretty, ← String.ofList_append, ← Layout.chars_indented]
  exact Layout.readText_chars Layout.isBlank_indented hv 0 hws

/-- The compact text of a value is read as the value. -/
theorem readText_compact {v : Json} (hv : v.Integral) : readText v.compact = ⟨some v, some []⟩ := by
  have hread := Layout.readText_chars Layout.isBlank_compact hv 0 blank_nil
  rwa [List.append_nil, Layout.chars_compact] at hread

end Json

end RecordSchema
