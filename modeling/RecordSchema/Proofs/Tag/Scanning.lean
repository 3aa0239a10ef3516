/-
What the scanner makes of a text.

The scanner goes from token to token and stops at the first fault. So it accepts the well-formed tags
and gives their tokens (`scan_eq_ok_iff`), and any other text it splits into a well-formed part, whose
tokens it gives, and a rest that starts with a fault, which it reports (`scan_eq_error_iff`).

A reader of a tag may ask for one item after the other instead (`Lexer`). The answers are the tokens,
then the fault if there is one, and then nothing, however often it asks.
-/
import RecordSchema.Proofs.Tag.Grammar

set_option autoImplicit false

namespace RecordSchema.Tag

open Text

/-! ## One step of the scanner -/

section Step

variable {cs tail rest : List Char} {c : Char} {token : Token} {error : TokenError}

theorem scan_of_blanks (h : cs.dropWhile isBlank = []) : scan cs = ([], none) := by
  rw [scan]
  split
  · rfl
  · rename_i hcons
    rw [h] at hcons
    cases hcons

theorem scan_of_error (h : cs.dropWhile isBlank = c :: tail)
    (hread : readToken (c :: tail) = .error error) : scan cs = ([], some error) := by
  rw [scan]
  split
  · rename_i hnil
    rw [h] at hnil
    cases hnil
  · rename_i hcons
    rw [h] at hcons
    cases hcons
    split
    · rename_i herror
      rw [hread] at herror
      cases herror
      rfl
    · rename_i hok
      rw [hread] at hok
      cases hok

theorem scan_of_token (h : cs.dropWhile isBlank = c :: tail)
    (hread : readToken (c :: tail) = .ok (token, rest)) :
    scan cs = (token :: (scan rest).1, (scan rest).2) := by
  rw [scan]
  split
  · rename_i hnil
    rw [h] at hnil
    cases hnil
  · rename_i hcons
    rw [h] at hcons
    cases hcons
    split
    · rename_i herror
      rw [hread] at herror
      cases herror
    · rename_i hok
      rw [hread] at hok
      cases hok
      rfl

end Step

/-! ## Scanning what the grammar writes -/

/-- Blanks in front are passed over. -/
theorem scan_blanks_append {before : List Char} (h : Blanks before) (rest : List Char) :
    scan (before ++ rest) = scan rest := by
  have hdrop := h.dropWhile_append rest
  cases hrest : rest.dropWhile isBlank with
  | nil => rw [scan_of_blanks (hdrop.trans hrest), scan_of_blanks hrest]
  | cons c tail =>
      cases hread : readToken (c :: tail) with
      | error e => rw [scan_of_error (hdrop.trans hrest) hread, scan_of_error hrest hread]
      | ok both => rw [scan_of_token (hdrop.trans hrest) hread, scan_of_token hrest hread]

/-- A text that starts with no blank has none to pass over. -/
private theorem dropWhile_of_head? {cs : List Char} {c : Char} (hc : cs.head? = some c)
    (hblank : isBlank c = false) : ∃ tail, cs = c :: tail ∧ cs.dropWhile isBlank = c :: tail := by
  obtain ⟨tail, rfl⟩ := List.head?_eq_some_iff.mp hc
  exact ⟨tail, rfl, List.dropWhile_cons_of_neg (by simp [hblank])⟩

/-- A token is given, and the scan goes on behind it. -/
theorem scan_written_append {text after : List Char} {token : Token} (h : Written text token)
    (hafter : EndsToken after) :
    scan (text ++ after) = (token :: (scan after).1, (scan after).2) := by
  obtain ⟨c, hc, hblank⟩ := h.exists_head? after
  obtain ⟨tail, hcons, hdrop⟩ := dropWhile_of_head? hc hblank
  exact scan_of_token hdrop (hcons ▸ readToken_of_written h hafter)

/-- A fault is reported. -/
theorem scan_fault {rest : List Char} {error : TokenError} (h : Fault rest error) :
    scan rest = ([], some error) := by
  obtain ⟨c, hc, hblank⟩ := h.exists_head?
  obtain ⟨tail, hcons, hdrop⟩ := dropWhile_of_head? hc hblank
  exact scan_of_error hdrop (hcons ▸ readToken_of_fault h)

/-- Blanks may follow a token. -/
theorem Blanks.endsToken_append {gap rest : List Char} (hgap : Blanks gap) (hne : gap ≠ []) :
    EndsToken (gap ++ rest) := by
  obtain ⟨d, ds, rfl⟩ := List.exists_cons_of_ne_nil hne
  intro c hc
  rw [List.cons_append, List.head?_cons, Option.some.injEq] at hc
  rw [← hc]
  exact hgap d List.mem_cons_self

/-- Tokens with blanks between them are given, and the scan goes on behind them. -/
theorem Separated.scan_append {text : List Char} {toks : List Token} (h : Separated text toks)
    {after : List Char} (hafter : EndsToken after) :
    scan (text ++ after) = (toks ++ (scan after).1, (scan after).2) := by
  induction h with
  | one h => exact scan_written_append h hafter
  | more h hgap hne _ ih =>
      rw [List.append_assoc, List.append_assoc,
        scan_written_append h (Blanks.endsToken_append hgap hne), scan_blanks_append hgap, ih]
      rfl

/-- The tokens of a tag are given, and the scan goes on behind it, where a token may start there. -/
theorem WellFormed.scan_append {before : List Char} {toks : List Token}
    (h : WellFormed before toks) (rest : List Char) (hstart : StartsToken before) :
    scan (before ++ rest) = (toks ++ (scan rest).1, (scan rest).2) := by
  cases h with
  | blank hblanks => exact scan_blanks_append hblanks rest
  | @tokens front text after _ hbefore htokens hafter =>
      -- the last token ends with no blank, so that there is a blank behind it
      have hne : after ≠ [] := by
        rintro rfl
        obtain ⟨c, hc, hblank⟩ := htokens.exists_getLast?
        have hlast : (front ++ (text ++ [])).getLast? = some c := by
          rw [List.append_nil, List.getLast?_append, hc, Option.some_or]
        rw [hstart c hlast] at hblank
        cases hblank
      rw [List.append_assoc, scan_blanks_append hbefore, List.append_assoc,
        htokens.scan_append (Blanks.endsToken_append hafter hne), scan_blanks_append hafter]

/-- A tag is scanned to its tokens. -/
theorem scan_of_wellFormed {cs : List Char} {toks : List Token} (h : WellFormed cs toks) :
    scan cs = (toks, none) := by
  cases h with
  | blank hblanks => exact scan_of_blanks hblanks.dropWhile_eq
  | @tokens before text after _ hbefore htokens hafter =>
      have hend : EndsToken after := fun c hc => hafter c (List.mem_of_mem_head? hc)
      rw [scan_blanks_append hbefore, htokens.scan_append hend,
        scan_of_blanks hafter.dropWhile_eq, List.append_nil]

/-! ## What every text is -/

/-- A token in front of a tag makes a tag. -/
theorem WellFormed.cons {front text rest : List Char} {token : Token} {toks : List Token}
    (hfront : Blanks front) (h : Written text token) (hend : EndsToken rest)
    (hrest : WellFormed rest toks) : WellFormed (front ++ (text ++ rest)) (token :: toks) := by
  cases hrest with
  | blank hblanks => exact .tokens hfront (.one h) hblanks
  | @tokens before tokensText after _ hbefore htokens hafter =>
      -- the next token starts with no blank, so that there is a blank before it
      have hne : before ≠ [] := by
        rintro rfl
        obtain ⟨c, hc, hblank⟩ := htokens.exists_head? after
        rw [hend c hc] at hblank
        cases hblank
      have hmore := WellFormed.tokens hfront (.more h hbefore hne htokens) hafter
      simpa only [List.append_assoc] using hmore

/-- A token is no empty text. -/
theorem Written.ne_nil {text : List Char} {token : Token} (h : Written text token) : text ≠ [] := by
  obtain ⟨c, hc, -⟩ := h.exists_getLast?
  rintro rfl
  cases hc

/-- Where a token may end before some text, it may end before a part of that text. -/
theorem EndsToken.left {front rest : List Char} (h : EndsToken (front ++ rest)) :
    EndsToken front := by
  intro c hc
  apply h c
  rw [List.head?_append, hc, Option.some_or]

/-- Whether a token may start behind a text is seen from its end. -/
theorem StartsToken.append {text : List Char} (h : StartsToken text) (hne : text ≠ [])
    (front : List Char) : StartsToken (front ++ text) := by
  intro c hc
  have hlast := List.getLast?_eq_some_getLast hne
  rw [List.getLast?_append, hlast, Option.some_or] at hc
  exact h c (hlast.trans hc)

/-- A fault does not stand where a token may end. -/
theorem Fault.not_endsToken {rest : List Char} {error : TokenError} (h : Fault rest error) :
    ¬EndsToken rest := by
  intro hend
  obtain ⟨c, hc, hblank⟩ := h.exists_head?
  rw [hend c hc] at hblank
  cases hblank

/-- Every text is a tag with nothing behind it, or a tag with a fault behind it where a token may
start; the scanner gives the tokens of that tag and reports that fault. -/
theorem exists_wellFormed_append (cs : List Char) :
    WellFormed cs (scan cs).1 ∧ (scan cs).2 = none ∨
      ∃ before rest error, cs = before ++ rest ∧ WellFormed before (scan cs).1 ∧
        StartsToken before ∧ Fault rest error ∧ (scan cs).2 = some error := by
  -- what is left behind a token is shorter, so the induction is on the length
  induction hlength : cs.length using Nat.strongRecOn generalizing cs with
  | ind n ih =>
      obtain ⟨front, tail, rfl, hfront, htail⟩ := exists_blanks_append cs
      rw [scan_blanks_append hfront]
      rcases tail with _ | ⟨c, tail⟩
      · left
        rw [List.append_nil, scan_of_blanks rfl]
        exact ⟨.blank hfront, rfl⟩
      rcases exists_written_or_fault (htail c rfl) tail with
        ⟨text, after, token, hsplit, hwritten, hend⟩ | ⟨error, hfault⟩
      · rw [hsplit, scan_written_append hwritten hend]
        have hshorter : after.length < n := by
          have hpos := List.length_pos_iff.mpr hwritten.ne_nil
          rw [← hlength, hsplit, List.length_append, List.length_append]
          omega
        rcases ih after.length hshorter after rfl with
          ⟨hafter, hnone⟩ | ⟨before, rest, error, rfl, hbefore, hstart, hfault, hsome⟩
        · exact Or.inl ⟨.cons hfront hwritten hend hafter, hnone⟩
        · -- a fault starts with no blank, so that it does not follow the token at once
          have hne : before ≠ [] := by
            rintro rfl
            exact hfault.not_endsToken hend
          right
          refine ⟨front ++ (text ++ before), rest, error, ?_,
            .cons hfront hwritten hend.left hbefore, ?_, hfault, hsome⟩
          · simp only [List.append_assoc]
          · rw [← List.append_assoc]
            exact hstart.append hne _
      · right
        rw [scan_fault hfault]
        refine ⟨front, c :: tail, error, rfl, .blank hfront, ?_, hfault, rfl⟩
        intro d hd
        exact hfront d (List.mem_of_getLast? hd)

/-- The scanner accepts the tags, and gives their tokens. -/
theorem scan_eq_ok_iff {cs : List Char} {toks : List Token} :
    scan cs = (toks, none) ↔ WellFormed cs toks := by
  constructor
  · intro h
    rcases exists_wellFormed_append cs with ⟨hcs, -⟩ | ⟨_, _, _, _, _, _, _, hsome⟩
    · rwa [h] at hcs
    · rw [h] at hsome
      cases hsome
  · exact scan_of_wellFormed

/-- Any other text the scanner refuses for the fault that stands behind a tag, and it gives the tokens
of that tag. -/
theorem scan_eq_error_iff {cs : List Char} {toks : List Token} {error : TokenError} :
    scan cs = (toks, some error) ↔
      ∃ before rest, cs = before ++ rest ∧ WellFormed before toks ∧ StartsToken before ∧
        Fault rest error := by
  constructor
  · intro h
    rcases exists_wellFormed_append cs with
      ⟨-, hnone⟩ | ⟨before, rest, error', rfl, hbefore, hstart, hfault, hsome⟩
    · rw [h] at hnone
      cases hnone
    · rw [h] at hbefore hsome
      cases hsome
      exact ⟨before, rest, rfl, hbefore, hstart, hfault⟩
  · rintro ⟨before, rest, rfl, hbefore, hstart, hfault⟩
    rw [hbefore.scan_append rest hstart, scan_fault hfault, List.append_nil]

/-! ## One item at a time -/

/-- A reader of a tag between two items: the text that it has not gone through. -/
structure Lexer where
  rest : List Char

namespace Lexer

/-- The reader at the start of a tag. -/
def new (tag : String) : Lexer := ⟨tag.toList⟩

/-- The next item and the reader behind it. Behind a fault there is nothing left to read. -/
def next (lexer : Lexer) : Option (Except TokenError Token) × Lexer :=
  match lexer.rest.dropWhile isBlank with
  | [] => (none, ⟨[]⟩)
  | c :: tail =>
    match readToken (c :: tail) with
    | .error e => (some (.error e), ⟨[]⟩)
    | .ok (token, rest) => (some (.ok token), ⟨rest⟩)

/-- The reader after it was asked some times. -/
def after (lexer : Lexer) : Nat → Lexer
  | 0 => lexer
  | n + 1 => lexer.next.2.after n

/-- What the reader answers after it was asked some times. -/
def answer (lexer : Lexer) (n : Nat) : Option (Except TokenError Token) := (lexer.after n).next.1

end Lexer

/-- The items of a text: its tokens, and the fault behind them if there is one. -/
def items (cs : List Char) : List (Except TokenError Token) :=
  (scan cs).1.map .ok ++ (scan cs).2.toList.map .error

/-- The answers are the items in order, and nothing after them. -/
theorem Lexer.answer_eq (cs : List Char) (n : Nat) : (⟨cs⟩ : Lexer).answer n = (items cs)[n]? := by
  induction n generalizing cs with
  | zero =>
      change (Lexer.next ⟨cs⟩).1 = (items cs)[0]?
      unfold next items
      cases hcs : cs.dropWhile isBlank with
      | nil => rw [scan_of_blanks hcs]; rfl
      | cons c tail =>
          cases hread : readToken (c :: tail) with
          | error e => simp only [hread, scan_of_error hcs hread]; rfl
          | ok both => simp only [hread, scan_of_token hcs hread]; rfl
  | succ n ih =>
      change (Lexer.next ⟨cs⟩).2.answer n = (items cs)[n + 1]?
      have hempty : (⟨[]⟩ : Lexer).answer n = none := by
        rw [ih, items, scan_of_blanks rfl]
        rfl
      unfold next items
      cases hcs : cs.dropWhile isBlank with
      | nil =>
          rw [scan_of_blanks hcs]
          exact hempty
      | cons c tail =>
          cases hread : readToken (c :: tail) with
          | error e =>
              simp only [hread, scan_of_error hcs hread]
              exact hempty
          | ok both =>
              simp only [hread, scan_of_token hcs hread]
              exact ih both.2

/-! ## The whole tag -/

/-- Asked again and again, the reader of a tag answers with the tokens, then with the fault if there
is one, and then with nothing. There is no fault exactly if the text is a tag in the grammar, and then
these are its tokens. Otherwise the tokens are those of the part before the first place where a token
should start and none does, and the fault is what stands there. -/
theorem tokens_grammar (tag : String) :
    (∀ n, (Lexer.new tag).answer n =
      ((tokens tag).1.map .ok ++ (tokens tag).2.toList.map .error)[n]?) ∧
    (∀ toks, tokens tag = (toks, none) ↔ WellFormed tag.toList toks) ∧
    (∀ toks error, tokens tag = (toks, some error) ↔
      ∃ before rest, tag.toList = before ++ rest ∧ WellFormed before toks ∧ StartsToken before ∧
        Malformed rest ∧ Fault rest error) ∧
    ∀ toks before rest, tag.toList = before ++ rest → WellFormed before toks →
      StartsToken before → Malformed rest → ∃ error, tokens tag = (toks, some error) := by
  refine ⟨fun n => Lexer.answer_eq tag.toList n, fun toks => scan_eq_ok_iff, ?_, ?_⟩
  · intro toks error
    rw [tokens, scan_eq_error_iff]
    constructor
    · rintro ⟨before, rest, hsplit, hbefore, hstart, hfault⟩
      exact ⟨before, rest, hsplit, hbefore, hstart, exists_fault_iff_malformed.mp ⟨_, hfault⟩,
        hfault⟩
    · rintro ⟨before, rest, hsplit, hbefore, hstart, -, hfault⟩
      exact ⟨before, rest, hsplit, hbefore, hstart, hfault⟩
  · intro toks before rest hsplit hbefore hstart hmalformed
    obtain ⟨error, hfault⟩ := exists_fault_iff_malformed.mpr hmalformed
    exact ⟨error, scan_eq_error_iff.mpr ⟨before, rest, hsplit, hbefore, hstart, hfault⟩⟩

/-- The value between quotes keeps its colon and its inner blank, and the scan ends at the value
without quotes, whatever follows it. -/
theorem tokens_grammar_unquoted :
    ∃ before rest, "nameInDb:\" a: b \"\tid index:hash unique\"".toList = before ++ rest ∧
      WellFormed before [⟨"nameInDb", some "a: b"⟩, ⟨"id", none⟩] ∧ StartsToken before ∧
      Malformed rest ∧ Fault rest (.invalidValue "index" "hash") := by
  have h : tokens "nameInDb:\" a: b \"\tid index:hash unique\"" =
      ([⟨"nameInDb", some "a: b"⟩, ⟨"id", none⟩], some (.invalidValue "index" "hash")) := by
    decide +kernel
  exact ((tokens_grammar _).2.2.1 _ _).mp h

end RecordSchema.Tag
