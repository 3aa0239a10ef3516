/-
The grammar of tags.

A tag is tokens with blanks between them, and blanks or nothing around them. A token is a bare key, or
a key, a colon and a quoted body. This module says so as a grammar, which knows neither a position nor
an order of tests, and says what the faults are that can stand where a token should. The scanner then
computes what the grammar determines: every text is a well-formed part followed by nothing or by a
fault (`scan_eq_ok_iff`, `scan_eq_error_iff`), and there is only one way to see it so.

The scanner may also be asked for one item at a time (`Lexer`). It then gives the tokens, at most one
error after them, and nothing ever after.
-/
import Mathlib.Tactic.ByContra
import RecordSchema.Proofs.Text.Blank
import RecordSchema.Tag.Token

set_option autoImplicit false

namespace RecordSchema.Tag

open Text

/-! ## The grammar -/

/-- A key: some characters, none of them a blank, a colon or a quote. -/
def IsKey (cs : List Char) : Prop := cs ≠ [] ∧ ∀ c ∈ cs, isBlank c = false ∧ c ≠ ':' ∧ c ≠ '"'

instance (cs : List Char) : Decidable (IsKey cs) :=
  decidable_of_iff ((!cs.isEmpty && cs.all fun c => !isBlank c && c != ':' && c != '"') = true)
    (by simp [IsKey, and_assoc])

/-- What may stand between quotes: anything but a quote. -/
def IsBody (cs : List Char) : Prop := ∀ c ∈ cs, c ≠ '"'

/-- A text that writes a token. The value of a quoted body is the body trimmed. -/
inductive Written : List Char → Token → Prop where
  | bare {key : List Char} (hkey : IsKey key) : Written key ⟨String.ofList key, none⟩
  | quoted {key body value : List Char} (hkey : IsKey key) (hbody : IsBody body)
      (hvalue : Trimmed body value) :
      Written (key ++ ':' :: '"' :: (body ++ ['"']))
        ⟨String.ofList key, some (String.ofList value)⟩

/-- Tokens with blanks between them: the first, and what follows it behind some blanks. -/
inductive Separated : List Char → List Token → Prop where
  | one {text : List Char} {token : Token} (h : Written text token) : Separated text [token]
  | more {text gap rest : List Char} {token : Token} {tokens : List Token}
      (h : Written text token) (hgap : Blanks gap) (hne : gap ≠ []) (hrest : Separated rest tokens) :
      Separated (text ++ (gap ++ rest)) (token :: tokens)

/-- A tag: tokens with blanks around them, or blanks alone. -/
inductive WellFormed : List Char → List Token → Prop where
  | blank {text : List Char} (h : Blanks text) : WellFormed text []
  | tokens {before text after : List Char} {tokens : List Token} (hbefore : Blanks before)
      (h : Separated text tokens) (hafter : Blanks after) :
      WellFormed (before ++ (text ++ after)) tokens

/-- A place where a token may start: at the start of a text or behind a blank. -/
def StartsToken (before : List Char) : Prop := ∀ c, before.getLast? = some c → isBlank c = true

/-- A place where a token may end: at the end of a text or before a blank. -/
def EndsToken (after : List Char) : Prop := ∀ c, after.head? = some c → isBlank c = true

/-- A text that starts with something, and not with a token. -/
def Malformed (rest : List Char) : Prop :=
  (∃ c, rest.head? = some c ∧ isBlank c = false) ∧
    ∀ text after token, rest = text ++ after → Written text token → ¬EndsToken after

/-- What stands where a token should, and how it is reported: a colon or quote in the place of a key,
a colon without a quote behind it, a quote that is never closed, something glued to a closing quote,
and a quote without a colon before it. -/
inductive Fault : List Char → TokenError → Prop where
  | missingKey {c : Char} {rest : List Char} (h : c = ':' ∨ c = '"') :
      Fault (c :: rest) (.missingKey (String.ofList (word (c :: rest))))
  | unquoted {key rest : List Char} (hkey : IsKey key) (h : rest.head? ≠ some '"') :
      Fault (key ++ ':' :: rest)
        (.invalidValue (String.ofList key) (String.ofList (word rest)))
  | unterminated {key body : List Char} (hkey : IsKey key) (hbody : IsBody body) :
      Fault (key ++ ':' :: '"' :: body) (.unterminatedValue (String.ofList key))
  | glued {key body rest : List Char} {c : Char} (hkey : IsKey key) (hbody : IsBody body)
      (hc : isBlank c = false) :
      Fault (key ++ ':' :: '"' :: (body ++ '"' :: c :: rest))
        (.invalidValue (String.ofList key) (String.ofList (word ('"' :: (body ++ '"' :: c :: rest)))))
  | noColon {key rest : List Char} (hkey : IsKey key) :
      Fault (key ++ '"' :: rest)
        (.invalidValue (String.ofList key) (String.ofList (word ('"' :: rest))))

/-! ## Keys and their ends -/

theorem isKeyChar_eq_true_iff {c : Char} :
    isKeyChar c = true ↔ isBlank c = false ∧ c ≠ ':' ∧ c ≠ '"' := by
  simp [isKeyChar, and_assoc]

/-- A character that no key has is a colon or a quote unless it is a blank. -/
private theorem mark_of_not_isKeyChar {c : Char} (hblank : isBlank c = false)
    (h : isKeyChar c = false) : c = ':' ∨ c = '"' := by
  by_contra hneither
  rw [not_or] at hneither
  rw [isKeyChar_eq_true_iff.mpr ⟨hblank, hneither⟩] at h
  cases h

theorem endsToken_nil : EndsToken [] := by simp [EndsToken]

theorem endsToken_cons_iff {c : Char} {cs : List Char} :
    EndsToken (c :: cs) ↔ isBlank c = true := by
  simp [EndsToken]

theorem atBoundary_iff {cs : List Char} : atBoundary cs = true ↔ EndsToken cs := by
  cases cs <;> simp [atBoundary, EndsToken]

namespace IsKey

variable {key : List Char} (h : IsKey key)

include h

/-- A key is read up to the first character that no key has. -/
theorem takeWhile_append {rest : List Char}
    (hrest : ∀ c, rest.head? = some c → isKeyChar c = false) :
    (key ++ rest).takeWhile isKeyChar = key :=
  takeWhile_append_eq (fun c hc => isKeyChar_eq_true_iff.mpr (h.2 c hc)) hrest

theorem dropWhile_append {rest : List Char}
    (hrest : ∀ c, rest.head? = some c → isKeyChar c = false) :
    (key ++ rest).dropWhile isKeyChar = rest :=
  dropWhile_append_eq (fun c hc => isKeyChar_eq_true_iff.mpr (h.2 c hc)) hrest

theorem isEmpty_eq : key.isEmpty = false := by
  simpa using h.1

/-- A text that starts with a key starts with no blank. -/
theorem exists_head?_append (rest : List Char) :
    ∃ c, (key ++ rest).head? = some c ∧ isBlank c = false := by
  obtain ⟨c, cs, rfl⟩ := List.exists_cons_of_ne_nil h.1
  exact ⟨c, rfl, (h.2 c List.mem_cons_self).1⟩

end IsKey

/-- Neither a colon nor a quote is in a key. -/
private theorem isKeyChar_of_mark {c : Char} (h : c = ':' ∨ c = '"') (rest : List Char) :
    ∀ d, (c :: rest).head? = some d → isKeyChar d = false := by
  intro d hd
  rw [List.head?_cons, Option.some.injEq] at hd
  rw [← hd]
  rcases h with rfl | rfl <;> decide

/-- A text that writes a token starts and ends with no blank. -/
theorem Written.exists_head? {text : List Char} {token : Token} (h : Written text token)
    (rest : List Char) : ∃ c, (text ++ rest).head? = some c ∧ isBlank c = false := by
  cases h with
  | bare hkey => exact hkey.exists_head?_append rest
  | quoted hkey _ _ =>
      rw [List.append_assoc]
      exact hkey.exists_head?_append _

theorem Written.exists_getLast? {text : List Char} {token : Token} (h : Written text token) :
    ∃ c, text.getLast? = some c ∧ isBlank c = false := by
  cases h with
  | bare hkey =>
      refine ⟨text.getLast hkey.1, List.getLast?_eq_some_getLast hkey.1, ?_⟩
      exact (hkey.2 _ (List.getLast_mem hkey.1)).1
  | quoted _ _ _ =>
      refine ⟨'"', ?_, by decide⟩
      simp [List.getLast?_append, List.getLast?_cons]

/-- The same holds of several tokens. -/
theorem Separated.exists_head? {text : List Char} {toks : List Token} (h : Separated text toks)
    (rest : List Char) : ∃ c, (text ++ rest).head? = some c ∧ isBlank c = false := by
  cases h with
  | one h => exact h.exists_head? rest
  | more h _ _ _ =>
      rw [List.append_assoc]
      exact h.exists_head? _

theorem Separated.exists_getLast? {text : List Char} {toks : List Token}
    (h : Separated text toks) : ∃ c, text.getLast? = some c ∧ isBlank c = false := by
  induction h with
  | one h => exact h.exists_getLast?
  | more _ _ _ _ ih =>
      obtain ⟨c, hc, hblank⟩ := ih
      refine ⟨c, ?_, hblank⟩
      rw [List.getLast?_append, List.getLast?_append, hc]
      rfl

/-- A fault starts with no blank. -/
theorem Fault.exists_head? {rest : List Char} {error : TokenError} (h : Fault rest error) :
    ∃ c, rest.head? = some c ∧ isBlank c = false := by
  cases h with
  | missingKey h =>
      refine ⟨_, rfl, ?_⟩
      rcases h with rfl | rfl <;> decide
  | unquoted hkey _ => exact hkey.exists_head?_append _
  | unterminated hkey _ => exact hkey.exists_head?_append _
  | glued hkey _ _ => exact hkey.exists_head?_append _
  | noColon hkey => exact hkey.exists_head?_append _

/-! ## A token or a fault -/

/-- A key and a colon start a token with a value, or a fault. -/
private theorem exists_quoted_or_fault {key : List Char} (hkey : IsKey key) (rest : List Char) :
    (∃ text after token, key ++ ':' :: rest = text ++ after ∧ Written text token ∧
        EndsToken after) ∨ ∃ error, Fault (key ++ ':' :: rest) error := by
  by_cases hquote : rest.head? ≠ some '"'
  · exact Or.inr ⟨_, .unquoted hkey hquote⟩
  obtain ⟨quoted, rfl⟩ := List.head?_eq_some_iff.mp (Decidable.not_not.mp hquote)
  obtain ⟨body, after, rfl, hinside, hafter⟩ := exists_span (fun c => c ≠ '"') quoted
  have hbody : IsBody body := fun c hc => by simpa using hinside c hc
  rcases after with _ | ⟨q, after⟩
  · right
    rw [List.append_nil]
    exact ⟨_, .unterminated hkey hbody⟩
  obtain rfl : q = '"' := by simpa using hafter q rfl
  -- the quote is closed, and what counts is whether something is glued to it
  by_cases hend : EndsToken after
  · left
    refine ⟨_, after, _, ?_, .quoted hkey hbody (trimmed_iff.mpr rfl), hend⟩
    simp
  · right
    rcases after with _ | ⟨c, after⟩
    · exact absurd endsToken_nil hend
    · rw [endsToken_cons_iff] at hend
      exact ⟨_, .glued hkey hbody (by simpa using hend)⟩

/-- A text that starts with no blank starts with a token or with a fault. -/
theorem exists_written_or_fault {c : Char} (hc : isBlank c = false) (cs : List Char) :
    (∃ text after token, c :: cs = text ++ after ∧ Written text token ∧ EndsToken after) ∨
      ∃ error, Fault (c :: cs) error := by
  obtain ⟨key, tail, hsplit, hkeyChars, htail⟩ := exists_span isKeyChar (c :: cs)
  rw [hsplit]
  rcases key with _ | ⟨k, ks⟩
  · -- without a key the first character is a colon or a quote
    right
    rw [List.nil_append] at hsplit ⊢
    rw [← hsplit] at htail ⊢
    exact ⟨_, .missingKey (mark_of_not_isKeyChar hc (htail c rfl))⟩
  have hkey : IsKey (k :: ks) :=
    ⟨List.cons_ne_nil k ks, fun d hd => isKeyChar_eq_true_iff.mp (hkeyChars d hd)⟩
  by_cases hend : EndsToken tail
  · exact Or.inl ⟨_, tail, _, rfl, .bare hkey, hend⟩
  rcases tail with _ | ⟨d, rest⟩
  · exact absurd endsToken_nil hend
  -- what ends the key is no blank, so it is one of the two marks
  rw [endsToken_cons_iff] at hend
  rcases mark_of_not_isKeyChar (by simpa using hend) (htail d rfl) with rfl | rfl
  · exact exists_quoted_or_fault hkey rest
  · exact Or.inr ⟨_, .noColon hkey⟩

/-! ## Reading one token -/

/-- A body is read up to the quote that closes it. -/
private theorem body_span {body : List Char} (h : IsBody body) (rest : List Char) :
    (body ++ '"' :: rest).takeWhile (· ≠ '"') = body ∧
      (body ++ '"' :: rest).dropWhile (· ≠ '"') = '"' :: rest := by
  have hfront : ∀ c ∈ body, decide (c ≠ '"') = true := by
    intro c hc
    simpa using h c hc
  have hrest : ∀ c, ('"' :: rest).head? = some c → decide (c ≠ '"') = false := by
    intro c hc
    rw [List.head?_cons, Option.some.injEq] at hc
    simp [← hc]
  exact ⟨takeWhile_append_eq hfront hrest, dropWhile_append_eq hfront hrest⟩

/-- Behind a key and a colon a value is read. -/
private theorem readToken_colon {key : List Char} (hkey : IsKey key) (rest : List Char) :
    readToken (key ++ ':' :: rest) = (readValue (String.ofList key) rest).map
      fun (value, after) => (⟨String.ofList key, some value⟩, after) := by
  have hcolon := isKeyChar_of_mark (Or.inl rfl) rest
  unfold readToken
  rw [hkey.takeWhile_append hcolon, hkey.dropWhile_append hcolon]
  simp only [hkey.isEmpty_eq, Bool.false_eq_true, if_false]
  cases readValue (String.ofList key) rest <;> rfl

/-- A value whose quote is closed is read if the token may end there, and else is refused with all
that is glued together. -/
private theorem readValue_closed {body : List Char} (hbody : IsBody body) (key : String)
    (after : List Char) : readValue key ('"' :: (body ++ '"' :: after)) =
      if atBoundary after = true then .ok (String.ofList (trim body), after)
      else .error (.invalidValue key (String.ofList (word ('"' :: (body ++ '"' :: after))))) := by
  obtain ⟨htake, hdrop⟩ := body_span hbody after
  unfold readValue
  simp only [htake, hdrop]

/-- A written token is read where it may end. -/
theorem readToken_of_written {text after : List Char} {token : Token} (h : Written text token)
    (hafter : EndsToken after) : readToken (text ++ after) = .ok (token, after) := by
  cases h with
  | bare hkey =>
      have hend : ∀ c, after.head? = some c → isKeyChar c = false := by
        intro c hc
        simp [isKeyChar, hafter c hc]
      unfold readToken
      rw [hkey.takeWhile_append hend, hkey.dropWhile_append hend]
      dsimp only
      split
      · exact absurd (hafter ':' rfl) (by decide)
      · exact absurd (hafter '"' rfl) (by decide)
      · rfl
  | @quoted key body value hkey hbody hvalue =>
      have hshape : key ++ ':' :: '"' :: (body ++ ['"']) ++ after =
          key ++ ':' :: '"' :: (body ++ '"' :: after) := by simp
      rw [hshape, readToken_colon hkey, readValue_closed hbody,
        if_pos (atBoundary_iff.mpr hafter), trimmed_iff.mp hvalue]
      rfl

/-- A fault is reported as what it is. -/
theorem readToken_of_fault {rest : List Char} {error : TokenError} (h : Fault rest error) :
    readToken rest = .error error := by
  cases h with
  | @missingKey c rest h =>
      have hmark : ¬isKeyChar c = true := by simp [isKeyChar_of_mark h rest c rfl]
      have htake : (c :: rest).takeWhile isKeyChar = [] := List.takeWhile_cons_of_neg hmark
      have hdrop : (c :: rest).dropWhile isKeyChar = c :: rest := List.dropWhile_cons_of_neg hmark
      unfold readToken
      rw [htake, hdrop]
      rcases h with rfl | rfl <;> rfl
  | @unquoted key rest hkey h =>
      rw [readToken_colon hkey]
      unfold readValue
      split
      · exact absurd rfl h
      · rfl
  | @unterminated key body hkey hbody =>
      have hdrop : body.dropWhile (· ≠ '"') = [] := by
        have hall : ∀ c ∈ body, decide (c ≠ '"') = true := by simpa [IsBody] using hbody
        rw [← List.append_nil body]
        exact List.dropWhile_append_of_pos hall
      rw [readToken_colon hkey]
      unfold readValue
      simp only [hdrop]
      rfl
  | @glued key body rest c hkey hbody hc =>
      have hglued : ¬atBoundary (c :: rest) = true := by simp [atBoundary, hc]
      rw [readToken_colon hkey, readValue_closed hbody, if_neg hglued]
      rfl
  | @noColon key rest hkey =>
      have hquote := isKeyChar_of_mark (Or.inr rfl) rest
      unfold readToken
      rw [hkey.takeWhile_append hquote, hkey.dropWhile_append hquote]
      simp only [hkey.isEmpty_eq, Bool.false_eq_true, if_false]

/-- Where a fault stands no token does, and where no token stands a fault does. -/
theorem exists_fault_iff_malformed {rest : List Char} :
    (∃ error, Fault rest error) ↔ Malformed rest := by
  constructor
  · rintro ⟨error, hfault⟩
    refine ⟨hfault.exists_head?, fun text after token hsplit hwritten hafter => ?_⟩
    have hread := readToken_of_written hwritten hafter
    rw [← hsplit, readToken_of_fault hfault] at hread
    cases hread
  · rintro ⟨⟨c, hc, hblank⟩, hnone⟩
    obtain ⟨cs, rfl⟩ := List.head?_eq_some_iff.mp hc
    rcases exists_written_or_fault hblank cs with ⟨text, after, token, h, hw, ha⟩ | hfault
    · exact absurd ha (hnone text after token h hw)
    · exact hfault

end RecordSchema.Tag
