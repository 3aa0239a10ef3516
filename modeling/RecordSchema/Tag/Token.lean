/-
Tokens of a tag.

A tag is a text of tokens between blanks: bare keys, and keys with a quoted value. A value runs from
its opening quote to the next quote and may hold anything else, blanks and colons included; there
are no escapes. The scanner stops at the first malformed token, so its answer is the tokens before
that point and at most one error, which is always the last thing it has to say.
-/
import RecordSchema.Text.Blank

set_option autoImplicit false

namespace RecordSchema.Tag

open Text

/-! ## Tokens and their refusals -/

/-- One item of a tag: a key, with its value if it was written with one. -/
structure Token where
  key : String
  value : Option String
  deriving Repr, DecidableEq

/-- What can be wrong with the shape of a token. -/
inductive TokenError where
  /-- The value is not between quotes, or something follows its closing quote. -/
  | invalidValue (key value : String)
  /-- A colon or quote where a key should be. -/
  | missingKey (token : String)
  /-- The closing quote is missing. -/
  | unterminatedValue (key : String)
  deriving Repr, DecidableEq

def TokenError.message : TokenError → String
  | .invalidValue key value =>
    "invalid annotation value " ++ value ++ " for " ++ key ++ ", expecting `name:\"value\"` format"
  | .missingKey token => "annotation value " ++ token ++ " has no name"
  | .unterminatedValue key => "unterminated annotation value for " ++ key

/-! ## One token -/

/-- A key ends at a blank, a colon or a quote. -/
def isKeyChar (c : Char) : Bool := !isBlank c && c != ':' && c != '"'

/-- Whether a token may end here: at the end of the text or before a blank. -/
def atBoundary : List Char → Bool
  | [] => true
  | c :: _ => isBlank c

/-- Reads what follows the colon after a key: the trimmed value and the text after its closing
quote. -/
def readValue (key : String) (cs : List Char) : Except TokenError (String × List Char) :=
  match cs with
  | '"' :: body =>
    match body.dropWhile (· ≠ '"') with
    | [] => .error (.unterminatedValue key)
    | _ :: after =>
      if atBoundary after then
        .ok (String.ofList (trim (body.takeWhile (· ≠ '"'))), after)
      else
        .error (.invalidValue key (String.ofList (word cs)))
  | _ => .error (.invalidValue key (String.ofList (word cs)))

/-- Reads the token at the start of a text that starts with no blank, and the text after it. -/
def readToken (cs : List Char) : Except TokenError (Token × List Char) :=
  let key := cs.takeWhile isKeyChar
  match cs.dropWhile isKeyChar with
  | ':' :: rest =>
    if key.isEmpty then
      .error (.missingKey (String.ofList (word cs)))
    else
      match readValue (String.ofList key) rest with
      | .ok (value, rest) => .ok (⟨String.ofList key, some value⟩, rest)
      | .error e => .error e
  | '"' :: rest =>
    if key.isEmpty then
      .error (.missingKey (String.ofList (word cs)))
    else
      .error (.invalidValue (String.ofList key) (String.ofList (word ('"' :: rest))))
  | rest => .ok (⟨String.ofList key, none⟩, rest)

/-! ## Every token is progress -/

private theorem length_dropWhile_le' (p : Char → Bool) (cs : List Char) :
    (cs.dropWhile p).length ≤ cs.length :=
  (List.dropWhile_sublist p).length_le

private theorem length_readValue {key : String} {cs : List Char} {value : String}
    {rest : List Char} (h : readValue key cs = .ok (value, rest)) : rest.length < cs.length := by
  unfold readValue at h
  split at h
  · rename_i body
    split at h
    · cases h
    · rename_i d after hd
      split at h
      · cases h
        have := length_dropWhile_le' (· ≠ '"') body
        rw [hd] at this
        simp only [List.length_cons] at this ⊢
        omega
      · cases h
  · cases h

/-- A token takes at least one character off a text that starts with no blank. -/
theorem length_readToken {c : Char} {cs : List Char} {token : Token} {rest : List Char}
    (hc : isBlank c = false) (h : readToken (c :: cs) = .ok (token, rest)) :
    rest.length < (c :: cs).length := by
  unfold readToken at h
  dsimp only at h
  split at h
  · rename_i r hr
    split at h
    · cases h
    · split at h
      · rename_i value rest' hv
        cases h
        have h₁ := length_readValue hv
        have h₂ := length_dropWhile_le' isKeyChar (c :: cs)
        rw [hr] at h₂
        simp only [List.length_cons] at h₂ ⊢
        omega
      · cases h
  · split at h <;> cases h
  · rename_i hcolon hquote
    cases h
    by_cases hk : isKeyChar c = true
    · rw [List.dropWhile_cons_of_pos hk]
      have := length_dropWhile_le' isKeyChar cs
      simp only [List.length_cons]
      omega
    · rw [List.dropWhile_cons_of_neg hk] at hcolon hquote
      exfalso
      have h₁ : c ≠ ':' := fun e => hcolon cs (by rw [e])
      have h₂ : c ≠ '"' := fun e => hquote cs (by rw [e])
      simp [isKeyChar, hc, h₁, h₂] at hk

/-- A text that is left after its blanks starts with none. -/
theorem isBlank_of_dropWhile {cs rest : List Char} {c : Char}
    (h : cs.dropWhile isBlank = c :: rest) : isBlank c = false := by
  have := List.head?_dropWhile_not isBlank cs
  rw [h] at this
  simpa using this

/-! ## The whole tag -/

/-- The tokens of a text up to the first malformed one, and what is wrong with that one. -/
def scan (cs : List Char) : List Token × Option TokenError :=
  match _nonblank : cs.dropWhile isBlank with
  | [] => ([], none)
  | c :: tail =>
    match _read : readToken (c :: tail) with
    | .error e => ([], some e)
    | .ok (token, rest) =>
      let more := scan rest
      (token :: more.1, more.2)
termination_by cs.length
decreasing_by
  have h₁ := length_readToken (isBlank_of_dropWhile _nonblank) _read
  have h₂ := length_dropWhile_le' isBlank cs
  rw [_nonblank] at h₂
  omega

/-- The tokens of a tag, with the error that ended them if there was one. -/
def tokens (tag : String) : List Token × Option TokenError := scan tag.toList

end RecordSchema.Tag
