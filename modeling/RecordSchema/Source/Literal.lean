/-
Literals of a declaration source.

Quoted literals are read by an automaton that takes one character at a time and says what it stands
for, so the end of a literal and its value come out of the same pass. Numbers have no value here;
only their end matters.
-/
import RecordSchema.Json.Reader
import RecordSchema.Source.Token
import RecordSchema.Text.Identifier

set_option autoImplicit false

namespace RecordSchema.Source

open Text

/-! ## Quoted literals -/

/-- What a quoted literal may hold: any text, bytes only, or text without a terminating zero. -/
inductive QuotedStyle where
  | text
  | bytes
  | terminated
  deriving Repr, DecidableEq

/-- Whether a character may stand for itself. -/
def QuotedStyle.allows (style : QuotedStyle) (c : Char) : Bool :=
  match style with
  | .text => true
  | .bytes => c.toNat < 128
  | .terminated => c != '\x00'

/-- The character of an escape of one letter. -/
def QuotedStyle.escape? (style : QuotedStyle) (c : Char) : Option Char :=
  if c = 'n' then some '\n'
  else if c = 'r' then some '\r'
  else if c = 't' then some '\t'
  else if c = '\\' ∨ c = '\x27' ∨ c = '"' then some c
  else if c = '0' ∧ style ≠ .terminated then some '\x00'
  else none

/-- The character of an escape of two hexadecimal digits. A text takes ASCII only. -/
def QuotedStyle.ofHex? (style : QuotedStyle) (n : Nat) : Option Char :=
  if (style = .text ∧ 128 ≤ n) ∨ (style = .terminated ∧ n = 0) then none else some (Char.ofNat n)

/-- The character of a code point escape. -/
def QuotedStyle.ofCodePoint? (style : QuotedStyle) (n : Nat) : Option Char :=
  if n.isValidChar ∧ ¬(style = .terminated ∧ n = 0) then some (Char.ofNat n) else none

/-- Where the automaton is inside a literal. -/
inductive QuotedState where
  | plain
  /-- After a carriage return, which needs a line feed. -/
  | lineEnd
  /-- After a backslash. -/
  | escape
  /-- After a backslash at the end of a line; blanks are skipped. -/
  | continued
  /-- After a carriage return among those blanks. -/
  | continuedLineEnd
  | hexHigh
  | hexLow (high : Nat)
  | codePointStart
  | codePoint (value digits : Nat)

/-- What a character does to the automaton. -/
inductive QuotedStep where
  | go (state : QuotedState)
  | put (c : Char) (state : QuotedState)
  | stop
  | refuse

/-- The step that puts a character if there is one. -/
def QuotedStep.ofChar? : Option Char → QuotedStep
  | some c => .put c .plain
  | none => .refuse

/-- The step on a character that no escape precedes. -/
def QuotedStyle.plainStep (style : QuotedStyle) (c : Char) : QuotedStep :=
  if c = '"' then .stop
  else if c = '\\' then .go .escape
  else if c = '\r' then .go .lineEnd
  else if style.allows c then .put c .plain
  else .refuse

/-- The step on any character. -/
def QuotedStyle.step (style : QuotedStyle) (state : QuotedState) (c : Char) : QuotedStep :=
  match state with
  | .plain => style.plainStep c
  | .lineEnd => if c = '\n' then .put '\n' .plain else .refuse
  | .escape =>
    if c = 'x' then .go .hexHigh
    else if c = 'u' ∧ style ≠ .bytes then .go .codePointStart
    else if c = '\n' then .go .continued
    else if c = '\r' then .go .continuedLineEnd
    else .ofChar? (style.escape? c)
  | .continued =>
    if c = ' ' ∨ c = '\t' ∨ c = '\n' then .go .continued
    else if c = '\r' then .go .continuedLineEnd
    else style.plainStep c
  | .continuedLineEnd => if c = '\n' then .go .continued else .refuse
  | .hexHigh =>
    match Json.hexValue? c with
    | some n => .go (.hexLow n)
    | none => .refuse
  | .hexLow high => .ofChar? ((Json.hexValue? c).bind fun n => style.ofHex? (16 * high + n))
  | .codePointStart => if c = '\x7b' then .go (.codePoint 0 0) else .refuse
  | .codePoint value digits =>
    if c = '_' ∧ 0 < digits then .go (.codePoint value digits)
    else if c = '\x7d' ∧ 0 < digits then .ofChar? (style.ofCodePoint? value)
    else
      match Json.hexValue? c with
      | some n => if digits < 6 then .go (.codePoint (16 * value + n) (digits + 1)) else .refuse
      | none => .refuse

/-- Runs the automaton to the closing quote: the value, and the text after the quote. -/
def QuotedStyle.read (style : QuotedStyle) (state : QuotedState) :
    List Char → Option (List Char × List Char)
  | [] => none
  | c :: rest =>
    match style.step state c with
    | .go state => style.read state rest
    | .put c state => (style.read state rest).map fun r => (c :: r.1, r.2)
    | .stop => some ([], rest)
    | .refuse => none

/-- Whether an escape may go on from a state; a line end ends no escape of a single character. -/
def QuotedState.isEscape : QuotedState → Bool
  | .hexHigh => true
  | .hexLow _ => true
  | .codePointStart => true
  | .codePoint .. => true
  | _ => false

/-- Runs the automaton over one escape: the text after it. -/
def QuotedStyle.afterEscape (style : QuotedStyle) (state : QuotedState) :
    List Char → Option (List Char)
  | [] => none
  | c :: rest =>
    match style.step state c with
    | .go state => if state.isEscape then style.afterEscape state rest else none
    | .put _ _ => some rest
    | .stop => none
    | .refuse => none

/-- The text after a single quoted character whose opening quote has been taken. -/
def QuotedStyle.afterSingle (style : QuotedStyle) : List Char → Option (List Char)
  | [] => none
  | c :: rest =>
    let body := if c = '\\' then style.afterEscape .escape rest
      else if style.allows c then some rest else none
    match body with
    | some ('\x27' :: rest) => some rest
    | _ => none

/-! ## Raw literals -/

/-- Reads the body of a literal without escapes, which ends at a quote and `hashes` hash marks. -/
def QuotedStyle.readRaw (style : QuotedStyle) (hashes : Nat) :
    List Char → Option (List Char × List Char)
  | [] => none
  | '\r' :: '\n' :: rest =>
    (style.readRaw hashes rest).map fun r => ('\r' :: '\n' :: r.1, r.2)
  | c :: rest =>
    if c = '"' ∧ (List.replicate hashes '#').isPrefixOf rest then some ([], rest.drop hashes)
    else if c = '\r' ∨ !style.allows c then none
    else (style.readRaw hashes rest).map fun r => (c :: r.1, r.2)

/-- The most hash marks a raw literal may have. -/
def maxHashes : Nat := 255

/-- Reads a raw literal from its hash marks on. -/
def QuotedStyle.readHashed (style : QuotedStyle) (cs : List Char) :
    Option (List Char × List Char) :=
  let hashes := (cs.takeWhile (· = '#')).length
  match cs.dropWhile (· = '#') with
  | '"' :: rest => if hashes ≤ maxHashes then style.readRaw hashes rest else none
  | _ => none

/-! ## Numbers -/

/-- Whether a character may start a name. -/
def startsName : List Char → Bool
  | c :: _ => isNameStart c
  | [] => false

/-- A text without the rest of a name at its start. -/
def dropName (cs : List Char) : List Char := if startsName cs then cs.dropWhile isNameRest else cs

/-- The text after a number and its suffix, which must be the end of a word. -/
def afterSuffix (cs : List Char) : Option (List Char) :=
  match dropName cs with
  | c :: rest => if isNameRest c then none else some (c :: rest)
  | [] => some []

/-- Whether a character is a digit or the mark between digits. -/
def isDigitOrGap (c : Char) : Bool := c.isDigit || c == '_'

/-- The text after an exponent whose letter has been taken. `signed` and `valued` tell whether a
sign and a digit have been seen. -/
def afterExponent (signed valued : Bool) : List Char → Option (List Char)
  | [] => if valued then some [] else none
  | c :: rest =>
    if c = '+' ∨ c = '-' then
      if valued then some (c :: rest) else if signed then none else afterExponent true false rest
    else if c.isDigit then afterExponent signed true rest
    else if c = '_' then afterExponent signed valued rest
    else if valued then some (c :: rest) else none

/-- Whether a text starts an exponent. -/
def startsExponent : List Char → Bool
  | c :: _ => c == 'e' || c == 'E'
  | [] => false

/-- The text after the exponent if there is one with a value, else the text itself. -/
def skipExponent (cs : List Char) : List Char :=
  if startsExponent cs then (afterExponent false false (cs.drop 1)).getD cs else cs

/-- The text after the digits of a number with a point or an exponent. A point that starts a range
or a field name belongs to no number. -/
def afterFloatDigits (cs : List Char) : Option (List Char) :=
  match cs.dropWhile isDigitOrGap with
  | '.' :: rest =>
    if rest.head? = some '.' ∨ startsName rest then none
    else some (skipExponent (rest.dropWhile isDigitOrGap))
  | rest => if startsExponent rest then afterExponent false false (rest.drop 1) else none

/-- The text after the digits of a number in a base. A decimal digit beyond the base is refused. -/
def afterDigits (base : Nat) (any : Bool) : List Char → Option (List Char)
  | [] => if any then some [] else none
  | c :: rest =>
    if c.isDigit then
      if c.toNat - 48 < base then afterDigits base true rest else none
    else if c = '_' then
      if !any && base == 10 then none else afterDigits base any rest
    else
      match Json.hexValue? c with
      | some n =>
        if n < base then afterDigits base true rest else if any then some (c :: rest) else none
      | none => if any then some (c :: rest) else none

/-- The text after the digits of a whole number. -/
def afterWholeDigits : List Char → Option (List Char)
  | '0' :: 'x' :: rest => afterDigits 16 false rest
  | '0' :: 'o' :: rest => afterDigits 8 false rest
  | '0' :: 'b' :: rest => afterDigits 2 false rest
  | cs => afterDigits 10 false cs

/-- The text after a number. -/
def afterNumber (cs : List Char) : Option (List Char) :=
  match cs with
  | c :: _ =>
    if c.isDigit then
      ((afterFloatDigits cs).bind afterSuffix).or ((afterWholeDigits cs).bind afterSuffix)
    else none
  | [] => none

/-! ## Any literal -/

/-- What a literal at the start of a text is: its kind, the value of a text, and the text after it
without the suffix. -/
def quotedLiteral? (cs : List Char) : Option (LiteralKind × List Char × List Char) :=
  match cs with
  | '"' :: rest => (QuotedStyle.text.read .plain rest).map fun r => (.text, r)
  | 'b' :: '"' :: rest => (QuotedStyle.bytes.read .plain rest).map fun r => (.bytes, r)
  | 'c' :: '"' :: rest => (QuotedStyle.terminated.read .plain rest).map fun r => (.terminated, r)
  | 'b' :: '\x27' :: rest => (QuotedStyle.bytes.afterSingle rest).map fun r => (.byte, [], r)
  | '\x27' :: rest => (QuotedStyle.text.afterSingle rest).map fun r => (.char, [], r)
  | 'b' :: 'r' :: rest => (QuotedStyle.bytes.readHashed rest).map fun r => (.bytes, r)
  | 'c' :: 'r' :: rest => (QuotedStyle.terminated.readHashed rest).map fun r => (.terminated, r)
  | 'r' :: rest => (QuotedStyle.text.readHashed rest).map fun r => (.text, r)
  | _ => none

/-- The literal at the start of a text, and the text after it. -/
def literal? (cs : List Char) : Option (Token × List Char) :=
  let found := match quotedLiteral? cs with
    | some (kind, value, rest) => some (kind, value, dropName rest)
    | none => (afterNumber cs).map fun rest => (.number, [], rest)
  found.map fun (kind, value, rest) =>
    (.literal kind (String.ofList (cs.take (cs.length - rest.length))) (String.ofList value), rest)

end RecordSchema.Source
