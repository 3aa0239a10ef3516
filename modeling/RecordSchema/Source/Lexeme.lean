/-
Lexemes: from characters to token trees.

A text is taken apart from the left, one blank, comment or lexeme at a time, and then the lexemes
are nested by their brackets. A comment that documents what follows or surrounds it is no blank: it
stands for an attribute, and its lexemes are those of that attribute.
-/
import RecordSchema.Source.Literal
import RecordSchema.Text.Blank
import RecordSchema.Text.Quoted

set_option autoImplicit false

namespace RecordSchema.Source

open Text

/-- A token, or one side of a group. -/
inductive Lexeme where
  | opening (delimiter : Delimiter)
  | closing (delimiter : Delimiter)
  | token (token : Token)

/-! ## Comments -/

/-- The text after the end of a block comment; block comments nest. `depth` counts the open ones
around the innermost. -/
def afterBlockComment (depth : Nat) : List Char → Option (List Char)
  | '/' :: '*' :: rest => afterBlockComment (depth + 1) rest
  | '*' :: '/' :: rest =>
    match depth with
    | 0 => some rest
    | depth + 1 => afterBlockComment depth rest
  | _ :: rest => afterBlockComment depth rest
  | [] => none

/-- A text up to the end of its first line. -/
def firstLine : List Char → List Char
  | '\r' :: '\n' :: _ => []
  | '\n' :: _ => []
  | c :: rest => c :: firstLine rest
  | [] => []

/-- A text from the end of its first line on. -/
def afterLine (cs : List Char) : List Char := cs.drop (firstLine cs).length

/-- The text of a block comment whose opening has been taken, and the text after the comment. -/
def blockComment? (cs : List Char) : Option (List Char × List Char) :=
  (afterBlockComment 0 cs).map fun rest => (cs.take (cs.length - rest.length - 2), rest)

/-- A documenting comment at the start of a text: whether it documents what is around it, what it
says, and the text after it. -/
def docComment? : List Char → Option (Bool × List Char × List Char)
  | '/' :: '/' :: '!' :: rest => some (true, firstLine rest, afterLine rest)
  | '/' :: '*' :: '!' :: rest => (blockComment? ('!' :: rest)).map fun r => (true, r.1.drop 1, r.2)
  | '/' :: '/' :: '/' :: '/' :: _ => none
  | '/' :: '/' :: '/' :: rest => some (false, firstLine rest, afterLine rest)
  | '/' :: '*' :: '*' :: '*' :: _ => none
  | '/' :: '*' :: '*' :: rest => (blockComment? ('*' :: rest)).map fun r => (false, r.1.drop 1, r.2)
  | _ => none

/-- The text after a plain comment at its start. -/
def afterComment? : List Char → Option (List Char)
  | '/' :: '*' :: '*' :: '/' :: rest => some rest
  | '/' :: '*' :: '*' :: '*' :: rest => afterBlockComment 0 ('*' :: '*' :: rest)
  | '/' :: '*' :: '*' :: _ => none
  | '/' :: '*' :: '!' :: _ => none
  | '/' :: '*' :: rest => afterBlockComment 0 rest
  | '/' :: '/' :: '/' :: '/' :: rest => some (afterLine rest)
  | '/' :: '/' :: '/' :: _ => none
  | '/' :: '/' :: '!' :: _ => none
  | '/' :: '/' :: rest => some (afterLine rest)
  | _ => none

/-- Characters between tokens: blanks, and the two marks that set the direction of writing. -/
def isSeparator (c : Char) : Bool := isBlank c || c == '\u200e' || c == '\u200f'

/-- The text after one blank or plain comment at its start. -/
def afterSpace? : List Char → Option (List Char)
  | c :: rest => if isSeparator c then some rest else afterComment? (c :: rest)
  | [] => none

/-- Whether a comment has a carriage return without a line feed after it. -/
def hasBareReturn : List Char → Bool
  | '\r' :: '\n' :: rest => hasBareReturn rest
  | c :: rest => c == '\r' || hasBareReturn rest
  | [] => false

/-- The attribute that a documenting comment stands for. -/
def docAttribute (inner : Bool) (text : List Char) : List Lexeme :=
  let value := String.ofList text
  [.token (.mark '#' false)] ++ (if inner then [.token (.mark '!' false)] else []) ++
    [.token (.group .bracket
      [.word "doc", .mark '=' false, .literal .text (QuoteStyle.text.quote value) value])]

/-! ## Marks and words -/

/-- The characters that are punctuation marks. -/
def markChars : List Char := "~!@#$%^&*-=+|;:,<.>/?\x27".toList

/-- Whether a text starts with a mark; the start of a comment is none. -/
def startsMark : List Char → Bool
  | '/' :: '/' :: _ => false
  | '/' :: '*' :: _ => false
  | c :: _ => markChars.contains c
  | [] => false

/-- The words that cannot be written raw. -/
def neverRaw : List String := ["_", "super", "self", "Self", "crate"]

/-- Starts of literals, which no word may have. -/
def literalStarts : List String :=
  ["r\"", "r#\"", "r##", "b\"", "b\x27", "br\"", "br#", "c\"", "cr\"", "cr#"]

/-- The word at the start of a text, and the text after it. -/
def plainWord? (cs : List Char) : Option (String × List Char) :=
  if startsName cs then
    some (String.ofList (cs.takeWhile isNameRest), cs.dropWhile isNameRest)
  else none

/-- The word at the start of a text, raw or not. -/
def word? (cs : List Char) : Option (String × List Char) :=
  match cs with
  | 'r' :: '#' :: rest =>
    match plainWord? rest with
    | some (w, rest) => if neverRaw.contains w then none else some ("r#" ++ w, rest)
    | none => none
  | cs => plainWord? cs

/-- The lifetime after a quote, if there is one. -/
def lifetime? (cs : List Char) : Option (Token × List Char) :=
  match word? cs with
  | none => none
  | some (name, rest) =>
    let raw := ['r', '#'].isPrefixOf cs
    if rest.head? = some '\x27' ∨ (rest.head? = some '#' ∧ !raw) then none
    else some (.lifetime name, rest)

/-- The mark, lifetime or word at the start of a text. -/
def plainToken? (cs : List Char) : Option (Token × List Char) :=
  match cs with
  | [] => none
  | c :: rest =>
    if startsMark cs then
      if c = '\x27' then lifetime? rest else some (.mark c (startsMark rest), rest)
    else if literalStarts.any fun s => s.toList.isPrefixOf cs then none
    else (word? cs).map fun r => (.word r.1, r.2)

/-! ## Lexemes -/

/-- The lexemes at the start of a text, none for a blank, and the text after them. -/
def lexeme? (cs : List Char) : Option (List Lexeme × List Char) :=
  match afterSpace? cs with
  | some rest => some ([], rest)
  | none =>
    match docComment? cs with
    | some (inner, text, rest) =>
      if hasBareReturn text then none else some (docAttribute inner text, rest)
    | none =>
      match cs with
      | [] => none
      | c :: rest =>
        match Delimiter.all.find? (·.opening = c), Delimiter.all.find? (·.closing = c) with
        | some d, _ => some ([.opening d], rest)
        | none, some d => some ([.closing d], rest)
        | none, none =>
          ((literal? cs).or (plainToken? cs)).map fun r => ([.token r.1], r.2)

/-- The lexemes of a text. Each step takes at least one character, so a step for each is enough. -/
def lexemes (fuel : Nat) (cs : List Char) : Option (List Lexeme) :=
  match fuel, cs with
  | _, [] => some []
  | 0, _ => none
  | fuel + 1, cs =>
    match lexeme? cs with
    | none => none
    | some (first, rest) => (lexemes fuel rest).map (first ++ ·)

/-- Nests lexemes by their brackets. `outer` are the groups still open, each with the tokens before
it, and `inner` the tokens of the innermost one, both latest first. -/
def nest (outer : List (Delimiter × List Token)) (inner : List Token) :
    List Lexeme → Option (List Token)
  | [] => if outer.isEmpty then some inner.reverse else none
  | .token t :: rest => nest outer (t :: inner) rest
  | .opening d :: rest => nest ((d, inner) :: outer) [] rest
  | .closing d :: rest =>
    match outer with
    | (opened, before) :: outer =>
      if opened = d then nest outer (.group d inner.reverse :: before) rest else none
    | [] => none

/-! ## The start of a text -/

/-- A text without the blanks and plain comments at its start. -/
def skipSpaces (fuel : Nat) (cs : List Char) : List Char :=
  match fuel with
  | 0 => cs
  | fuel + 1 =>
    match afterSpace? cs with
    | some rest => skipSpaces fuel rest
    | none => cs

/-- A text without the byte order mark at its start. -/
def dropByteOrderMark : List Char → List Char
  | '\ufeff' :: rest => rest
  | cs => cs

/-- A text without its first line, if that names an interpreter. An attribute starts the same way,
so what follows the two marks decides. -/
def dropInterpreterLine (cs : List Char) : List Char :=
  match cs with
  | '#' :: '!' :: rest =>
    match skipSpaces rest.length rest with
    | '[' :: _ => cs
    | _ => cs.dropWhile (· ≠ '\n')
  | _ => cs

/-- The token trees of a source text. -/
def Token.ofText? (s : String) : Option (List Token) :=
  let cs := dropByteOrderMark (dropInterpreterLine (dropByteOrderMark s.toList))
  (lexemes cs.length cs).bind (nest [] [])

end RecordSchema.Source
