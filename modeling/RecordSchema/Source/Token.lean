/-
Tokens of a declaration source.

A source text is a list of token trees: words, lifetimes, punctuation marks, literals, and groups
between brackets. Brackets are matched once and for all when the tokens are read, so nothing after
that has to look for the end of a group. A punctuation mark says whether another one follows it
without a blank, because only then do two marks form an operator.
-/

set_option autoImplicit false

namespace RecordSchema.Source

/-- A kind of brackets. -/
inductive Delimiter where
  | parenthesis
  | brace
  | bracket
  deriving Repr, DecidableEq

def Delimiter.all : List Delimiter := [.parenthesis, .brace, .bracket]

def Delimiter.opening : Delimiter → Char
  | .parenthesis => '('
  | .brace => '\x7b'
  | .bracket => '['

def Delimiter.closing : Delimiter → Char
  | .parenthesis => ')'
  | .brace => '\x7d'
  | .bracket => ']'

/-- A kind of literals. -/
inductive LiteralKind where
  | text
  | bytes
  | terminated
  | byte
  | char
  | number
  deriving Repr, DecidableEq

/-- A token tree. A literal keeps its spelling, and a text literal also the text it stands for. -/
inductive Token where
  | word (spelling : String)
  | lifetime (name : String)
  | mark (c : Char) (joint : Bool)
  | literal (kind : LiteralKind) (spelling value : String)
  | group (delimiter : Delimiter) (items : List Token)
  deriving Repr, Inhabited

mutual

/-- The characters of a token, without blanks between tokens. -/
def Token.chars : Token → List Char
  | .word spelling => spelling.toList
  | .lifetime name => '\x27' :: name.toList
  | .mark c _ => [c]
  | .literal _ spelling _ => spelling.toList
  | .group delimiter items => delimiter.opening :: Token.allChars items ++ [delimiter.closing]

/-- The characters of tokens one after the other. -/
def Token.allChars : List Token → List Char
  | [] => []
  | token :: rest => token.chars ++ Token.allChars rest

end

end RecordSchema.Source
