/-
Rules: a grammar as data, and the one function that reads tokens by it.

A choice is committed: a test looks at the tokens ahead and decides, and what follows is never taken
back. So reading takes time in proportion to the text however deeply it nests, and a rule can be
read as the description of a language without thinking of attempts that fail.
-/
import RecordSchema.Source.Token

set_option autoImplicit false

namespace RecordSchema.Source

/-! ## Terminals -/

/-- What a single step can ask of the tokens ahead. -/
inductive Terminal where
  /-- A word spelled in a given way. -/
  | word (spelling : String)
  /-- A word that is not reserved. -/
  | name
  | anyWord
  | lifetime
  | literal
  | literalOf (kind : LiteralKind)
  /-- A number that is a position: digits, perhaps with points between them. -/
  | position
  /-- Marks that stand together. -/
  | marks (cs : List Char)
  /-- A whole group, whatever is in it. -/
  | group (delimiter : Delimiter)
  deriving Repr, DecidableEq

/-- The reserved words. -/
def reservedWords : List String :=
  ["_", "abstract", "as", "async", "await", "become", "box", "break", "const", "continue", "crate",
    "do", "dyn", "else", "enum", "extern", "false", "final", "fn", "for", "if", "impl", "in", "let",
    "loop", "macro", "match", "mod", "move", "mut", "override", "priv", "pub", "ref", "return",
    "Self", "self", "static", "struct", "super", "trait", "true", "try", "type", "typeof", "unsafe",
    "unsized", "use", "virtual", "where", "while", "yield"]

/-- Takes marks off the tokens; all but the last must be joined to the next. -/
def takeMarks : List Char → List Token → Option (List Token × List Token)
  | [], ts => some ([], ts)
  | [c], .mark d joint :: ts => if c = d then some ([.mark d joint], ts) else none
  | c :: cs, .mark d true :: ts =>
    if c = d then (takeMarks cs ts).map fun r => (.mark d true :: r.1, r.2) else none
  | _, _ => none

/-- Whether a single token is what a terminal asks for. -/
def Terminal.accepts : Terminal → Token → Bool
  | .word spelling, .word s => s == spelling
  | .name, .word s => !reservedWords.contains s
  | .anyWord, .word _ => true
  | .lifetime, .lifetime _ => true
  | .literal, .literal .. => true
  | .literalOf kind, .literal k _ _ => k == kind
  | .position, .literal .number s _ => s.toList.all fun c => c.isDigit || c == '_' || c == '.'
  | .group delimiter, .group d _ => d == delimiter
  | _, _ => false

/-- Takes what a terminal asks for off the tokens. -/
def Terminal.take : Terminal → List Token → Option (List Token × List Token)
  | .marks cs, ts => takeMarks cs ts
  | t, token :: ts => if t.accepts token then some ([token], ts) else none
  | _, [] => none

/-! ## Rules -/

/-- A rule over the nonterminals `ν`. -/
inductive Rule (ν : Type) where
  | empty
  | refuse
  | endOfGroup
  | take (t : Terminal)
  /-- A group whose whole inside follows a rule. -/
  | inside (delimiter : Delimiter) (inner : Rule ν)
  | seq (first second : Rule ν)
  /-- The second rule if the first holds ahead, else the third. -/
  | choose (test yes no : Rule ν)
  /-- The second rule again and again as long as the first holds ahead. -/
  | repeatWhile (test body : Rule ν)
  /-- Everything to the end of the group. -/
  | remainder
  | call (n : ν)
  deriving Repr, Inhabited

/-- What was read, by the nonterminals it was read as. -/
inductive Node (ν : Type) where
  | token (t : Token)
  | group (delimiter : Delimiter) (children : List (Node ν))
  | branch (n : ν) (children : List (Node ν))
  deriving Repr, Inhabited

namespace Rule

variable {ν : Type}

/-- Reads tokens by a rule: the nodes read, and the tokens left. `fuel` bounds the depth of rules
within rules. -/
def read (grammar : ν → Rule ν) (fuel : Nat) (rule : Rule ν) (ts : List Token) :
    Option (List (Node ν) × List Token) :=
  match fuel with
  | 0 => none
  | fuel + 1 =>
    match rule with
    | .empty => some ([], ts)
    | .refuse => none
    | .endOfGroup => if ts.isEmpty then some ([], ts) else none
    | .take t => (t.take ts).map fun r => (r.1.map .token, r.2)
    | .inside delimiter inner =>
      match ts with
      | .group d items :: rest =>
        if d = delimiter then
          match read grammar fuel inner items with
          | some (nodes, []) => some ([.group d nodes], rest)
          | _ => none
        else none
      | _ => none
    | .seq first second =>
      match read grammar fuel first ts with
      | none => none
      | some (nodes, rest) =>
        (read grammar fuel second rest).map fun r => (nodes ++ r.1, r.2)
    | .choose test yes no =>
      if (read grammar fuel test ts).isSome then read grammar fuel yes ts
      else read grammar fuel no ts
    | .repeatWhile test body =>
      if (read grammar fuel test ts).isSome then
        match read grammar fuel body ts with
        | none => none
        | some (nodes, rest) =>
          (read grammar fuel (.repeatWhile test body) rest).map fun r => (nodes ++ r.1, r.2)
      else some ([], ts)
    | .remainder => some (ts.map .token, [])
    | .call n => (read grammar fuel (grammar n) ts).map fun r => ([.branch n r.1], r.2)

/-! ## Rules made of rules -/

def word (spelling : String) : Rule ν := .take (.word spelling)

def name : Rule ν := .take .name

def lifetime : Rule ν := .take .lifetime

def marks (s : String) : Rule ν := .take (.marks s.toList)

def whole (delimiter : Delimiter) : Rule ν := .take (.group delimiter)

/-- Rules one after the other. -/
def all : List (Rule ν) → Rule ν
  | [] => .empty
  | [rule] => rule
  | rule :: rest => .seq rule (all rest)

/-- The first rule that holds ahead. -/
def oneOf : List (Rule ν) → Rule ν
  | [] => .refuse
  | rule :: rest => .choose rule rule (oneOf rest)

/-- The rule of the first test that holds ahead. -/
def cases (otherwise : Rule ν) : List (Rule ν × Rule ν) → Rule ν
  | [] => otherwise
  | (test, rule) :: rest => .choose test rule (cases otherwise rest)

def words (spellings : List String) : Rule ν := oneOf (spellings.map word)

def marksOf (spellings : List String) : Rule ν := oneOf (spellings.map marks)

/-- A rule if it holds ahead. -/
def maybe (rule : Rule ν) : Rule ν := .choose rule rule .empty

/-- A rule if a test holds ahead. -/
def onlyIf (test rule : Rule ν) : Rule ν := .choose test rule .empty

/-- Nothing, and what is ahead must not follow a rule. -/
def notAhead (rule : Rule ν) : Rule ν := .choose rule .refuse .empty

/-- Nothing, and what is ahead must follow a rule. -/
def ahead (rule : Rule ν) : Rule ν := .choose rule .empty .refuse

def notEnd : Rule ν := notAhead .endOfGroup

/-- A rule again and again to the end of the group. -/
def toEnd (rule : Rule ν) : Rule ν := .repeatWhile notEnd rule

/-- Items to the end of the group with commas between them, and perhaps one after the last. -/
def commaTerminated (item : Rule ν) : Rule ν :=
  toEnd (.seq item (.choose .endOfGroup .empty (marks ",")))

/-- Items up to a mark, with commas between them and perhaps one after the last. -/
def commasUntil (stop item : Rule ν) : Rule ν :=
  .repeatWhile (notAhead stop) (.seq item (.choose stop .empty (marks ",")))

/-- Items up to a stop, with plus signs between them and perhaps one after the last. -/
def plusesUntil (stop item : Rule ν) : Rule ν :=
  .repeatWhile (notAhead stop) (.seq item (.choose (marks "+") (marks "+") (ahead stop)))

/-- One group of any brackets, whatever is in it. -/
def anyGroup : Rule ν := oneOf (Delimiter.all.map whole)

end Rule

end RecordSchema.Source
