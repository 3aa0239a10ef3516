/-
The grammar of expressions and statements.

Operators are grouped by what they allow, not by how tightly they bind, except where binding decides
what may follow: comparisons do not chain, an assignment takes everything to its right, and a range
is an operand of nothing.
-/
import RecordSchema.Source.Grammar.Pattern

set_option autoImplicit false

namespace RecordSchema.Source.Rule

/-! ## Operators -/

/-- Operators that assign. -/
def assignOperator : SourceRule :=
  marksOf ["+=", "-=", "*=", "/=", "%=", "^=", "&=", "|=", "<<=", ">>="]

def logicOperator : SourceRule := all [notAhead assignOperator, marksOf ["&&", "||"]]

def valueOperator : SourceRule :=
  all [notAhead assignOperator, notAhead logicOperator,
    marksOf ["<<", ">>", "+", "-", "*", "/", "%", "^", "&", "|"]]

def comparison : SourceRule :=
  all [notAhead assignOperator, notAhead (marksOf ["<<", ">>"]),
    marksOf ["==", "!=", "<=", ">=", "<", ">"]]

/-- A point that is not the first of two. -/
def point : SourceRule := all [notAhead (marks ".."), marks "."]

/-! ## Chains of operands -/

/-- A cast. What binds more tightly than a cast cannot follow its type. -/
def cast : SourceRule :=
  all [word "as", .call (.type false),
    notAhead (oneOf [point, marks "?", whole .bracket, whole .parenthesis])]

/-- Operators on values and casts, after an operand. -/
def valueTail (braces : Bool) : SourceRule :=
  .repeatWhile (oneOf [word "as", valueOperator])
    (.choose (word "as") cast (all [valueOperator, .call (.operand braces)]))

/-- At most one comparison. -/
def comparisonTail (braces : Bool) : SourceRule :=
  all [valueTail braces,
    onlyIf comparison
      (all [comparison, .call (.operand braces), valueTail braces, notAhead comparison])]

def logicTail (braces : Bool) : SourceRule :=
  all [comparisonTail braces,
    .repeatWhile logicOperator
      (all [logicOperator, .call (.operand braces), comparisonTail braces])]

/-- A chain without an assignment or a range. -/
def logicChain (braces : Bool) : SourceRule := all [.call (.operand braces), logicTail braces]

/-- The marks of a range. -/
def rangeMarks : SourceRule :=
  cases (marks "..") [(marks "..=", marks "..="), (marks "...", .refuse)]

/-- Where a half-open range has no upper end. -/
def openRangeAhead (braces : Bool) : SourceRule :=
  oneOf ([.endOfGroup, marks ",", marks ";", point, marks "?", marks "=", marks "+", marks "/",
      marks "%", marks "^", marks ">", marks "<=", marks "!=", marks "-=", marks "*=", marks "&=",
      marks "|=", marks "<<=", word "as"] ++
    if braces then [] else [whole .brace])

/-- A range from its marks on. -/
def range (braces : Bool) : SourceRule :=
  .choose (marks "..=") (all [marks "..=", logicChain braces])
    (all [rangeMarks, .choose (openRangeAhead braces) .empty (logicChain braces)])

/-- Everything that may follow an operand: a chain, and then an assignment or a range. -/
def expressionTail (braces : Bool) : SourceRule :=
  all [logicTail braces,
    cases .empty [
      (assignOperator, all [assignOperator, .call (.expression braces)]),
      (all [notAhead (marksOf ["=>", "=="]), marks "="],
        all [marks "=", .call (.expression braces)]),
      (marks "..", range braces)]]

def expressionRule (braces : Bool) : SourceRule :=
  .choose (marks "..") (range braces) (all [.call (.operand braces), expressionTail braces])

/-! ## Operands -/

/-- Expressions with commas between them. -/
def expressionList : SourceRule := commaTerminated (.call (.expression true))

/-- What follows an operand and belongs to it: a call, an index, a member, or a question mark. -/
def postfixRule : SourceRule :=
  cases .refuse [
    (whole .parenthesis, .inside .parenthesis expressionList),
    (whole .bracket, .inside .bracket (.call (.expression true))),
    (marks "?", marks "?"),
    (point, all [marks ".",
      cases .refuse [
        (.take .position, .take .position),
        (word "await", word "await"),
        (name, all [name, onlyIf (marks "::")
          (all [.call .arguments, .inside .parenthesis expressionList])])]])]

def postfixAhead : SourceRule := oneOf [whole .parenthesis, whole .bracket, marks "?", point]

def postfixes : SourceRule := .repeatWhile postfixAhead postfixRule

/-- A field of a record expression. -/
def fieldValue : SourceRule :=
  all [attributes,
    .choose (.take .position) (all [.take .position, marks ":", .call (.expression true)])
      (all [name, onlyIf (marks ":") (all [marks ":", .call (.expression true)])])]

def recordBody : SourceRule :=
  .inside .brace (toEnd (.choose (marks "..")
    (all [marks "..", .choose .endOfGroup .empty (.call (.expression true)), .endOfGroup])
    (all [fieldValue, .choose .endOfGroup .empty (marks ",")])))

/-- An operand that starts with a path. -/
def pathOperand (braces : Bool) : SourceRule :=
  cases
    (all [qualifiedPath .expression, if braces then onlyIf (whole .brace) recordBody else .empty])
    [(all [plainPath, bang], invocation),
      (all [word "try", bang], all [word "try", marks "!", anyGroup])]

def parenthesizedOperand : SourceRule :=
  .inside .parenthesis (.choose .endOfGroup .empty
    (all [.call (.expression true), onlyIf (marks ",") (all [marks ",", expressionList])]))

def arrayOperand : SourceRule :=
  .inside .bracket (.choose .endOfGroup .empty
    (all [.call (.expression true),
      cases .endOfGroup [
        (marks ";", all [marks ";", .call (.expression true)]),
        (marks ",", all [marks ",", expressionList])]]))

def closure (braces : Bool) : SourceRule :=
  let parameter : SourceRule :=
    all [attributes, .call .pattern, onlyIf (marks ":") (all [marks ":", .call (.type true)])]
  all [maybeBoundLifetimes, maybe (word "const"), maybe (word "static"), maybe (word "async"),
    maybe (word "move"), marks "|", commasUntil (marks "|") parameter, marks "|",
    .choose (marks "->") (all [marks "->", .call (.type true), .call .block])
      (.call (.expression braces))]

def closureAhead : SourceRule :=
  oneOf [marks "|", word "move", all [word "for", marks "<"],
    all [word "const", notAhead (whole .brace)], word "static",
    all [word "async", oneOf [marks "|", word "move"]]]

/-- Where an expression starts that a jump may carry. -/
def carriedAhead : SourceRule :=
  oneOf [all [notAhead (word "as"), .take .anyWord], whole .parenthesis, whole .bracket,
    whole .brace, .take .literal, all [notAhead (marks "!="), marks "!"],
    all [notAhead (marksOf ["-=", "->"]), marks "-"], all [notAhead (marks "*="), marks "*"],
    all [notAhead (marks "|="), marks "|"], all [notAhead (marks "&="), marks "&"], marks "..",
    openAngle, marks "::", lifetime, marks "#"]

/-- The value that a jump carries. -/
def carried (braces : Bool) : SourceRule :=
  onlyIf (if braces then carriedAhead else all [notAhead (whole .brace), carriedAhead])
    (.call (.expression braces))

def breakOperand (braces : Bool) : SourceRule :=
  all [word "break", notAhead (all [lifetime, marks ":"]), maybe lifetime, carried braces]

/-! ## Blocks as expressions -/

def conditionalRule : SourceRule :=
  all [word "if", .call (.expression false), .call .block,
    onlyIf (word "else")
      (all [word "else", .choose (word "if") (.call .conditional) (.call .block)])]

def whileLoop : SourceRule := all [word "while", .call (.expression false), .call .body]

def forLoop : SourceRule :=
  all [word "for", .call .patterns, word "in", .call (.expression false), .call .body]

def endlessLoop : SourceRule := all [word "loop", .call .body]

/-- A block or loop with a label. -/
def labelled : SourceRule :=
  all [lifetime, marks ":",
    cases .refuse [(word "while", whileLoop), (word "for", forLoop), (word "loop", endlessLoop),
      (whole .brace, .call .body)]]

/-- An expression that ends with its block, so that no comma need follow it. -/
def blockLikeAhead : SourceRule :=
  oneOf [words ["if", "while", "loop", "match", "unsafe"],
    all [notAhead (all [word "for", marks "<"]), word "for"],
    all [words ["try", "const"], whole .brace], whole .brace, lifetime]

/-- What follows a block-like expression that is a statement or an arm. Its end mark may be missing,
unless it goes on as an operand. -/
def afterBlockLike (optional required : SourceRule) : SourceRule :=
  .choose (oneOf [point, marks "?"]) (all [postfixes, expressionTail true, required])
    (maybe optional)

/-- An expression that ends with its block. -/
def blockLike : SourceRule :=
  cases .refuse [
    (word "if", .call .conditional),
    (word "while", whileLoop),
    (word "for", forLoop),
    (word "loop", endlessLoop),
    (word "match", all [word "match", .call (.expression false),
      .inside .brace (all [innerAttributes, toEnd (.call .arm)])]),
    (all [word "try", whole .brace], all [word "try", .call .block]),
    (word "unsafe", all [word "unsafe", .call .body]),
    (all [word "const", whole .brace], constantBlock),
    (whole .brace, .call .body),
    (lifetime, labelled)]

/-- An arm of a `match`. -/
def armRule : SourceRule :=
  let separator : SourceRule := .choose .endOfGroup .empty (marks ",")
  all [attributes, .call .patterns, onlyIf (word "if") (all [word "if", .call (.expression true)]),
    marks "=>",
    .choose blockLikeAhead (all [blockLike, afterBlockLike (marks ",") separator])
      (all [.call (.expression true), separator])]

/-- An operand without what precedes or follows it. -/
def atom (braces : Bool) : SourceRule :=
  cases blockLike [
    (oneOf [.take .literal, words ["true", "false"]], literalValue),
    (all [word "async", maybe (word "move"), whole .brace],
      all [word "async", maybe (word "move"), .call .block]),
    (all [word "try", whole .brace], all [word "try", .call .block]),
    (closureAhead, closure braces),
    (all [word "builtin", marks "#"], all [word "builtin", marks "#", name, whole .parenthesis]),
    (oneOf [pathAhead, marks "<", all [word "try", oneOf [marks "!", marks "::"]]],
      pathOperand braces),
    (whole .parenthesis, parenthesizedOperand),
    (word "break", breakOperand braces),
    (word "continue", all [word "continue", maybe lifetime]),
    (words ["return", "yield"], all [words ["return", "yield"], carried true]),
    (word "become", all [word "become", .call (.expression true)]),
    (whole .bracket, arrayOperand),
    (word "let", all [word "let", .call .patterns, marks "=", .call (.operand false),
      comparisonTail false]),
    (marks "..", range braces),
    (word "_", word "_")]

/-- The marks that take a reference. -/
def referenceMarks : SourceRule :=
  all [marks "&",
    .choose (all [word "raw", words ["mut", "const"]]) (all [word "raw", words ["mut", "const"]])
      (maybe (word "mut"))]

def operandRule (braces : Bool) : SourceRule :=
  all [attributes,
    cases (all [atom braces, postfixes]) [
      (marks "&", all [referenceMarks, .call (.operand braces)]),
      (marksOf ["*", "!", "-"], all [marksOf ["*", "!", "-"], .call (.operand braces)])]]

/-! ## Statements -/

/-- Where an item starts among statements. -/
def itemAhead : SourceRule :=
  oneOf [
    words ["pub", "extern", "use", "fn", "mod", "type", "struct", "enum", "trait", "impl", "macro"],
    all [word "crate", notAhead (marks "::")],
    all [word "static", oneOf [word "mut", name]],
    all [word "const", notAhead (oneOf [whole .brace, word "static", word "move", marks "|",
      all [word "async", notAhead (words ["unsafe", "extern", "fn"])]])],
    all [word "unsafe", notAhead (whole .brace)],
    all [word "async", words ["unsafe", "extern", "fn"]],
    all [word "union", name],
    all [word "auto", word "trait"],
    all [word "default", words ["unsafe", "impl"]],
    all [plainPath, marks "!", oneOf [name, word "try"]]]

def letStatement : SourceRule :=
  all [word "let", .call .pattern, onlyIf (marks ":") (all [marks ":", .call (.type true)]),
    onlyIf (marks "=") (all [marks "=", .call (.expression true),
      onlyIf (word "else") (all [word "else", .call .block])]),
    marks ";"]

/-- What ends a statement that needs an end: a semicolon, or the end of the block. -/
def statementEnd : SourceRule := .choose (marks ";") (marks ";") .endOfGroup

def statement : SourceRule :=
  all [attributes,
    cases (all [.call (.expression true), statementEnd]) [
      (itemAhead, .call .itemBody),
      (all [plainPath, marks "!", whole .brace, notAhead (oneOf [point, marks "?"])],
        all [plainPath, marks "!", whole .brace, maybe (marks ";")]),
      (word "let", letStatement),
      (blockLikeAhead, all [blockLike, afterBlockLike (marks ";") statementEnd])]]

def statements : SourceRule := toEnd (.choose (marks ";") (marks ";") statement)

/-- A block that says nothing about itself. -/
def blockRule : SourceRule := .inside .brace statements

/-- A block that may start with attributes of itself. -/
def bodyRule : SourceRule := .inside .brace (all [innerAttributes, statements])

end RecordSchema.Source.Rule
