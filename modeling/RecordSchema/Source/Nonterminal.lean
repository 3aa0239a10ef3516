/-
The nonterminals of declaration sources.

Only what is recursive or has to be found again in what was read is a nonterminal; everything else
is a rule by itself. Three properties of a place are parameters: whether bounds may be added to a
type with a plus sign, whether a brace after a path opens a record, and how a path takes its
arguments.
-/
import RecordSchema.Source.Rule

set_option autoImplicit false

namespace RecordSchema.Source

/-- How a path takes arguments: in expressions only after two colons; elsewhere right after a name,
and in types and bounds also between parentheses. -/
inductive PathStyle where
  | expression
  | plain
  | callable
  deriving Repr, DecidableEq

inductive Nonterminal where
  | file
  | item
  | itemBody
  | record
  | recordName
  | fields
  | field
  | fieldName
  | fieldType
  | moduleItem
  | attributeGroup
  | options
  | option
  | useTree (root : Bool)
  | path (style : PathStyle)
  | arguments
  | argument
  | bound
  | type (plus : Bool)
  | generics
  | whereClause
  | pattern
  | patterns
  | expression (braces : Bool)
  | operand (braces : Bool)
  | conditional
  | arm
  | block
  | body
  deriving Repr, DecidableEq

/-- A rule of this grammar. -/
abbrev SourceRule := Rule Nonterminal

namespace Rule

/-! ## Attributes and plain paths -/

def pathWords : SourceRule := words ["super", "self", "Self", "crate"]

/-- A path without arguments. -/
def plainPath : SourceRule :=
  let segment : SourceRule := oneOf [name, pathWords]
  all [maybe (marks "::"), segment, .repeatWhile (marks "::") (all [marks "::", segment])]

/-- What may follow the path of an attribute: a group, or a value. -/
def attributeArgument : SourceRule :=
  cases .empty [
    (anyGroup, anyGroup),
    (marks "=", all [marks "=", notAhead (all [marks "#", whole .bracket]),
      .call (.expression true)])]

/-- What an attribute says: a path, and perhaps an argument. -/
def attributeBody : SourceRule := all [oneOf [word "unsafe", plainPath], attributeArgument]

/-- An attribute of what follows it. -/
def attributeRule : SourceRule := all [marks "#", .inside .bracket attributeBody]

def attributes : SourceRule := .repeatWhile (marks "#") (.call .attributeGroup)

/-- Attributes of what is around them. -/
def innerAttributes : SourceRule :=
  .repeatWhile (all [marks "#", marks "!"])
    (all [marks "#", marks "!", .inside .bracket attributeBody])

/-- A mark of an invocation, which is no inequality. -/
def bang : SourceRule := all [notAhead (marks "!="), marks "!"]

/-- The invocation of a named expansion, with any group. -/
def invocation : SourceRule := all [plainPath, bang, anyGroup]

/-! ## Literals -/

/-- A literal, a truth value, or a negative number. -/
def literalValue : SourceRule :=
  oneOf [.take .literal, words ["true", "false"],
    all [marks "-", .take (.literalOf .number)]]

/-! ## Options of an attribute -/

/-- An option: a path of any words, and perhaps a group or a value. A literal alone stands where an
option should. -/
def optionRule : SourceRule :=
  let anyWord : SourceRule := .take .anyWord
  let flag : SourceRule := all [words ["true", "false"], marks "="]
  .choose (all [notAhead flag, literalValue]) literalValue
    (all [maybe (marks "::"), anyWord, .repeatWhile (marks "::") (all [marks "::", anyWord]),
      attributeArgument])

def optionsRule : SourceRule := commaTerminated (.call .option)

/-! ## Visibility -/

/-- How far something is visible. Parentheses that hold anything but a restriction belong to what
follows. -/
def visibility : SourceRule :=
  let place : SourceRule := .inside .parenthesis (words ["crate", "self", "super"])
  onlyIf (word "pub") (all [word "pub",
    cases .empty [
      (place, place),
      (.inside .parenthesis (all [word "in", .remainder]),
        .inside .parenthesis (all [word "in", plainPath]))]])

end Rule

end RecordSchema.Source
