/-
The grammar of paths, types, bounds and generic parameters.
-/
import RecordSchema.Source.Nonterminal

set_option autoImplicit false

namespace RecordSchema.Source.Rule

/-! ## Marks that stand for themselves -/

/-- An opening angle that starts arguments. -/
def openAngle : SourceRule := all [notAhead (marksOf ["<=", "<<="]), marks "<"]

/-- A colon that is not the first of two. -/
def colon : SourceRule := all [notAhead (marks "::"), marks ":"]

/-! ## Paths -/

/-- Arguments between parentheses start here, perhaps after two colons. -/
def parenthesesAhead : SourceRule :=
  oneOf [whole .parenthesis, all [marks "::", whole .parenthesis]]

/-- The type a function gives back. -/
def returnType (plus : Bool) : SourceRule :=
  onlyIf (marks "->") (all [marks "->", .call (.type plus)])

def parenthesizedArguments : SourceRule :=
  all [maybe (marks "::"), .inside .parenthesis (commaTerminated (.call (.type true))),
    returnType false]

/-- Where the arguments of a segment start. -/
def argumentsAhead : PathStyle → SourceRule
  | .expression => all [marks "::", marks "<"]
  | _ => oneOf [openAngle, all [marks "::", marks "<"]]

/-- What may follow the word of a segment. -/
def segmentTail (style : PathStyle) : SourceRule :=
  cases .empty
    ((argumentsAhead style, .call .arguments) ::
      if style = .callable then [(parenthesesAhead, parenthesizedArguments)] else [])

/-- One segment of a path. -/
def segment (style : PathStyle) : SourceRule :=
  cases (all [oneOf [word "Self", name], segmentTail style])
    [(words ["super", "self", "crate", "try"],
      all [words ["super", "self", "crate", "try"],
        if style = .callable then onlyIf parenthesesAhead parenthesizedArguments else .empty])]

/-- The segments after the first. -/
def pathTail (style : PathStyle) : SourceRule :=
  .repeatWhile (all [notAhead (all [marks "::", whole .parenthesis]), marks "::"])
    (all [marks "::", segment style])

def pathRule (style : PathStyle) : SourceRule :=
  all [maybe (marks "::"), segment style, pathTail style]

/-- A path that may start from a type between angles. -/
def qualifiedPath (style : PathStyle) : SourceRule :=
  .choose (marks "<")
    (all [marks "<", .call (.type true),
      onlyIf (word "as") (all [word "as", .call (.path .plain)]),
      marks ">", marks "::", segment style,
      .repeatWhile (marks "::") (all [marks "::", segment style])])
    (.call (.path style))

/-- Where a path starts, other than at an angle. -/
def pathAhead : SourceRule := oneOf [name, pathWords, marks "::"]

/-! ## Arguments -/

/-- A constant among arguments. -/
def constantArgument : SourceRule :=
  cases (.call .body) [(literalValue, literalValue), (name, name)]

/-- Where a constant among arguments starts without doubt. -/
def constantAhead : SourceRule := oneOf [literalValue, whole .brace]

def bounds (stops : List SourceRule) : SourceRule := plusesUntil (oneOf stops) (.call .bound)

def argumentsRule : SourceRule :=
  all [maybe (marks "::"), marks "<", commasUntil (marks ">") (.call .argument), marks ">"]

/-- Bounds added to a type after its first path. -/
def addedBounds : SourceRule :=
  .repeatWhile (marks "+") (all [marks "+",
    onlyIf (oneOf [.take .anyWord, marks "::", marks "?", lifetime, whole .parenthesis,
        whole .bracket])
      (.call .bound)])

/-- What may follow the first segment of a path that is a type. -/
def typePathTail (plus : Bool) : SourceRule :=
  all [pathTail .callable, if plus then addedBounds else .empty]

/-- An argument: a lifetime, a constant, a type, or the value or bounds of an associated item, which
start like a type of a single segment. -/
def argumentRule : SourceRule :=
  cases (.call (.type true)) [
    (all [lifetime, notAhead (marks "+")], lifetime),
    (constantAhead, constantArgument),
    (all [plainPath, bang], invocation),
    (oneOf [name, pathWords],
      all [segment .callable,
        cases (typePathTail true) [
          (marks "=", all [marks "=",
            .choose constantAhead constantArgument (.call (.type true))]),
          (colon, all [colon, bounds [marks ",", marks ">"]])]])]

/-! ## Bounds -/

/-- The bounds of a lifetime. -/
def lifetimeBounds (stops : List SourceRule) : SourceRule := plusesUntil (oneOf stops) lifetime

def lifetimeParameter : SourceRule :=
  all [lifetime, onlyIf (marks ":") (all [marks ":", lifetimeBounds [marks ",", marks ">"]])]

/-- Lifetimes that are bound by what follows. -/
def boundLifetimes : SourceRule :=
  all [word "for", marks "<",
    commasUntil (marks ">") (all [attributes, lifetimeParameter]), marks ">"]

def maybeBoundLifetimes : SourceRule := onlyIf (word "for") boundLifetimes

/-- The lifetimes and parameters that a type captures. -/
def preciseCapture : SourceRule :=
  all [word "use", marks "<",
    commasUntil (marks ">") (oneOf [lifetime, word "Self", name]), marks ">"]

def traitBound : SourceRule :=
  all [maybeBoundLifetimes, onlyIf (all [marks "~", word "const"]) (all [marks "~", word "const"]),
    maybe (word "const"), maybe (marks "?"), maybeBoundLifetimes, .call (.path .callable)]

/-- A bound other than a lifetime. -/
def namedBound : SourceRule :=
  cases traitBound [
    (word "use", preciseCapture),
    (whole .parenthesis, .inside .parenthesis traitBound)]

def boundRule : SourceRule := .choose lifetime lifetime namedBound

/-- Bounds of an object or opaque type: lifetimes may come first, but one of the bounds must be no
lifetime. -/
def objectBounds (plus : Bool) : SourceRule :=
  if plus then
    all [.repeatWhile (all [lifetime, marks "+"]) (all [lifetime, marks "+"]), namedBound,
      addedBounds]
  else namedBound

/-! ## Types -/

/-- A type between parentheses, or a tuple. -/
def parenthesizedType (plus : Bool) : SourceRule :=
  let starts (rule : SourceRule) : SourceRule := .inside .parenthesis (all [rule, .remainder])
  cases
    (all [.inside .parenthesis (all [.call (.type true),
        onlyIf (marks ",") (all [marks ",", commaTerminated (.call (.type true))])]),
      if plus then addedBounds else .empty]) [
    (.inside .parenthesis .endOfGroup, whole .parenthesis),
    (starts lifetime, .inside .parenthesis (objectBounds true)),
    (starts (marks "?"), all [.inside .parenthesis traitBound, addedBounds])]

/-- The convention of a foreign function. -/
def abi : SourceRule := all [word "extern", maybe (.take (.literalOf .text))]

/-- The parameters of a function type; the last may stand for any number of them. -/
def functionTypeParameters : SourceRule :=
  let label : SourceRule := all [oneOf [name, words ["_", "self"]], colon]
  let variadic : SourceRule := all [maybe label, marks "..."]
  toEnd (all [attributes,
    cases (all [
        cases (.call (.type true)) [
          (label, all [label, .call (.type true)]),
          (all [word "mut", word "self"],
            all [word "mut", word "self", onlyIf colon (all [colon, .call (.type true)])])],
        .choose .endOfGroup .empty (marks ",")])
      [(variadic, all [variadic, maybe (marks ","), .endOfGroup])]])

def functionType : SourceRule :=
  all [maybeBoundLifetimes, maybe (word "unsafe"), onlyIf (word "extern") abi, word "fn",
    .inside .parenthesis functionTypeParameters, returnType false]

def functionTypeAhead : SourceRule := words ["fn", "unsafe", "extern"]

/-- A type named by a path. -/
def pathType (plus : Bool) : SourceRule :=
  .choose (all [plainPath, bang]) invocation
    (all [qualifiedPath .callable, if plus then addedBounds else .empty])

def typeRule (plus : Bool) : SourceRule :=
  cases .refuse [
    (word "for", all [boundLifetimes,
      cases .refuse [(functionTypeAhead, functionType), (oneOf [name, pathWords], pathType plus)]]),
    (whole .parenthesis, parenthesizedType plus),
    (functionTypeAhead, functionType),
    (oneOf [pathAhead, marks "<"], pathType plus),
    (word "dyn", all [word "dyn", maybe (marks "*"), objectBounds plus]),
    (whole .bracket, .inside .bracket (all [.call (.type true),
      onlyIf (marks ";") (all [marks ";", .call (.expression true)])])),
    (marks "*", all [marks "*", words ["const", "mut"], .call (.type false)]),
    (marks "&", all [marks "&", maybe lifetime, maybe (word "mut"), .call (.type false)]),
    (marks "!", marks "!"),
    (word "impl", all [word "impl", objectBounds plus]),
    (word "_", word "_"),
    (lifetime, objectBounds true)]

/-! ## Generic parameters -/

def typeParameter : SourceRule :=
  all [name, onlyIf (marks ":") (all [marks ":", bounds [marks ",", marks ">", marks "="]]),
    onlyIf (marks "=") (all [marks "=", .call (.type true)])]

def constantParameter : SourceRule :=
  all [word "const", name, marks ":", .call (.type true),
    onlyIf (marks "=") (all [marks "=", constantArgument])]

def genericsRule : SourceRule :=
  onlyIf (marks "<") (all [marks "<",
    commasUntil (marks ">") (all [attributes,
      cases .refuse [(lifetime, lifetimeParameter), (name, typeParameter),
        (word "const", constantParameter), (word "_", word "_")]]),
    marks ">"])

/-- Whether an angle opens parameters rather than the type of a qualified path. -/
def genericsAhead : SourceRule :=
  all [marks "<",
    oneOf [marks ">", marks "#", word "const",
      all [oneOf [name, lifetime], oneOf [colon, marks ",", marks ">", marks "="]]]]

/-- Where the conditions of a `where` clause end. -/
def conditionsEnd : SourceRule :=
  oneOf [.endOfGroup, whole .brace, marks ",", marks ";", colon, marks "="]

def condition : SourceRule :=
  cases
    (all [maybeBoundLifetimes, .call (.type true), marks ":", bounds [conditionsEnd]])
    [(all [lifetime, marks ":"], all [lifetime, marks ":", lifetimeBounds [conditionsEnd]])]

def whereClauseRule : SourceRule :=
  onlyIf (word "where") (all [word "where", notAhead genericsAhead,
    .repeatWhile (notAhead conditionsEnd)
      (all [condition, .choose (marks ",") (marks ",") (ahead conditionsEnd)])])

end RecordSchema.Source.Rule
