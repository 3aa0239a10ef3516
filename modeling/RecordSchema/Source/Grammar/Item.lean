/-
The grammar of items.

Records and modules are nonterminals, because they are what a source is read for. All other items
are only recognised: a source is refused as a whole when any part of it is malformed.
-/
import RecordSchema.Source.Grammar.Expression

set_option autoImplicit false

namespace RecordSchema.Source.Rule

/-! ## Functions -/

/-- The words before `fn`. -/
def functionQualifiers (qualifiers : List String) : SourceRule :=
  all (qualifiers.map (fun w => maybe (word w)) ++ [onlyIf (word "extern") abi])

def ownQualifiers : List String := ["const", "async", "unsafe"]

/-- Functions of foreign code may also be called safe. -/
def foreignQualifiers : List String := ["const", "async", "safe", "unsafe"]

def functionAhead (qualifiers : List String) : SourceRule :=
  all [functionQualifiers qualifiers, word "fn"]

/-- The receiver of a method: `self`, perhaps behind a reference. -/
def receiverStart : SourceRule :=
  all [onlyIf (marks "&") (all [marks "&", maybe lifetime]), maybe (word "mut"), word "self"]

def receiver : SourceRule :=
  .choose (marks "&") receiverStart
    (all [receiverStart, onlyIf (marks ":") (all [marks ":", .call (.type true)])])

/-- The end of parameters that stand for any number of arguments. -/
def variadicEnd : SourceRule := all [maybe (marks ","), .endOfGroup]

/-- A parameter with what ends it. -/
def parameter : SourceRule :=
  let separator : SourceRule := .choose .endOfGroup .empty (marks ",")
  cases
    (all [.call .pattern, marks ":",
      .choose (marks "...") (all [marks "...", variadicEnd])
        (all [.call (.type true), separator])]) [
    (marks "...", all [marks "...", variadicEnd]),
    (all [name, marks "<"], all [.call (.type true), separator])]

/-- The parameters of a function. Only the first may be a receiver. -/
def parameters : SourceRule :=
  all [
    .choose .endOfGroup .empty
      (all [attributes,
        .choose receiverStart (all [receiver, .choose .endOfGroup .empty (marks ",")]) parameter]),
    toEnd (all [attributes, notAhead receiverStart, parameter])]

def signature (qualifiers : List String) : SourceRule :=
  all [functionQualifiers qualifiers, word "fn", name, .call .generics,
    .inside .parenthesis parameters, returnType true, .call .whereClause]

/-- A body, or a semicolon in its place. -/
def bodyOrEnd : SourceRule := .choose (marks ";") (marks ";") (.call .body)

/-! ## Records, unions and enumerations -/

def unnamedFields : SourceRule :=
  .inside .parenthesis (commaTerminated (all [attributes, visibility, .call (.type true)]))

/-- The type of a field without a name may be declared in its place. -/
def fieldRule : SourceRule :=
  all [attributes, visibility, .call .fieldName, marks ":", .call .fieldType]

def fieldNameRule : SourceRule := oneOf [word "_", name]

def fieldTypeRule : SourceRule :=
  cases (.call (.type true)) [
    (word "struct", all [word "struct", .call .fields]),
    (all [word "union", whole .brace], all [word "union", .call .fields])]

def fieldsRule : SourceRule := .inside .brace (commaTerminated (.call .field))

/-- A record: with named fields, with a list of types, or empty. -/
def recordRule : SourceRule :=
  all [visibility, word "struct", .call .recordName, .call .generics,
    cases .refuse [
      (word "where", all [.call .whereClause, .choose (whole .brace) (.call .fields) (marks ";")]),
      (whole .parenthesis, all [unnamedFields, .call .whereClause, marks ";"]),
      (whole .brace, .call .fields),
      (marks ";", marks ";")]]

def variant : SourceRule :=
  all [attributes, visibility, name,
    cases .empty [(whole .brace, .call .fields), (whole .parenthesis, unnamedFields)],
    onlyIf (marks "=") (all [marks "=", .call (.expression true)])]

def enumeration : SourceRule :=
  all [visibility, word "enum", name, .call .generics, .call .whereClause,
    .inside .brace (commaTerminated variant)]

def union : SourceRule :=
  all [visibility, word "union", name, .call .generics, .call .whereClause, .call .fields]

/-! ## Constants, types and imports -/

/-- A name, or an underscore in its place. -/
def nameOrBlank : SourceRule := oneOf [name, word "_"]

/-- A constant, perhaps without a value. -/
def constant : SourceRule :=
  all [word "const", nameOrBlank, .call .generics, marks ":", .call (.type true),
    onlyIf (marks "=") (all [marks "=", .call (.expression true)]), .call .whereClause, marks ";"]

def staticItem : SourceRule :=
  all [visibility, word "static", maybe (word "mut"), name,
    onlyIf (notAhead (marks "=")) (all [marks ":", .call (.type true)]),
    onlyIf (marks "=") (all [marks "=", .call (.expression true)]), marks ";"]

/-- The value of a type item, if it has one. -/
def typeValue : SourceRule := onlyIf (marks "=") (all [marks "=", .call (.type true)])

/-- A type item; conditions stand before its value, after it, or in either place. -/
def typeItem (conditionsBefore conditionsAfter : Bool) : SourceRule :=
  all [word "type", name, .call .generics,
    onlyIf (marks ":") (all [marks ":", bounds [word "where", marks "=", marks ";"]]),
    if conditionsBefore then .call .whereClause else .empty, typeValue,
    if conditionsAfter then .call .whereClause else .empty, marks ";"]

/-- The name that an import is given. -/
def importName : SourceRule := onlyIf (word "as") (all [word "as", nameOrBlank])

/-- What an import takes: a path, everything, or a list. A path within a list may start at the root
as long as none has before. -/
def useTreeRule (root : Bool) : SourceRule :=
  let start : SourceRule := oneOf [name, words ["self", "super", "crate", "try"]]
  let nested : SourceRule :=
    if root then .choose (marks "::") (all [marks "::", .call (.useTree false)])
      (.call (.useTree true))
    else .call (.useTree false)
  cases .refuse [
    (start, all [start,
      .choose (marks "::") (all [marks "::", .call (.useTree false)]) importName]),
    (marks "*", marks "*"),
    (whole .brace, .inside .brace (commaTerminated nested))]

def useItem : SourceRule :=
  all [visibility, word "use",
    .choose (marks "::") (all [marks "::", .call (.useTree false)]) (.call (.useTree true)),
    marks ";"]

def externCrate : SourceRule :=
  all [visibility, words ["extern"], word "crate", oneOf [name, word "self"], importName, marks ";"]

/-! ## Invocations -/

/-- An invocation with what ends it: a semicolon, unless its group is in braces. -/
def invocationItem (named : Bool) : SourceRule :=
  all [plainPath, marks "!", if named then maybe (oneOf [word "try", name]) else .empty,
    .choose (whole .brace) (whole .brace) (all [anyGroup, marks ";"])]

def invocationAhead : SourceRule := pathAhead

/-- A definition of an expansion by parameters and a body. -/
def expansionItem : SourceRule :=
  all [visibility, word "macro", name, maybe (whole .parenthesis), whole .brace]

/-! ## Traits and implementations -/

/-- A member of a trait. -/
def traitMember : SourceRule :=
  all [attributes, visibility, maybe (word "default"),
    cases .refuse [
      (functionAhead ownQualifiers, all [signature ownQualifiers, bodyOrEnd]),
      (word "const", constant),
      (word "type", typeItem false true),
      (invocationAhead, invocationItem false)]]

/-- A member of an implementation. -/
def implementationMember : SourceRule :=
  let default : SourceRule :=
    onlyIf (all [word "default", notAhead (marks "!")]) (word "default")
  all [attributes, visibility, default,
    cases .refuse [
      (functionAhead ownQualifiers, all [signature ownQualifiers, bodyOrEnd]),
      (word "const", constant),
      (word "type", typeItem false true),
      (invocationAhead, invocationItem false)]]

/-- A member of a block of foreign code. -/
def foreignMember : SourceRule :=
  let qualified : SourceRule := all [words ["unsafe", "safe"], word "static"]
  all [attributes, visibility,
    cases .refuse [
      (functionAhead foreignQualifiers, all [signature foreignQualifiers, bodyOrEnd]),
      (oneOf [word "static", qualified],
        all [maybe (words ["unsafe", "safe"]), word "static", maybe (word "mut"), name, marks ":",
          .call (.type true), onlyIf (marks "=") (all [marks "=", .call (.expression true)]),
          marks ";"]),
      (word "type", typeItem true true),
      (invocationAhead, invocationItem false)]]

/-- Members between braces. -/
def members (memberRule : SourceRule) : SourceRule :=
  .inside .brace (all [innerAttributes, toEnd memberRule])

def foreignBlock : SourceRule := all [maybe (word "unsafe"), abi, members foreignMember]

def superTraits : SourceRule :=
  onlyIf (marks ":") (all [marks ":", bounds [word "where", whole .brace]])

/-- A trait, or another name for bounds. -/
def traitItem : SourceRule :=
  all [visibility, maybe (word "unsafe"), maybe (word "auto"), word "trait", name, .call .generics,
    .choose (marks "=")
      (all [marks "=", bounds [word "where", marks ";"], .call .whereClause, marks ";"])
      (all [superTraits, .call .whereClause, members traitMember])]

def implementation : SourceRule :=
  all [visibility, maybe (word "default"), maybe (word "unsafe"), word "impl",
    onlyIf genericsAhead (.call .generics),
    onlyIf (all [maybe (marks "?"), word "const"]) (all [maybe (marks "?"), word "const"]),
    onlyIf (all [marks "!", notAhead (whole .brace)]) (marks "!"),
    .call (.type true), onlyIf (word "for") (all [word "for", .call (.type true)]),
    .call .whereClause, members implementationMember]

/-! ## Items -/

/-- Items, after the attributes of what holds them. -/
def items : SourceRule := all [innerAttributes, toEnd (.call .item)]

/-- A module: with its items, or elsewhere. -/
def moduleRule : SourceRule :=
  all [visibility, maybe (word "unsafe"), word "mod", oneOf [word "try", name],
    .choose (marks ";") (marks ";") (.inside .brace items)]

/-- An item after its attributes. -/
def itemBodyRule : SourceRule :=
  let after (rule : SourceRule) : SourceRule := all [visibility, rule]
  cases .refuse [
    (after (functionAhead ownQualifiers), all [visibility, signature ownQualifiers, bodyOrEnd]),
    (after (all [word "extern", word "crate"]), externCrate),
    (after (word "extern"), foreignBlock),
    (after (word "use"), useItem),
    (after (word "static"), staticItem),
    (after (word "const"), all [visibility, constant]),
    (after (all [word "unsafe", oneOf [word "trait", all [word "auto", word "trait"]]]), traitItem),
    (after (all [word "unsafe", word "impl"]), implementation),
    (after (all [word "unsafe", word "extern"]), foreignBlock),
    (after (all [maybe (word "unsafe"), word "mod"]), .call .moduleItem),
    (after (word "type"), all [visibility, typeItem true false]),
    (after (word "struct"), .call .record),
    (after (word "enum"), enumeration),
    (after (all [word "union", name]), union),
    (after (oneOf [word "trait", all [word "auto", word "trait"]]), traitItem),
    (after (oneOf [word "impl", all [word "default", notAhead (marks "!")]]), implementation),
    (after (word "macro"), expansionItem),
    (pathAhead, invocationItem true)]

def itemRule : SourceRule := all [attributes, .call .itemBody]

end RecordSchema.Source.Rule
