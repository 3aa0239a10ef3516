/-
The grammar of patterns.
-/
import RecordSchema.Source.Grammar.Type

set_option autoImplicit false

namespace RecordSchema.Source.Rule

/-- The name or position of a member. -/
def member : SourceRule := oneOf [name, .take .position]

/-- A block of constants. -/
def constantBlock : SourceRule := all [word "const", .call .body]

/-- The marks of a range in a pattern. -/
def patternRangeMarks : SourceRule := marksOf ["..=", "...", ".."]

/-- Where a range has no upper end. -/
def rangeEndAhead : SourceRule :=
  oneOf [.endOfGroup, marks "|", marks "=", colon, marks ",", marks ";", word "if"]

/-- One end of a range in a pattern. -/
def rangeBound : SourceRule :=
  cases .refuse [
    (literalValue, literalValue),
    (oneOf [pathAhead, marks "<"], qualifiedPath .expression),
    (word "const", constantBlock)]

/-- What follows the lower end of a range: only a half-open one may lack the upper end. -/
def rangeTail : SourceRule :=
  cases (all [marks "..", .choose rangeEndAhead .empty rangeBound])
    [(marksOf ["..=", "..."], all [marksOf ["..=", "..."], rangeBound])]

/-- Patterns between brackets. -/
def patternList (delimiter : Delimiter) : SourceRule :=
  .inside delimiter (commaTerminated (.call .patterns))

/-- A field of a record pattern. -/
def fieldPattern : SourceRule :=
  cases
    (all [maybe (word "box"), maybe (word "ref"), maybe (word "mut"), name,
      onlyIf (marks ":") (all [marks ":", .call .patterns])])
    [(.take .position, all [.take .position, marks ":", .call .patterns])]

def recordPattern : SourceRule :=
  .inside .brace (toEnd (all [attributes,
    .choose (marks "..") (all [marks "..", .endOfGroup])
      (all [fieldPattern, .choose .endOfGroup .empty (marks ",")])]))

/-- A pattern that starts with a path. -/
def pathPattern : SourceRule :=
  .choose (all [plainPath, bang]) invocation
    (all [qualifiedPath .expression,
      cases .empty [
        (whole .brace, recordPattern),
        (whole .parenthesis, patternList .parenthesis),
        (marks "..", rangeTail)]])

/-- Where a pattern starts with a path and not with a new name. -/
def pathPatternAhead : SourceRule :=
  oneOf [
    all [name, oneOf [marks "::", marks "!", whole .brace, whole .parenthesis, marks ".."]],
    all [word "self", marks "::"], marks "::", marks "<", words ["Self", "super", "crate"]]

def namePattern : SourceRule :=
  all [maybe (word "ref"), maybe (word "mut"), oneOf [word "self", name],
    onlyIf (marks "@") (all [marks "@", .call .pattern])]

/-- One pattern without alternatives. -/
def patternRule : SourceRule :=
  cases .refuse [
    (pathPatternAhead, pathPattern),
    (word "_", word "_"),
    (word "box", all [word "box", .call .pattern]),
    (oneOf [marks "-", literalValue], all [rangeBound, onlyIf (marks "..") rangeTail]),
    (word "const", all [constantBlock, onlyIf (marks "..") rangeTail]),
    (oneOf [words ["ref", "mut", "self"], name], namePattern),
    (marks "&", all [marks "&", maybe (word "mut"), .call .pattern]),
    (whole .parenthesis, patternList .parenthesis),
    (whole .bracket, patternList .bracket),
    (all [notAhead (marks "..."), marks ".."], rangeTail)]

/-- A single bar, which is neither a double one nor an assignment. -/
def bar : SourceRule := all [notAhead (marksOf ["||", "|="]), marks "|"]

/-- A pattern with its alternatives. -/
def patternsRule : SourceRule :=
  all [maybe (marks "|"), .call .pattern, .repeatWhile bar (all [bar, .call .pattern])]

end RecordSchema.Source.Rule
