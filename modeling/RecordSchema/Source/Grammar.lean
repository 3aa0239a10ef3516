/-
The grammar of declaration sources.
-/
import RecordSchema.Source.Grammar.Item
import RecordSchema.Source.Lexeme

set_option autoImplicit false

namespace RecordSchema.Source

/-- The rule of each nonterminal. -/
def grammar : Nonterminal → SourceRule
  | .file => Rule.items
  | .item => Rule.itemRule
  | .itemBody => Rule.itemBodyRule
  | .record => Rule.recordRule
  | .recordName => Rule.name
  | .fields => Rule.fieldsRule
  | .field => Rule.fieldRule
  | .fieldName => Rule.fieldNameRule
  | .fieldType => Rule.fieldTypeRule
  | .moduleItem => Rule.moduleRule
  | .attributeGroup => Rule.attributeRule
  | .options => Rule.optionsRule
  | .option => Rule.optionRule
  | .useTree root => Rule.useTreeRule root
  | .path style => Rule.pathRule style
  | .arguments => Rule.argumentsRule
  | .argument => Rule.argumentRule
  | .bound => Rule.boundRule
  | .type plus => Rule.typeRule plus
  | .generics => Rule.genericsRule
  | .whereClause => Rule.whereClauseRule
  | .pattern => Rule.patternRule
  | .patterns => Rule.patternsRule
  | .expression braces => Rule.expressionRule braces
  | .operand braces => Rule.operandRule braces
  | .conditional => Rule.conditionalRule
  | .arm => Rule.armRule
  | .block => Rule.blockRule
  | .body => Rule.bodyRule

mutual

/-- How many tokens a token has in it, itself included. -/
def Token.size : Token → Nat
  | .group _ items => 1 + Token.allSize items
  | _ => 1

def Token.allSize : List Token → Nat
  | [] => 0
  | token :: rest => token.size + Token.allSize rest

end

/-- Enough depth for any text of so many tokens: rules nest less deep than this before one of them
takes a token. -/
def depthPerToken : Nat := 1000

/-- Tokens read as a whole by a nonterminal, or nothing if they do not follow its rule. -/
def Nonterminal.read? (n : Nonterminal) (tokens : List Token) : Option (List (Node Nonterminal)) :=
  match Rule.read grammar (depthPerToken * (Token.allSize tokens + 1)) (grammar n) tokens with
  | some (nodes, []) => some nodes
  | _ => none

end RecordSchema.Source
