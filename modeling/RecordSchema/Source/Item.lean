/-
Items: what a source declares.

Of all that a source may hold, records with named fields and modules with their content are kept.
Everything else is one of the other items. A record is kept with its attributes as they were
written, so that what they mean is decided when declarations are collected and not when the source
is read.
-/
import RecordSchema.Source.Attribute

set_option autoImplicit false

namespace RecordSchema.Source

/-- A named field of a record, with the text of its type. -/
structure RecordField where
  name : String
  typeName : String
  attributes : List Attribute
  deriving Repr

/-- A record with named fields. -/
structure Record where
  name : String
  attributes : List Attribute
  fields : List RecordField
  deriving Repr

/-- An item of a source. -/
inductive Item where
  | record (r : Record)
  | module (items : List Item)
  | other
  deriving Repr

/-! ## Type texts -/

/-- One argument of a path: its text, whether it is a lifetime, and whether a comma follows it. -/
structure ArgumentText where
  chars : List Char
  isLifetime : Bool
  comma : Bool

/-- An argument with its comma. -/
def ArgumentText.written (a : ArgumentText) : List Char := a.chars ++ if a.comma then [','] else []

/-- Whether the last of some arguments lacks a comma. -/
def ArgumentText.endsOpen (arguments : List ArgumentText) : Bool :=
  arguments.getLast?.elim false fun a => !a.comma

/-- Arguments in the order in which a type text has them: lifetimes before all others. A comma is
added where two arguments would meet without one. -/
def ArgumentText.join (arguments : List ArgumentText) : List Char :=
  let lifetimes := arguments.filter (·.isLifetime)
  let others := arguments.filter fun a => !a.isLifetime
  let separated := others.foldl
    (fun (text, isOpen) a => (text ++ (if isOpen then [','] else []) ++ a.written, !a.comma))
    (lifetimes.flatMap written, endsOpen lifetimes)
  separated.1

/-- Whether the nodes of an argument are a lifetime. -/
def isLifetimeArgument : List (Node Nonterminal) → Bool
  | [.token (.lifetime _)] => true
  | _ => false

/-- The two colons that may stand before arguments. -/
def argumentsColons : List (Node Nonterminal) → List Char
  | .token (.mark ':' _) :: _ => [':', ':']
  | _ => []

mutual

/-- The text of a node without blanks between its tokens. -/
def Node.chars : Node Nonterminal → List Char
  | .token t => t.chars
  | .group delimiter children =>
    delimiter.opening :: Node.allChars children ++ [delimiter.closing]
  | .branch .arguments children =>
    argumentsColons children ++ '<' :: ArgumentText.join (Node.argumentTexts children) ++ ['>']
  | .branch _ children => Node.allChars children

def Node.allChars : List (Node Nonterminal) → List Char
  | [] => []
  | node :: rest => node.chars ++ Node.allChars rest

/-- The arguments among the nodes of arguments. -/
def Node.argumentTexts : List (Node Nonterminal) → List ArgumentText
  | [] => []
  | .branch .argument children :: .token (.mark ',' _) :: rest =>
    ⟨Node.allChars children, isLifetimeArgument children, true⟩ :: Node.argumentTexts rest
  | .branch .argument children :: rest =>
    ⟨Node.allChars children, isLifetimeArgument children, false⟩ :: Node.argumentTexts rest
  | _ :: rest => Node.argumentTexts rest

end

/-- The text of nodes without any blank, not even inside a literal. -/
def textOf (nodes : List (Node Nonterminal)) : String :=
  String.ofList ((Node.allChars nodes).filter fun c => !Text.isBlank c)

/-! ## Records -/

/-- The children of the first branch of a nonterminal. -/
def childrenOf? (n : Nonterminal) : List (Node Nonterminal) → Option (List (Node Nonterminal))
  | [] => none
  | .branch m children :: rest => if m = n then some children else childrenOf? n rest
  | _ :: rest => childrenOf? n rest

/-- The spelling of the word that a branch of a nonterminal is. -/
def wordOf (n : Nonterminal) (nodes : List (Node Nonterminal)) : String :=
  String.ofList (((childrenOf? n nodes).elim [] Node.allTokens).flatMap Token.chars)

def RecordField.ofNodes (nodes : List (Node Nonterminal)) : RecordField where
  name := wordOf .fieldName nodes
  typeName := ((childrenOf? .fieldType nodes).map textOf).getD ""
  attributes := Attribute.ofNodes nodes

/-- The fields among nodes. -/
def RecordField.allOfNodes : List (Node Nonterminal) → List RecordField
  | [] => []
  | .branch .field children :: rest => .ofNodes children :: RecordField.allOfNodes rest
  | _ :: rest => RecordField.allOfNodes rest

/-- The record in its nodes, if its fields are named. -/
def Record.ofNodes? (attributes : List Attribute) (nodes : List (Node Nonterminal)) :
    Option Record :=
  match childrenOf? .fields nodes with
  | some [.group _ fields] =>
    some ⟨wordOf .recordName nodes, attributes, RecordField.allOfNodes fields⟩
  | _ => none

/-! ## Items -/

mutual

/-- The items that a node holds, given the attributes before it. -/
def Item.ofNode (attributes : List Attribute) : Node Nonterminal → List Item
  | .branch .item children => Item.ofNodes (Attribute.ofNodes children) children
  | .branch .itemBody children =>
    match Item.ofNodes attributes children with
    | [] => [.other]
    | items => items
  | .branch .record children => ((Record.ofNodes? attributes children).map Item.record).toList
  | .branch .moduleItem children => [.module (Item.ofNodes [] children)]
  | .group .brace children => Item.ofNodes [] children
  | _ => []

/-- The items that nodes hold. -/
def Item.ofNodes (attributes : List Attribute) : List (Node Nonterminal) → List Item
  | [] => []
  | node :: rest => Item.ofNode attributes node ++ Item.ofNodes attributes rest

end

/-- The items of a source text, or nothing if it is malformed. -/
def Item.parse? (s : String) : Option (List Item) := do
  let tokens ← Token.ofText? s
  let nodes ← Nonterminal.file.read? tokens
  return Item.ofNodes [] nodes

end RecordSchema.Source
