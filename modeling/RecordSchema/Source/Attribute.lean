/-
Attributes: what a source says about a record or a field.

Only one attribute matters here, and it has one option in each place: a record may be skipped, and a
field may have a tag. The attribute may be given several times, but an option only once among all of
them, and any other option is refused, so that a misspelled one cannot pass unnoticed.

A place is refused for its first fault, in the order of the text, and the words of the refusal are
this module's own. A library that reads attributes by the options declared for them may go on and
gather all faults of a record into one error: it refuses the same records, but names more faults and
names them in other words.
-/
import RecordSchema.Source.Grammar

set_option autoImplicit false

namespace RecordSchema.Source

/-! ## Attributes -/

/-- What follows the path of an attribute. -/
inductive AttributeArgument where
  | absent
  | list (items : List Token)
  | value (tokens : List Token)
  deriving Repr

structure Attribute where
  path : String
  argument : AttributeArgument
  deriving Repr

mutual

/-- The tokens that a node was read from. -/
def Node.tokens {ν : Type} : Node ν → List Token
  | .token t => [t]
  | .group delimiter children => [.group delimiter (Node.allTokens children)]
  | .branch _ children => Node.allTokens children

def Node.allTokens {ν : Type} : List (Node ν) → List Token
  | [] => []
  | node :: rest => node.tokens ++ Node.allTokens rest

end

/-- Whether a token belongs to a path. -/
def Token.inPath : Token → Bool
  | .word _ => true
  | .mark c _ => c == ':'
  | _ => false

/-- The argument that stands after a path. -/
def AttributeArgument.ofTokens : List Token → AttributeArgument
  | [] => .absent
  | [.group _ items] => .list items
  | .mark _ _ :: tokens => .value tokens
  | tokens => .value tokens

/-- The attribute inside its brackets. -/
def Attribute.ofTokens (tokens : List Token) : Attribute where
  path := String.ofList (Token.allChars (tokens.takeWhile Token.inPath))
  argument := .ofTokens (tokens.dropWhile Token.inPath)

/-- The attributes among nodes. -/
def Attribute.ofNodes : List (Node Nonterminal) → List Attribute
  | [] => []
  | .branch .attributeGroup [_, .group .bracket body] :: rest =>
    .ofTokens (Node.allTokens body) :: Attribute.ofNodes rest
  | _ :: rest => Attribute.ofNodes rest

/-! ## Options -/

/-- Why an attribute is refused. -/
inductive AttributeError where
  /-- The attribute is given a value and not a list. -/
  | noList
  /-- Its list is not one of options. -/
  | malformed
  | unexpectedLiteral
  | unknownOption (name : String)
  | repeatedOption (name : String)
  | badValue (name : String)
  deriving Repr, DecidableEq

def AttributeError.message : AttributeError → String
  | .noList => "options must be given as a list"
  | .malformed => "malformed options"
  | .unexpectedLiteral => "unexpected literal"
  | .unknownOption name => "unknown option " ++ name
  | .repeatedOption name => "repeated option " ++ name
  | .badValue name => "unexpected value of option " ++ name

/-- The value of an option, as far as any option takes it. -/
inductive OptionValue where
  | absent
  | text (s : String)
  | flag (b : Bool)
  | other
  deriving Repr, DecidableEq

/-- An option of an attribute. -/
structure AttributeOption where
  name : String
  value : OptionValue
  deriving Repr, DecidableEq

/-- The value that stands after the name of an option. -/
def OptionValue.ofTokens (tokens : List Token) : OptionValue :=
  match AttributeArgument.ofTokens tokens with
  | .absent => .absent
  | .value [.literal .text _ s] => .text s
  | .value [.word "true"] => .flag true
  | .value [.word "false"] => .flag false
  | _ => .other

/-- The spellings of words. -/
def Token.spellings : List Token → List String
  | [] => []
  | .word s :: rest => s :: Token.spellings rest
  | _ :: rest => Token.spellings rest

/-- The option in its tokens. A truth value alone is a literal and no option. -/
def AttributeOption.ofTokens (tokens : List Token) : Except AttributeError AttributeOption :=
  let path := tokens.takeWhile Token.inPath
  let value := OptionValue.ofTokens (tokens.dropWhile Token.inPath)
  match Token.spellings path with
  | [] => .error .unexpectedLiteral
  | words =>
    if value = .absent ∧ (words = ["true"] ∨ words = ["false"]) ∧ path.length = 1 then
      .error .unexpectedLiteral
    else .ok ⟨"::".intercalate words, value⟩

/-- The options among nodes. -/
def AttributeOption.ofNodes : List (Node Nonterminal) → Except AttributeError (List AttributeOption)
  | [] => .ok []
  | .branch .option body :: rest => do
    let first ← AttributeOption.ofTokens (Node.allTokens body)
    let more ← AttributeOption.ofNodes rest
    return first :: more
  | _ :: rest => AttributeOption.ofNodes rest

/-- The options of an attribute. -/
def Attribute.options (a : Attribute) : Except AttributeError (List AttributeOption) :=
  match a.argument with
  | .absent => .ok []
  | .value _ => .error .noList
  | .list items =>
    match Nonterminal.options.read? items with
    | none => .error .malformed
    | some nodes => AttributeOption.ofNodes nodes

/-! ## The one option of a place -/

/-- The path of the attribute that is looked at. -/
def attributePath : String := "flatschema"

/-- Takes up the options of a place that knows one, after what was found before. -/
def takeOptions {α : Type} (known : String) (read : OptionValue → Option α) (found : Option α) :
    List AttributeOption → Except AttributeError (Option α)
  | [] => .ok found
  | option :: rest =>
    if option.name ≠ known then .error (.unknownOption option.name)
    else if found.isSome then .error (.repeatedOption known)
    else
      match read option.value with
      | none => .error (.badValue known)
      | some value => takeOptions known read (some value) rest

/-- Takes up the options of all attributes of a place. -/
def takeAttributes {α : Type} (known : String) (read : OptionValue → Option α) (found : Option α) :
    List Attribute → Except AttributeError (Option α)
  | [] => .ok found
  | a :: rest =>
    if a.path = attributePath then do
      let options ← a.options
      let found ← takeOptions known read found options
      takeAttributes known read found rest
    else takeAttributes known read found rest

/-- The value of a truth option: given alone, as a truth value, or as its text. -/
def OptionValue.toFlag : OptionValue → Option Bool
  | .absent => some true
  | .flag b => some b
  | .text "true" => some true
  | .text "false" => some false
  | _ => none

/-- The value of a text option. -/
def OptionValue.toText : OptionValue → Option String
  | .text s => some s
  | _ => none

/-- Whether attributes say that a record is skipped. -/
def Attribute.skips (attributes : List Attribute) : Except AttributeError Bool :=
  (takeAttributes "skip" OptionValue.toFlag none attributes).map (·.getD false)

/-- The tag that attributes give a field; without one it is empty. -/
def Attribute.tag (attributes : List Attribute) : Except AttributeError String :=
  (takeAttributes "tag" OptionValue.toText none attributes).map (·.getD "")

end RecordSchema.Source
