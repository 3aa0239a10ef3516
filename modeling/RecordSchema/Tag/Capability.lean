/-
Capabilities: what the tokens of a tag mean.

The keys form a closed set and are matched in any letter case; every key may appear once. A
capability carries its value already typed, so nothing after this module looks at tag text again.
The set keeps the order of the tag, because that is the order in which it is handed on.
-/
import RecordSchema.Json.Value
import RecordSchema.Tag.Token
import RecordSchema.Text.LowerCase

set_option autoImplicit false

namespace RecordSchema.Tag

open Text

/-! ## Keys and index kinds -/

/-- The keys a tag may use. -/
inductive CapabilityKey where
  | date
  | id
  | index
  | nameInDb
  | transient
  | unique
  deriving Repr, DecidableEq

def CapabilityKey.all : List CapabilityKey := [.date, .id, .index, .nameInDb, .transient, .unique]

/-- The key in its lower-case spelling. -/
def CapabilityKey.text : CapabilityKey → String
  | .date => "date"
  | .id => "id"
  | .index => "index"
  | .nameInDb => "nameindb"
  | .transient => "transient"
  | .unique => "unique"

/-- The key of a text that is lower-cased already. -/
def CapabilityKey.ofLowerCase? (s : String) : Option CapabilityKey := all.find? (·.text = s)

/-- What an index is built on. -/
inductive IndexKind where
  | default
  | value
  | hash
  | hash64
  deriving Repr, DecidableEq

def IndexKind.all : List IndexKind := [.default, .value, .hash, .hash64]

/-- The value that names the kind; the default kind is named by the empty one. -/
def IndexKind.text : IndexKind → String
  | .default => ""
  | .value => "value"
  | .hash => "hash"
  | .hash64 => "hash64"

/-! ## Refusals -/

/-- Why a tag was refused. -/
inductive TagError where
  | token (cause : TokenError)
  | duplicate (key : String)
  | unexpectedValue (key : CapabilityKey)
  | unknownIndexKind (value : String)
  | unknownKey (key : String)
  deriving Repr, DecidableEq

def TagError.message : TagError → String
  | .token cause => cause.message
  | .duplicate key => "duplicate annotation " ++ key
  | .unexpectedValue key => "annotation " ++ key.text ++ " does not take a value"
  | .unknownIndexKind value => "unknown index type " ++ value
  | .unknownKey key => "unknown annotation " ++ key

/-- The kind that a value names, in any ASCII case. -/
def IndexKind.parse (value : String) : Except TagError IndexKind :=
  match all.find? (·.text.toList = lowerAscii value.toList) with
  | some kind => .ok kind
  | none => .error (.unknownIndexKind value)

/-! ## Capabilities -/

/-- The key of a token in lower case, which is how errors name it too. -/
def Token.lowerKey (token : Token) : String := String.ofList (lowerCase token.key.toList)

/-- One recognised annotation with its typed value. -/
inductive Capability where
  | date
  | id
  | index (kind : IndexKind)
  | nameInDb (name : String)
  | transient
  | unique
  deriving Repr, DecidableEq

def Capability.key : Capability → CapabilityKey
  | .date => .date
  | .id => .id
  | .index _ => .index
  | .nameInDb _ => .nameInDb
  | .transient => .transient
  | .unique => .unique

/-- The value as a tag writes it; the default index is written without one. -/
def Capability.value : Capability → Option String
  | .index .default => none
  | .index kind => some kind.text
  | .nameInDb name => some name
  | _ => none

/-- The capability of a key and its value. An index without a value is of the default kind, a
storage name without one is empty, and the other keys take none. -/
def Capability.ofKey (key : CapabilityKey) (value : Option String) :
    Except TagError Capability :=
  match key, value with
  | .index, value => (IndexKind.parse (value.getD "")).map .index
  | .nameInDb, value => .ok (.nameInDb (value.getD ""))
  | key, some _ => .error (.unexpectedValue key)
  | .date, none => .ok .date
  | .id, none => .ok .id
  | .transient, none => .ok .transient
  | .unique, none => .ok .unique

/-- The capability that a token means. Keys are looked up in lower case. -/
def Capability.ofToken (token : Token) : Except TagError Capability :=
  match CapabilityKey.ofLowerCase? token.lowerKey with
  | some key => Capability.ofKey key token.value
  | none => .error (.unknownKey token.lowerKey)

/-! ## Sets of capabilities -/

/-- The capabilities of one field in the order of its tag. -/
structure Capabilities where
  items : List Capability
  deriving Repr, DecidableEq

namespace Capabilities

def empty : Capabilities := ⟨[]⟩

/-- The first capability with a key. -/
def get? (caps : Capabilities) (key : CapabilityKey) : Option Capability :=
  caps.items.find? (·.key = key)

def contains (caps : Capabilities) (key : CapabilityKey) : Bool := (caps.get? key).isSome

def isId (caps : Capabilities) : Bool := caps.contains .id

def isTransient (caps : Capabilities) : Bool := caps.contains .transient

def isDate (caps : Capabilities) : Bool := caps.contains .date

def isUnique (caps : Capabilities) : Bool := caps.contains .unique

/-- The kind of the index, if there is one. -/
def index? (caps : Capabilities) : Option IndexKind :=
  match caps.get? .index with
  | some (.index kind) => some kind
  | _ => none

/-- The storage name that overrides the field's own, exactly as written. -/
def nameInDb? (caps : Capabilities) : Option String :=
  match caps.get? .nameInDb with
  | some (.nameInDb name) => some name
  | _ => none

/-- The set with the meaning of one more token. -/
def add (caps : Capabilities) (token : Token) : Except TagError Capabilities := do
  let capability ← Capability.ofToken token
  if caps.contains capability.key then
    throw (.duplicate token.lowerKey)
  else
    return ⟨caps.items ++ [capability]⟩

/-- The set with the meaning of more tokens, taken in order. -/
def addAll (caps : Capabilities) : List Token → Except TagError Capabilities
  | [] => .ok caps
  | token :: rest => do
    let caps ← caps.add token
    caps.addAll rest

/-- The capabilities of a tag. Of two faults the one that stands first in the text is reported. -/
def parse (tag : String) : Except TagError Capabilities := do
  let (tokens, fault) := tokens tag
  let caps ← empty.addAll tokens
  match fault with
  | some e => throw (.token e)
  | none => return caps

end Capabilities

/-! ## Writing a set back -/

/-- A capability as a token of a tag. -/
def Capability.written (capability : Capability) : String :=
  match capability.value with
  | none => capability.key.text
  | some value => capability.key.text ++ ":\"" ++ value ++ "\""

/-- The set as a tag: its tokens with one space between them. -/
def Capabilities.written (caps : Capabilities) : String :=
  " ".intercalate (caps.items.map Capability.written)

/-- The set as JSON: an object from keys to values, with null for a key without one. -/
def Capabilities.json (caps : Capabilities) : Json :=
  .object (caps.items.map fun c => (c.key.text, Json.optional c.value))

end RecordSchema.Tag
