/-
JSON values.

An object is a list of fields, so the order of fields is kept and a repeated key can be seen. A
number is a natural number where it is written as one; any other number is kept as its text, because
nothing here computes with it.
-/

set_option autoImplicit false

namespace RecordSchema

/-- A JSON value. -/
inductive Json where
  | null
  | bool (b : Bool)
  | natural (n : Nat)
  | decimal (digits : String)
  | text (s : String)
  | list (items : List Json)
  | object (fields : List (String × Json))
  deriving Repr, Inhabited

namespace Json

/-- A text, or null. -/
def optional (s : Option String) : Json := s.elim .null .text

/-- A list of texts. -/
def texts (items : List String) : Json := .list (items.map .text)

/-- The value of the first field with a key. -/
def field? (key : String) : Json → Option Json
  | .object fields => fields.lookup key
  | _ => none

end Json

end RecordSchema
