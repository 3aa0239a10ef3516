/-
Printing JSON.

There are two layouts of the same tokens: a compact one without any blank, and an indented one with
a field or an item to a line. An empty list or object is printed on one line in both.
-/
import RecordSchema.Json.Value
import RecordSchema.Text.Decimal

set_option autoImplicit false

namespace RecordSchema.Json

open Text

/-! ## Strings -/

/-- A digit of a hexadecimal numeral in lower case. -/
def hexDigit (n : Nat) : Char := if n < 10 then Char.ofNat (48 + n) else Char.ofNat (87 + n)

/-- A character inside a string. Only what a string cannot hold as it is gets escaped: the quote,
the backslash and the controls below the space. -/
def escape (c : Char) : List Char :=
  if c = '"' then ['\\', '"']
  else if c = '\\' then ['\\', '\\']
  else if c = '\x08' then ['\\', 'b']
  else if c = '\t' then ['\\', 't']
  else if c = '\n' then ['\\', 'n']
  else if c = '\x0c' then ['\\', 'f']
  else if c = '\r' then ['\\', 'r']
  else if c.toNat < 32 then
    ['\\', 'u', '0', '0', hexDigit (c.toNat / 16), hexDigit (c.toNat % 16)]
  else [c]

/-- A string between its quotes. -/
def quote (s : String) : List Char := '"' :: s.toList.flatMap escape ++ ['"']

/-! ## Compact layout -/

mutual

/-- A value without blanks. -/
def compactChars : Json → List Char
  | .null => ['n', 'u', 'l', 'l']
  | .bool true => ['t', 'r', 'u', 'e']
  | .bool false => ['f', 'a', 'l', 's', 'e']
  | .natural n => Decimal.render n
  | .decimal digits => digits.toList
  | .text s => quote s
  | .list [] => ['[', ']']
  | .list (item :: rest) => '[' :: compactChars item ++ compactItems rest
  | .object [] => ['\x7b', '\x7d']
  | .object ((key, value) :: rest) =>
    '\x7b' :: quote key ++ ':' :: compactChars value ++ compactFields rest

/-- The items after the first, and the end of the list. -/
def compactItems : List Json → List Char
  | [] => [']']
  | item :: rest => ',' :: compactChars item ++ compactItems rest

/-- The fields after the first, and the end of the object. -/
def compactFields : List (String × Json) → List Char
  | [] => ['\x7d']
  | (key, value) :: rest => ',' :: quote key ++ ':' :: compactChars value ++ compactFields rest

end

/-- The compact text of a value. -/
def compact (value : Json) : String := String.ofList value.compactChars

/-! ## Indented layout -/

/-- A new line at a depth; each level is two spaces. -/
def newLine (depth : Nat) : List Char := '\n' :: List.replicate (2 * depth) ' '

mutual

/-- A value whose first character stands at a depth. -/
def prettyChars (depth : Nat) : Json → List Char
  | .null => ['n', 'u', 'l', 'l']
  | .bool true => ['t', 'r', 'u', 'e']
  | .bool false => ['f', 'a', 'l', 's', 'e']
  | .natural n => Decimal.render n
  | .decimal digits => digits.toList
  | .text s => quote s
  | .list [] => ['[', ']']
  | .list (item :: rest) =>
    '[' :: newLine (depth + 1) ++ prettyChars (depth + 1) item ++ prettyItems depth rest
  | .object [] => ['\x7b', '\x7d']
  | .object ((key, value) :: rest) =>
    '\x7b' :: newLine (depth + 1) ++ quote key ++ ':' :: ' ' :: prettyChars (depth + 1) value ++
      prettyFields depth rest

/-- The items after the first, each on its line, and the end of the list. -/
def prettyItems (depth : Nat) : List Json → List Char
  | [] => newLine depth ++ [']']
  | item :: rest =>
    ',' :: newLine (depth + 1) ++ prettyChars (depth + 1) item ++ prettyItems depth rest

/-- The fields after the first, each on its line, and the end of the object. -/
def prettyFields (depth : Nat) : List (String × Json) → List Char
  | [] => newLine depth ++ ['\x7d']
  | (key, value) :: rest =>
    ',' :: newLine (depth + 1) ++ quote key ++ ':' :: ' ' :: prettyChars (depth + 1) value ++
      prettyFields depth rest

end

/-- The indented text of a value. -/
def pretty (value : Json) : String := String.ofList (value.prettyChars 0)

end RecordSchema.Json
