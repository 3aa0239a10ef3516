/-
Reading JSON.

A reading keeps what it saw before a text broke off: a value that is cut short still holds the
fields and items before the cut. A decoder that goes through a value in the order of its text can
then report the fault that comes first, whether that is a fault of the text or of what the text
says.
-/
import RecordSchema.Json.Value
import RecordSchema.Text.Decimal

set_option autoImplicit false

namespace RecordSchema.Json

open Text

/-! ## Tokens -/

/-- The blanks between tokens. -/
def isSpace (c : Char) : Bool := c == ' ' || c == '\t' || c == '\n' || c == '\r'

/-- A text without the blanks at its start. -/
def skipSpace (cs : List Char) : List Char := cs.dropWhile isSpace

/-- The value of a hexadecimal digit in either case. -/
def hexValue? (c : Char) : Option Nat :=
  if '0' ≤ c ∧ c ≤ '9' then some (c.toNat - 48)
  else if 'a' ≤ c ∧ c ≤ 'f' then some (c.toNat - 87)
  else if 'A' ≤ c ∧ c ≤ 'F' then some (c.toNat - 55)
  else none

/-- The value of four hexadecimal digits. -/
def hex4? (a b c d : Char) : Option Nat := do
  let a ← hexValue? a
  let b ← hexValue? b
  let c ← hexValue? c
  let d ← hexValue? d
  return ((a * 16 + b) * 16 + c) * 16 + d

/-- Whether a 16-bit unit is the first half of a pair. -/
def isHighHalf (n : Nat) : Bool := 0xD800 ≤ n && n < 0xDC00

/-- Whether a 16-bit unit is the second half of a pair. -/
def isLowHalf (n : Nat) : Bool := 0xDC00 ≤ n && n < 0xE000

/-- The character of two halves. -/
def joinHalves (high low : Nat) : Char :=
  Char.ofNat (0x10000 + (high - 0xD800) * 0x400 + (low - 0xDC00))

/-- The character of an escape of one letter. -/
def unescape? : Char → Option Char
  | '"' => some '"'
  | '\\' => some '\\'
  | '/' => some '/'
  | 'b' => some '\x08'
  | 'f' => some '\x0c'
  | 'n' => some '\n'
  | 'r' => some '\r'
  | 't' => some '\t'
  | _ => none

/-- Reads the inside of a string and its closing quote. -/
def readString : List Char → Option (List Char × List Char)
  | [] => none
  | '"' :: rest => some ([], rest)
  | '\\' :: 'u' :: a :: b :: c :: d :: rest =>
    match hex4? a b c d with
    | none => none
    | some unit =>
      if isHighHalf unit then
        match rest with
        | '\\' :: 'u' :: e :: f :: g :: h :: rest =>
          match hex4? e f g h with
          | none => none
          | some low =>
            if isLowHalf low then
              (readString rest).map fun r => (joinHalves unit low :: r.1, r.2)
            else none
        | _ => none
      else if isLowHalf unit then none
      else (readString rest).map fun r => (Char.ofNat unit :: r.1, r.2)
  | '\\' :: c :: rest =>
    match unescape? c with
    | none => none
    | some c => (readString rest).map fun r => (c :: r.1, r.2)
  | c :: rest =>
    if c.toNat < 32 ∨ c = '\\' then none
    else (readString rest).map fun r => (c :: r.1, r.2)

/-! ## Numbers -/

/-- Reads a non-empty run of digits. -/
def readDigits (cs : List Char) : Option (List Char × List Char) :=
  match cs.takeWhile Char.isDigit with
  | [] => none
  | digits => some (digits, cs.dropWhile Char.isDigit)

/-- Reads the part of a number before its point; only a zero alone starts with a zero. -/
def readWhole (cs : List Char) : Option (List Char × List Char) :=
  match readDigits cs with
  | some ('0' :: _ :: _, _) => none
  | r => r

/-- Reads the point and the digits after it, if there is a point. -/
def readFraction : List Char → Option (List Char × List Char)
  | '.' :: rest => (readDigits rest).map fun r => ('.' :: r.1, r.2)
  | cs => some ([], cs)

/-- Reads a sign, if there is one. -/
def readSign : List Char → List Char × List Char
  | '+' :: rest => (['+'], rest)
  | '-' :: rest => (['-'], rest)
  | cs => ([], cs)

/-- Reads the exponent, if there is one. -/
def readExponent : List Char → Option (List Char × List Char)
  | c :: rest =>
    if c = 'e' ∨ c = 'E' then
      (readDigits (readSign rest).2).map fun r => (c :: (readSign rest).1 ++ r.1, r.2)
    else some ([], c :: rest)
  | [] => some ([], [])

/-- Reads a number. -/
def readNumber (cs : List Char) : Option (Json × List Char) := do
  let (sign, cs) := match cs with
    | '-' :: rest => (['-'], rest)
    | cs => ([], cs)
  let (whole, cs) ← readWhole cs
  let (fraction, cs) ← readFraction cs
  let (exponent, cs) ← readExponent cs
  if sign = [] ∧ fraction = [] ∧ exponent = [] then
    return (.natural (Nat.ofDigitChars 10 whole 0), cs)
  else
    return (.decimal (String.ofList (sign ++ whole ++ fraction ++ exponent)), cs)

/-! ## Values -/

/-- What was read, and the text after it; there is none after a fault. -/
structure Reading (α : Type) where
  value : α
  rest : Option (List Char)

namespace Reading

/-- The reading that fails before it sees anything. -/
def broken {α : Type} (value : α) : Reading α := ⟨value, none⟩

/-- A reading of one token: the token, or a fault. -/
def ofToken (token : Option (Json × List Char)) : Reading (Option Json) :=
  match token with
  | some (value, rest) => ⟨some value, some rest⟩
  | none => broken none

end Reading

mutual

/-- Reads a value after any blanks. -/
def readValue (fuel : Nat) (cs : List Char) : Reading (Option Json) :=
  match fuel with
  | 0 => .broken none
  | fuel + 1 =>
    match skipSpace cs with
    | 'n' :: 'u' :: 'l' :: 'l' :: rest => ⟨some .null, some rest⟩
    | 't' :: 'r' :: 'u' :: 'e' :: rest => ⟨some (.bool true), some rest⟩
    | 'f' :: 'a' :: 'l' :: 's' :: 'e' :: rest => ⟨some (.bool false), some rest⟩
    | '"' :: rest => .ofToken ((readString rest).map fun r => (.text (String.ofList r.1), r.2))
    | '[' :: rest =>
      match skipSpace rest with
      | ']' :: rest => ⟨some (.list []), some rest⟩
      | rest =>
        let items := readItems fuel rest
        ⟨some (.list items.value), items.rest⟩
    | '\x7b' :: rest =>
      match skipSpace rest with
      | '\x7d' :: rest => ⟨some (.object []), some rest⟩
      | rest =>
        let fields := readFields fuel rest
        ⟨some (.object fields.value), fields.rest⟩
    | rest => .ofToken (readNumber rest)

/-- Reads the items of a list, from an item to the closing bracket. -/
def readItems (fuel : Nat) (cs : List Char) : Reading (List Json) :=
  match fuel with
  | 0 => .broken []
  | fuel + 1 =>
    match readValue fuel cs with
    | ⟨item, none⟩ => .broken item.toList
    | ⟨item, some rest⟩ =>
      match skipSpace rest with
      | ']' :: rest => ⟨item.toList, some rest⟩
      | ',' :: rest =>
        let more := readItems fuel rest
        ⟨item.toList ++ more.value, more.rest⟩
      | _ => .broken item.toList

/-- Reads the fields of an object, from a key to the closing brace. -/
def readFields (fuel : Nat) (cs : List Char) : Reading (List (String × Json)) :=
  match fuel with
  | 0 => .broken []
  | fuel + 1 =>
    match skipSpace cs with
    | '"' :: rest =>
      match readString rest with
      | none => .broken []
      | some (key, rest) =>
        match skipSpace rest with
        | ':' :: rest =>
          let value := readValue fuel rest
          let field := (value.value.map fun v => (String.ofList key, v)).toList
          match value.rest with
          | none => .broken field
          | some rest =>
            match skipSpace rest with
            | '\x7d' :: rest => ⟨field, some rest⟩
            | ',' :: rest =>
              let more := readFields fuel rest
              ⟨field ++ more.value, more.rest⟩
            | _ => .broken field
        | _ => .broken []
    | _ => .broken []

end

/-- Enough steps for every nesting of a text. -/
def readingFuel (cs : List Char) : Nat := 2 * cs.length + 2

/-- Reads a whole text. What is left may be blanks only; anything else is a fault too. -/
def readText (s : String) : Reading (Option Json) :=
  let reading := readValue (readingFuel s.toList) s.toList
  match reading.rest.map skipSpace with
  | some [] => reading
  | _ => .broken reading.value

/-- The value of a text without faults. -/
def read? (s : String) : Option Json :=
  match readText s with
  | ⟨value, some _⟩ => value
  | ⟨_, none⟩ => none

end RecordSchema.Json
