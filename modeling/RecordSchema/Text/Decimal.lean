/-
Decimal numerals.

Identifiers are written in decimal and read back leniently: leading zeros and one plus sign are
allowed, anything else is refused, and so is a value that does not fit the word it is meant for.
-/

set_option autoImplicit false

namespace RecordSchema.Text.Decimal

/-- The decimal digits of a number, without leading zeros. -/
def render (n : Nat) : List Char := Nat.toDigits 10 n

/-- The value of a non-empty run of digits. -/
def digits? (cs : List Char) : Option Nat :=
  if cs ≠ [] ∧ cs.all Char.isDigit then some (Nat.ofDigitChars 10 cs 0) else none

/-- The numeral without its plus sign, if it has one. -/
def unsigned : List Char → List Char
  | '+' :: cs => cs
  | cs => cs

/-- The value of a numeral below `limit`, with at most one leading plus sign. -/
def read? (limit : Nat) (cs : List Char) : Option Nat :=
  (digits? (unsigned cs)).filter (· < limit)

end RecordSchema.Text.Decimal
