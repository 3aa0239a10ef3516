/-
Blanks: the characters that separate words of a tag.

A tag is split at every character with the property White_Space, not at spaces alone, so the
property is written out here. `trim` and `word` are the two uses the tag reader makes of it.
-/
import RecordSchema.Text.Runs

set_option autoImplicit false

namespace RecordSchema.Text

/-- The 25 code points with the property White_Space. -/
def blankRuns : Runs :=
  [(0x9, 0xD), (0x20, 0x20), (0x85, 0x85), (0xA0, 0xA0), (0x1680, 0x1680), (0x2000, 0x200A),
    (0x2028, 0x2029), (0x202F, 0x202F), (0x205F, 0x205F), (0x3000, 0x3000)]

/-- Whether a character is a blank. -/
def isBlank (c : Char) : Bool := blankRuns.has c

/-- A text without the blanks at its end. -/
def trimEnd (cs : List Char) : List Char := (cs.reverse.dropWhile isBlank).reverse

/-- A text without the blanks at either end; those inside stay. -/
def trim (cs : List Char) : List Char := trimEnd (cs.dropWhile isBlank)

/-- The first word of a text: everything before its first blank. -/
def word (cs : List Char) : List Char := cs.takeWhile fun c => !isBlank c

end RecordSchema.Text
