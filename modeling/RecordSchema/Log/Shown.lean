/-
Values as they are shown in a log.

A record of the program is shown with its name and its fields between braces, an optional value with
a word that says whether it is there, a text between quotes.
-/
import RecordSchema.File.Path
import RecordSchema.Identity
import RecordSchema.Text.Quoted

set_option autoImplicit false

namespace RecordSchema

namespace Log

/-- A record with its fields, which are shown already. -/
def shownRecord (name : String) (fields : List (String × String)) : String :=
  name ++ " \x7b " ++ ", ".intercalate (fields.map fun field => field.1 ++ ": " ++ field.2) ++
    " \x7d"

/-- A value that may be missing. -/
def shownOption : Option String → String
  | some value => "Some(" ++ value ++ ")"
  | none => "None"

end Log

/-- A path between quotes. -/
def Path.shown (p : Path) : String := Text.QuoteStyle.path.quote p.text

/-- The name of a strategy as a value of the program. -/
def IdStrategy.shown : IdStrategy → String
  | .hashed => "Hashed"
  | .sequential => "Sequential"

end RecordSchema
