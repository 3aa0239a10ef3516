/-
Log lines.

A record is written as a line of text or as a line of JSON. The text has the level in five columns,
the message, and the fields; the JSON has the same without any quoting of its own, because a text
value needs no more than the quotes of JSON.
-/
import RecordSchema.Json.Printer
import RecordSchema.Log.Record
import RecordSchema.Text.Quoted

set_option autoImplicit false

namespace RecordSchema.Log

/-- A value in a line of text. -/
def FieldValue.shown : FieldValue → String
  | .plain text => text
  | .quoted text => Text.QuoteStyle.text.quote text
  | .count n => toString n

/-- A value in a line of JSON. -/
def FieldValue.json : FieldValue → Json
  | .plain text => .text text
  | .quoted text => .text text
  | .count n => .natural n

/-- The width that level names are put into. -/
def levelWidth : Nat := 5

/-- The name of a level, at the right of its column. -/
def Level.column (level : Level) : String :=
  "".pushn ' ' (levelWidth - level.name.length) ++ level.name

/-- The line of text of a record. -/
def Record.line (r : Record) : String :=
  r.level.column ++ " " ++ r.message ++
    String.join (r.fields.map fun field => " " ++ field.1 ++ "=" ++ field.2.shown)

/-- The line of JSON of a record, as a value. -/
def Record.json (r : Record) : Json :=
  .object [("level", .text r.level.name),
    ("fields", .object (("message", .text r.message) ::
      r.fields.map fun field => (field.1, field.2.json)))]

end RecordSchema.Log
