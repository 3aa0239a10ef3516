/-
Log records.

An event of the program is logged as a record: how serious it is, which part of the program it comes
from, a fixed message, and named values. A value that is shown as plain text differs from one that
is shown between quotes only in the text form of a line; a count stays a number.
-/

set_option autoImplicit false

namespace RecordSchema.Log

/-- How serious a record is, the most serious first. -/
inductive Level where
  | error
  | warn
  | info
  | debug
  | trace
  deriving Repr, DecidableEq

def Level.all : List Level := [.error, .warn, .info, .debug, .trace]

/-- The name in a log line. -/
def Level.name : Level → String
  | .error => "ERROR"
  | .warn => "WARN"
  | .info => "INFO"
  | .debug => "DEBUG"
  | .trace => "TRACE"

/-- How much a level lets through: the higher, the more. -/
def Level.verbosity : Level → Nat
  | .error => 1
  | .warn => 2
  | .info => 3
  | .debug => 4
  | .trace => 5

/-- A value of a record. -/
inductive FieldValue where
  | plain (text : String)
  | quoted (text : String)
  | count (n : Nat)
  deriving Repr, DecidableEq

/-- The value as plain text. -/
def FieldValue.text : FieldValue → String
  | .plain text => text
  | .quoted text => text
  | .count n => toString n

/-- One record. `target` is the path of the part of the program it comes from. -/
structure Record where
  level : Level
  target : String
  message : String
  fields : List (String × FieldValue)
  deriving Repr, DecidableEq

end RecordSchema.Log
