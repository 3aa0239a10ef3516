/-
Log filters.

A filter is a list of directives. A directive sets how serious a record must be, for all records or
for those of a part of the program, which is named by the start of its target. It may also ask that
a record has a certain field. Of the directives that a record meets the most specific one decides;
a record that meets none is not logged.

A directive may name a span, or a value of a field, to which it is limited. The program opens no
spans and such a directive lets no record through.
-/
import RecordSchema.Log.Record
import RecordSchema.Text.Blank
import RecordSchema.Text.Decimal
import RecordSchema.Text.Identifier
import RecordSchema.Text.LowerCase
import RecordSchema.Text.Pieces

set_option autoImplicit false

namespace RecordSchema.Log

open Text

/-! ## Thresholds -/

/-- The least serious level that passes. Nothing passes where there is none. -/
abbrev Threshold := Option Level

/-- Whether a level passes. -/
def Threshold.passes (threshold : Threshold) (level : Level) : Bool :=
  threshold.any fun least => level.verbosity ≤ least.verbosity

/-- The threshold of a number, from nothing to everything. -/
def Threshold.ofNumber (n : Nat) : Threshold := Level.all.find? (·.verbosity = n)

/-- The threshold that a text names, by a number or by a word in any ASCII case. -/
def Threshold.read? (cs : List Char) : Option Threshold :=
  match Decimal.read? UInt64.size cs with
  | some n => if n ≤ Level.trace.verbosity then some (.ofNumber n) else none
  | none =>
    if lowerAscii cs = "off".toList then some none
    else (Level.all.find? fun level => lowerAscii level.name.toList = lowerAscii cs).map some

/-! ## Directives -/

/-- A field that a directive asks for, perhaps with a value. -/
structure FieldDemand where
  name : String
  hasValue : Bool
  deriving Repr, DecidableEq

/-- One directive. -/
structure Directive where
  target : Option String
  span : Option String
  field : Option FieldDemand
  threshold : Threshold
  deriving Repr, DecidableEq

namespace Directive

/-- The directive that lets everything through. -/
def everything : Directive := ⟨none, none, none, some .trace⟩

/-- Whether a directive is about records at all. -/
def concernsRecords (d : Directive) : Bool := d.span.isNone && !d.field.any (·.hasValue)

/-- Whether a record meets a directive. The message of a record is a field too. -/
def meets (d : Directive) (r : Record) : Bool :=
  d.target.all (fun target => target.toList.isPrefixOf r.target.toList) &&
    d.field.all fun field => field.name == "message" || r.fields.any (·.1 == field.name)

/-- How specific a directive is: by the length of its target, then by whether it asks for a field.
The name of that field only keeps the order total. -/
def rank (d : Directive) : Nat × Nat × String :=
  (d.target.elim 0 fun target => target.utf8ByteSize + 1, d.field.elim 0 fun _ => 1,
    d.field.elim "" (·.name))

/-- Whether a directive is at least as specific as another. -/
def isAtLeast (d other : Directive) : Bool :=
  let (size, fields, name) := d.rank
  let (otherSize, otherFields, otherName) := other.rank
  otherSize < size || (otherSize == size &&
    (otherFields < fields || (otherFields == fields && !decide (name < otherName))))

/-! ## Reading directives -/

/-- Where the reader of a directive is, with what it has of the part it reads. -/
inductive ReadState where
  | start
  /-- In a level or a target; its end will tell. -/
  | word (part : List Char)
  | span (part : List Char)
  | field (part : List Char)
  | fieldEnd
  | spanEnd
  | level (part : List Char)

/-- A character that a directive may begin with, apart from a bracket. -/
def isWordStart (c : Char) : Bool :=
  c.isAlphanum || c == '-' || c == ':' || c == '_' || (128 ≤ c.toNat && isNameRest c)

/-- The demand that a text makes: the name of a field, or a field and a value. -/
def demand (part : List Char) : FieldDemand :=
  ⟨String.ofList (part.takeWhile (· ≠ '=')), part.contains '='⟩

/-- One step: `c` decides what happens, `shown` is what a part is made of. -/
def step (d : Directive) (state : ReadState) (c shown : Char) : Option (Directive × ReadState) :=
  match state with
  | .start =>
    if c = '[' then some (d, .span [])
    else if isWordStart c then some (d, .word [shown])
    else none
  | .word part =>
    if c = '=' then some ({ d with target := String.ofList part }, .level [])
    else if c = '[' then some ({ d with target := String.ofList part }, .span [])
    else some (d, .word (part ++ [shown]))
  | .span part =>
    if c = ']' then some ({ d with span := String.ofList part }, .spanEnd)
    else if c = '\x7b' then
      some ({ d with span := if part = [] then none else some (String.ofList part) }, .field [])
    else some (d, .span (part ++ [shown]))
  | .field part =>
    if c = '\x7d' then
      if part = [] then none else some ({ d with field := demand part }, .fieldEnd)
    else some (d, .field (part ++ [shown]))
  | .fieldEnd => if c = ']' then some (d, .spanEnd) else none
  | .spanEnd => if c = '=' then some (d, .level []) else none
  | .level part => some (d, .level (part ++ [shown]))

/-- The end of a directive. A level without a text is the one that lets everything through. -/
def finish (d : Directive) (state : ReadState) (tail : List Char) : Option Directive :=
  match state with
  | .word part =>
    match Threshold.read? (part ++ tail) with
    | some threshold => some { d with threshold }
    | none => some { d with target := String.ofList (part ++ tail) }
  | .level part =>
    if part ++ tail = [] then some d
    else (Threshold.read? (part ++ tail)).map fun threshold => { d with threshold }
  | .spanEnd => some d
  | _ => none

/-- Runs the reader over characters and what they are shown as. -/
def readFrom (d : Directive) (state : ReadState) (tail : List Char) :
    List (Char × Char) → Option Directive
  | [] => d.finish state tail
  | (c, shown) :: rest =>
    match d.step state c shown with
    | some (d, state) => d.readFrom state tail rest
    | none => none

/-- The directive of a text. The blanks around it do not decide anything, but the parts are taken
from the text as it stands, each from the same distance to its start. -/
def read? (cs : List Char) : Option Directive :=
  let body := trim cs
  everything.readFrom .start (cs.drop body.length) (body.zip cs)

end Directive

/-! ## Filters -/

/-- A list of directives. Of two that are equally specific the later one counts. -/
abbrev Filter := List Directive

namespace Filter

/-- The directive that decides about a record. -/
def decisive? (filter : Filter) (r : Record) : Option Directive :=
  (filter.filter fun d => d.concernsRecords && d.meets r).foldl (fun best d =>
    if best.all d.isAtLeast then some d else best) none

/-- Whether a record is logged. -/
def allows (filter : Filter) (r : Record) : Bool :=
  (filter.decisive? r).any fun d => d.threshold.passes r.level

/-- The filter of a text: directives with commas between them. A text without any lets errors
through. -/
def read? (s : String) : Option Filter := do
  let directives ← ((pieces ',' s.toList).filter (· ≠ [])).mapM Directive.read?
  if directives.isEmpty then
    return [{ Directive.everything with threshold := some .error }]
  else
    return directives

/-- The parts of the program. -/
def programTargets : List String :=
  ["flatschema", "flatschema_build", "flatschema_schema", "flatschema_config_build"]

/-- The filter with a threshold for the program itself; of anything else warnings pass. -/
def ofThreshold (threshold : Threshold) : Filter :=
  { Directive.everything with threshold := some .warn } ::
    programTargets.map fun target =>
      { Directive.everything with target := some target, threshold }

end Filter

end RecordSchema.Log
