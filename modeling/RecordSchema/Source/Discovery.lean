/-
Discovery: the declarations of a source.

Items are searched in the order of the text and into every module that has its content in the same
text. Each record with named fields is a declaration unless its attributes say otherwise; the first
one whose attributes are invalid ends the search. A record is checked before it is skipped, so a
skipped one cannot hide a misspelled option.

The refusal of a record tells its first fault only, and in words of its own, where an attribute
library may gather all faults of the record into one error. A text that is no source is refused
without the place where reading it failed.
-/
import RecordSchema.Entity.Shape
import RecordSchema.Log.Record
import RecordSchema.Source.Item

set_option autoImplicit false

namespace RecordSchema.Source

/-! ## Refusals and events -/

/-- Why a source has no declarations. -/
inductive DiscoveryError where
  | invalidAttribute (cause : AttributeError)
  | malformedSource
  deriving Repr, DecidableEq

def DiscoveryError.message : DiscoveryError → String
  | .invalidAttribute cause => "invalid flatschema attribute: " ++ cause.message
  | .malformedSource => "cannot parse source: unexpected token"

/-- What is told while declarations are collected. -/
inductive DiscoveryEvent where
  | skipping (record : String)
  | discovered (declarations : Nat)
  deriving Repr, DecidableEq

/-- The log record of an event. -/
def DiscoveryEvent.record : DiscoveryEvent → Log.Record
  | .skipping record =>
    ⟨.debug, "flatschema_build::discover", "skipping struct", [("entity", .plain record)]⟩
  | .discovered declarations =>
    ⟨.debug, "flatschema_build::discover", "discovered declarations",
      [("declarations", .count declarations)]⟩

/-! ## Collecting -/

/-- The tags of fields, up to the first whose attributes are invalid. -/
def RecordField.tags : List RecordField → Except AttributeError (List String)
  | [] => .ok []
  | field :: rest => do
    let tag ← Attribute.tag field.attributes
    let tags ← RecordField.tags rest
    return tag :: tags

/-- The declaration that a record is, or nothing if it is to be skipped. -/
def Record.declaration? (r : Record) : Except AttributeError (Option Declaration) := do
  let skipped ← Attribute.skips r.attributes
  let tags ← RecordField.tags r.fields
  if skipped then
    return none
  else
    return some (.ofParts r.name
      ((r.fields.zip tags).map fun (field, tag) => (field.name, field.typeName, tag)))

/-- Collected declarations, with everything told on the way. -/
structure Collected where
  events : List DiscoveryEvent
  result : Except AttributeError (List Declaration)

/-- The outcome of one record. -/
def Record.collect (r : Record) : Collected :=
  match r.declaration? with
  | .error e => ⟨[], .error e⟩
  | .ok none => ⟨[.skipping r.name], .ok []⟩
  | .ok (some declaration) => ⟨[], .ok [declaration]⟩

mutual

/-- The declarations of an item. -/
def Item.collect : Item → Collected
  | .record r => r.collect
  | .module items => Item.collectAll items
  | .other => ⟨[], .ok []⟩

/-- The declarations of items, up to the first with an invalid attribute. -/
def Item.collectAll : List Item → Collected
  | [] => ⟨[], .ok []⟩
  | item :: rest =>
    let first := item.collect
    match first.result with
    | .error e => ⟨first.events, .error e⟩
    | .ok declarations =>
      let more := Item.collectAll rest
      ⟨first.events ++ more.events, more.result.map (declarations ++ ·)⟩

end

/-! ## A source text -/

/-- The declarations of a source with everything told on the way. -/
structure Discovery where
  events : List DiscoveryEvent
  result : Except DiscoveryError (List Declaration)

/-- The declarations of a source text. -/
def discover (source : String) : Discovery :=
  match Item.parse? source with
  | none => ⟨[], .error .malformedSource⟩
  | some items =>
    let collected := Item.collectAll items
    match collected.result with
    | .error e => ⟨collected.events, .error (.invalidAttribute e)⟩
    | .ok declarations =>
      ⟨collected.events ++ [.discovered declarations.length], .ok declarations⟩

end RecordSchema.Source
