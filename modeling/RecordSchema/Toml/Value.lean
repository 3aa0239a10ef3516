/-
TOML values.

A settings file is a tree of tables. A table remembers how it came to be, because that decides what
later lines may still do to it: a table that was only implied by the header of a table inside it may
get a header of its own, one that was written out between braces is closed for good.

Numbers, truth values, dates and lists of tables belong to the format too. No setting has such a
value, so they have none here, and a text with one is refused as a whole.
-/

set_option autoImplicit false

namespace RecordSchema

/-- How a table came to be. -/
inductive TableOrigin where
  /-- By a header of its own. -/
  | header
  /-- As a step of a key with dots. -/
  | dotted
  /-- As a step of the header of a table inside it. -/
  | implied
  /-- Written out between braces. -/
  | closed
  deriving Repr, DecidableEq

/-- A value of a settings file. -/
inductive Toml where
  | text (s : String)
  | list (items : List Toml)
  | table (origin : TableOrigin) (fields : List (String × Toml))
  deriving Repr, Inhabited

namespace Toml

/-- The fields of a table. -/
abbrev Fields := List (String × Toml)

/-- The fields with a new value for a key that is there. -/
def Fields.replace (fields : Fields) (key : String) (value : Toml) : Fields :=
  fields.map fun field => if field.1 = key then (key, value) else field

/-- The fields with a value at a key with dots. A key gets a value once, and a table that has a
header is not continued by a key with dots. -/
def Fields.put (value : Toml) : List String → Fields → Option Fields
  | [], _ => none
  | [key], fields => if (fields.lookup key).isSome then none else some (fields ++ [(key, value)])
  | key :: rest, fields =>
    match fields.lookup key with
    | none => do
      let inner ← Fields.put value rest []
      return fields ++ [(key, .table .dotted inner)]
    | some (.table origin inner) =>
      if origin = .dotted ∨ origin = .implied then do
        let inner ← Fields.put value rest inner
        return fields.replace key (.table origin inner)
      else none
    | some _ => none

/-- The fields with a table for a header. A table has one header, and only a table that was implied
may have been there before it. -/
def Fields.addHeader : List String → Fields → Option Fields
  | [], _ => none
  | [key], fields =>
    match fields.lookup key with
    | none => some (fields ++ [(key, .table .header [])])
    | some (.table .implied inner) => some (fields.replace key (.table .header inner))
    | some _ => none
  | key :: rest, fields =>
    match fields.lookup key with
    | none => do
      let inner ← Fields.addHeader rest []
      return fields ++ [(key, .table .implied inner)]
    | some (.table origin inner) =>
      if origin = .closed then none
      else do
        let inner ← Fields.addHeader rest inner
        return fields.replace key (.table origin inner)
    | some _ => none

/-- The fields with the table of a header changed. -/
def Fields.within (change : Fields → Option Fields) : List String → Fields → Option Fields
  | [], fields => change fields
  | key :: rest, fields =>
    match fields.lookup key with
    | some (.table origin inner) => do
      let inner ← Fields.within change rest inner
      return fields.replace key (.table origin inner)
    | _ => none

end Toml

end RecordSchema
