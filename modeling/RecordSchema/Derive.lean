/-
Deriving a model.

The previous snapshot is checked, every declaration is built, then every entity is identified, and
last the entities that are no longer declared are retired. Any refusal ends the run, and then
neither a model nor a snapshot comes out.
-/
import RecordSchema.Assigner
import RecordSchema.Entity.Build

set_option autoImplicit false

namespace RecordSchema

/-- The settings of a run: how new entities are numbered, and the unit that is declared. -/
structure DeriveOptions where
  strategy : IdStrategy
  source : Option String
  deriving Repr, DecidableEq

/-- A run with everything it told. -/
structure Derivation where
  events : List SchemaEvent
  result : Except SchemaError (Model × Snapshot)

/-- Derives the model of some declarations against the previous snapshot, and the merged
snapshot. -/
def deriveModel (nameSpace : String) (declarations : List Declaration) (previous : Snapshot)
    (options : DeriveOptions) : Derivation :=
  match previous.validate with
  | .error e => ⟨[], .error (.snapshot e)⟩
  | .ok () =>
    let built := Declaration.buildAllEvents declarations
    match Declaration.buildAll declarations with
    | .error e => ⟨built, .error e⟩
    | .ok shapes =>
      let assigned :=
        (Assigner.start previous nameSpace options.strategy options.source).assignAll shapes
      match assigned.result with
      | .error e => ⟨built ++ assigned.events, .error e⟩
      | .ok entities =>
        let (retired, merged) := assigned.state.finish
        ⟨built ++ assigned.events ++ [.derivedModel nameSpace entities.length] ++ retired,
          .ok (⟨nameSpace, entities⟩, merged)⟩

end RecordSchema
