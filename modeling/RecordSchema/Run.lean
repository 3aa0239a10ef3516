/-
A run: from a source file to the model file and the binding file.

Everything that can be refused by the input is done before the disk is touched. Then both texts are
staged, so that a file that cannot be written is found out before any is replaced, and last each is
put in its place.
-/
import RecordSchema.Binding
import RecordSchema.Derive
import RecordSchema.Log.Shown
import RecordSchema.Source.Discovery
import RecordSchema.Store

set_option autoImplicit false

namespace RecordSchema

/-! ## Options -/

/-- What a run works on. Without a model file of its own it uses one next to the source; without a
name space it takes the name of the source. -/
structure Options where
  sourceFile : Path
  modelFile : Option Path
  nameSpace : Option String
  strategy : IdStrategy
  bindingFile : Option Path
  deriving Repr, DecidableEq

namespace Options

/-- The name of the model file next to a source. -/
def defaultModelFile : Path := ⟨"flatschema-model.json"⟩

/-- The model file of a run. -/
def modelPath (options : Options) : Path :=
  options.modelFile.getD (options.sourceFile.parent.join defaultModelFile)

/-- The name space of a run. -/
def effectiveNameSpace (options : Options) : String :=
  options.nameSpace.getD (options.sourceFile.fileStem?.getD "")

/-- The unit that a run declares: the name of the source, wherever it lies. -/
def sourceUnit (options : Options) : Option String := options.sourceFile.fileName?

/-- The files of a run. -/
def paths (options : Options) : List Path :=
  [options.sourceFile, options.modelPath] ++ options.bindingFile.toList

/-- How options are shown in a log. -/
def shown (options : Options) : String :=
  Log.shownRecord "Options"
    [("source_file", options.sourceFile.shown),
      ("model_file", Log.shownOption (options.modelFile.map Path.shown)),
      ("namespace", Log.shownOption (options.nameSpace.map Text.QuoteStyle.text.quote)),
      ("id_strategy", options.strategy.shown),
      ("binding_file", Log.shownOption (options.bindingFile.map Path.shown))]

end Options

/-! ## Refusals and events -/

/-- Why a run failed. -/
inductive RunError where
  | source (path : Path) (cause : FileError)
  | discovery (path : Path) (cause : Source.DiscoveryError)
  | schema (cause : SchemaError)
  | store (cause : StoreError)
  deriving Repr, DecidableEq

def RunError.message : RunError → String
  | .source path cause => path.text ++ ": " ++ cause.message
  | .discovery path cause => path.text ++ ": " ++ cause.message
  | .schema cause => cause.message
  | .store cause => cause.message

/-- What is told during a run. -/
inductive RunEvent where
  | processing (source model : Path) (nameSpace : String)
  | discovery (event : Source.DiscoveryEvent)
  | store (event : StoreEvent)
  | schema (event : SchemaEvent)
  | wroteModel (path : Path) (entities : Nat)
  | modelUnchanged (path : Path)
  | wroteBinding (path : Path)
  deriving Repr, DecidableEq

/-- The log record of an event. -/
def RunEvent.record : RunEvent → Log.Record
  | .processing source model nameSpace =>
    ⟨.info, "flatschema_build", "processing",
      [("source", .plain source.text), ("model", .plain model.text),
        ("namespace", .plain nameSpace)]⟩
  | .discovery event => event.record
  | .store event => event.record
  | .schema event => event.record
  | .wroteModel path entities =>
    ⟨.info, "flatschema_build", "wrote model file",
      [("path", .plain path.text), ("entities", .count entities)]⟩
  | .modelUnchanged path =>
    ⟨.debug, "flatschema_build", "model file unchanged", [("path", .plain path.text)]⟩
  | .wroteBinding path =>
    ⟨.info, "flatschema_build", "wrote binding", [("path", .plain path.text)]⟩

/-! ## What a run finds out -/

/-- A model with its merged snapshot, and whether that goes into the model file: a snapshot that
did not change is written only where there is no file yet. -/
structure Generated where
  model : Model
  binding : Binding
  snapshot : Snapshot
  written : Bool
  deriving Repr, DecidableEq

/-- What is to be generated, with everything told on the way. -/
structure Preparation where
  events : List RunEvent
  result : Except RunError Generated

/-- Some events before those of a preparation. -/
def Preparation.after (events : List RunEvent) (p : Preparation) : Preparation :=
  ⟨events ++ p.events, p.result⟩

namespace Options

/-- Derives the model of declarations and decides what is to be written. -/
def derive (options : Options) (disk : Disk) (declarations : List Declaration)
    (previous : Snapshot) : Preparation :=
  let derivation := deriveModel options.effectiveNameSpace declarations previous
    ⟨options.strategy, options.sourceUnit⟩
  let result := match derivation.result with
    | .error e => .error (.schema e)
    | .ok (model, snapshot) =>
      .ok ⟨model, Binding.ofModel model options.sourceUnit, snapshot,
        snapshot != previous || !disk.contains options.modelPath⟩
  ⟨derivation.events.map .schema, result⟩

/-- Everything a run does before it writes. -/
def prepare (options : Options) (disk : Disk) : Preparation :=
  let start := [.processing options.sourceFile options.modelPath options.effectiveNameSpace]
  Preparation.after start <|
    match disk.readText options.sourceFile with
    | .error e => ⟨[], .error (.source options.sourceFile e)⟩
    | .ok text =>
      let discovery := Source.discover text
      Preparation.after (discovery.events.map .discovery) <|
        match discovery.result with
        | .error e => ⟨[], .error (.discovery options.sourceFile e)⟩
        | .ok declarations =>
          let loading := Snapshot.load disk options.modelPath
          Preparation.after (loading.events.map .store) <|
            match loading.result with
            | .error e => ⟨[], .error (.store e)⟩
            | .ok previous => options.derive disk declarations previous

end Options

/-! ## What a run leaves behind -/

/-- The disk after a run, with everything told and the outcome. -/
structure Run where
  disk : Disk
  events : List RunEvent
  result : Except RunError Generated

namespace Disk

/-- Stages a text where there is one to write. -/
def stageOptional (disk : Disk) (output : Option (Path × String)) :
    Except StoreError (Disk × Option Staged) :=
  match output with
  | none => .ok (disk, none)
  | some (path, s) => do
    let (disk, file) ← disk.stageText path s
    return (disk, some file)

/-- Gives up a staged text where there is one. -/
def discardOptional (disk : Disk) (file : Option Staged) : Disk :=
  file.elim disk disk.discard

/-- Puts a staged text in its place where there is one. -/
def commitOptional (disk : Disk) (file : Option Staged) : Disk × Except StoreError Unit :=
  match file with
  | none => (disk, .ok ())
  | some file => disk.commitText file

end Disk

namespace Options

/-- The text of the model file, if it is to be written. -/
def modelOutput (options : Options) (generated : Generated) : Option (Path × String) :=
  if generated.written then some (options.modelPath, generated.snapshot.fileText) else none

/-- The text of the binding file, if one was asked for. -/
def bindingOutput (options : Options) (generated : Generated) : Option (Path × String) :=
  options.bindingFile.map fun path => (path, generated.binding.fileText)

/-- What is told when the model file is done with. -/
def modelEvent (options : Options) (generated : Generated) : RunEvent :=
  if generated.written then
    .wroteModel options.modelPath generated.snapshot.entities.length
  else .modelUnchanged options.modelPath

/-- Stages both files and then puts both in their places. A file that was staged is given up when
the run ends before its turn. -/
def publish (options : Options) (disk : Disk) (generated : Generated) : Run :=
  match disk.stageOptional (options.modelOutput generated) with
  | .error e => ⟨disk, [], .error (.store e)⟩
  | .ok (disk, model) =>
    match disk.stageOptional (options.bindingOutput generated) with
    | .error e => ⟨disk.discardOptional model, [], .error (.store e)⟩
    | .ok (disk, binding) =>
      match disk.commitOptional model with
      | (disk, .error e) => ⟨disk.discardOptional binding, [], .error (.store e)⟩
      | (disk, .ok ()) =>
        match disk.commitOptional binding with
        | (disk, .error e) => ⟨disk, [options.modelEvent generated], .error (.store e)⟩
        | (disk, .ok ()) =>
          ⟨disk,
            options.modelEvent generated :: (options.bindingFile.map .wroteBinding).toList,
            .ok generated⟩

/-- A run on a disk. -/
def run (options : Options) (disk : Disk) : Run :=
  let preparation := options.prepare disk
  match preparation.result with
  | .error e => ⟨disk, preparation.events, .error e⟩
  | .ok generated =>
    let published := options.publish disk generated
    { published with events := preparation.events ++ published.events }

end Options

end RecordSchema
