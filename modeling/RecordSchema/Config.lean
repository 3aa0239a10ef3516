/-
The configuration file.

Four settings, all optional, in a TOML file that by default stands next to the source. A setting
that is not known, or that has a value of the wrong form, makes the whole file invalid: a misspelled
name must not go unnoticed. Paths in the file start from the directory that holds it, so that a
configuration means the same from every working directory.
-/
import RecordSchema.File.Disk
import RecordSchema.Log.Record
import RecordSchema.Log.Shown
import RecordSchema.Toml.Reader

set_option autoImplicit false

namespace RecordSchema

/-! ## Settings -/

/-- The settings of a configuration file. -/
structure Config where
  nameSpace : Option String
  modelFile : Option Path
  strategy : Option IdStrategy
  bindingFile : Option Path
  deriving Repr, DecidableEq

namespace Config

/-- The configuration without a setting. -/
def empty : Config := ⟨none, none, none, none⟩

/-- How a configuration is shown in a log. -/
def shown (config : Config) : String :=
  Log.shownRecord "Config"
    [("namespace", Log.shownOption (config.nameSpace.map Text.QuoteStyle.text.quote)),
      ("model_file", Log.shownOption (config.modelFile.map Path.shown)),
      ("id_strategy", Log.shownOption (config.strategy.map IdStrategy.shown)),
      ("binding_file", Log.shownOption (config.bindingFile.map Path.shown))]

/-! ## Reading a text -/

/-- A setting that is a text. -/
def text? : Toml → Option String
  | .text s => some s
  | _ => none

/-- A setting that is a strategy: its name, or a table with nothing but an empty value under it. -/
def strategy? : Toml → Option IdStrategy
  | .text s => IdStrategy.ofName? s
  | .table _ [(name, .table _ [])] => IdStrategy.ofName? name
  | .table _ [(name, .list [])] => IdStrategy.ofName? name
  | _ => none

/-- Adds a setting to a configuration. -/
def put (base : Path) (config : Config) (field : String × Toml) : Option Config :=
  match field.1 with
  | "namespace" => do return { config with nameSpace := ← text? field.2 }
  | "model_file" => do return { config with modelFile := base.join ⟨← text? field.2⟩ }
  | "id_strategy" => do return { config with strategy := ← strategy? field.2 }
  | "binding_file" => do return { config with bindingFile := base.join ⟨← text? field.2⟩ }
  | _ => none

/-- The configuration of a text, with paths that start from `base`. -/
def parse? (s : String) (base : Path) : Option Config := do
  (← Toml.read? s).foldlM (put base) empty

end Config

/-! ## Reading a file -/

/-- Why there is no configuration. -/
inductive ConfigError where
  | invalid (path : Path)
  | unreadable (path : Path) (cause : FileError)
  deriving Repr, DecidableEq

def ConfigError.message : ConfigError → String
  | .invalid path => "invalid config " ++ path.text ++ ": not a table of known settings"
  | .unreadable path cause => "cannot read config " ++ path.text ++ ": " ++ cause.message

/-- What is told while a configuration is looked for. -/
inductive ConfigEvent where
  | loaded (path : Path) (config : Config)
  | absent (path : Path)
  deriving Repr, DecidableEq

/-- The log record of an event. -/
def ConfigEvent.record : ConfigEvent → Log.Record
  | .loaded path config =>
    ⟨.debug, "flatschema_config_build", "loaded config",
      [("path", .plain path.text), ("config", .plain config.shown)]⟩
  | .absent path =>
    ⟨.debug, "flatschema_config_build", "no config file, using defaults",
      [("path", .plain path.text)]⟩

/-- A configuration with everything told on the way. -/
structure ConfigLoading where
  events : List ConfigEvent
  result : Except ConfigError Config

namespace Config

/-- The name of the file that is looked for. -/
def fileName : Path := ⟨"flatschema.toml"⟩

/-- The configuration in a file. -/
def load (disk : Disk) (path : Path) : ConfigLoading :=
  match disk.readText path with
  | .error e => ⟨[], .error (.unreadable path e)⟩
  | .ok s =>
    match parse? s path.parent with
    | none => ⟨[], .error (.invalid path)⟩
    | some config => ⟨[.loaded path config], .ok config⟩

/-- The configuration in a directory. A directory without the file has no settings. -/
def discover (disk : Disk) (directory : Path) : ConfigLoading :=
  let path := directory.join fileName
  match load disk path with
  | ⟨_, .error (.unreadable _ .notFound)⟩ => ⟨[.absent path], .ok empty⟩
  | loading => loading

end Config

end RecordSchema
