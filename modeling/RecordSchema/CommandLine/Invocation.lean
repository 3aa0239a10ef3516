/-
An invocation of the program.

The configuration is looked for next to the source unless one is named, the arguments are put over
it, and the run is done. A summary of one line goes to the standard output, everything else is
logged. Nothing here reads or prints: what the program does is a function of its arguments, its
surroundings and the disk.
-/
import RecordSchema.CommandLine.Arguments
import RecordSchema.Config
import RecordSchema.Log.Line
import RecordSchema.Run

set_option autoImplicit false

namespace RecordSchema.CommandLine

open Log

/-! ## What is around the program -/

/-- The variables that the program looks at: the source of a run, and a log filter that counts
where the arguments say nothing about the log. -/
structure Surroundings where
  source : Option String
  logFilter : Option String
  deriving Repr, DecidableEq

/-- The log filter of a run. A text that is no filter does not count. -/
def Arguments.filter (a : Arguments) (surroundings : Surroundings) : Filter :=
  let own := Filter.ofThreshold a.threshold
  if a.setsVerbosity then own
  else (surroundings.logFilter.bind Filter.read?).getD own

/-! ## Refusals and events -/

/-- Why an invocation failed. -/
inductive Failure where
  | config (cause : ConfigError)
  | run (cause : RunError)
  deriving Repr, DecidableEq

def Failure.message : Failure → String
  | .config cause => cause.message
  | .run cause => cause.message

/-- What is told during an invocation. -/
inductive InvocationEvent where
  | config (event : ConfigEvent)
  | resolvedOptions (options : Options)
  | run (event : RunEvent)
  deriving Repr, DecidableEq

/-- The log record of an event. -/
def InvocationEvent.record : InvocationEvent → Record
  | .config event => event.record
  | .resolvedOptions options =>
    ⟨.debug, "flatschema", "resolved options", [("options", .plain options.shown)]⟩
  | .run event => event.record

/-! ## A run with its configuration -/

/-- The file that the configuration for some arguments is in, if there is one. -/
def Arguments.configPath (a : Arguments) : Path :=
  a.config.getD (a.source.directory.join Config.fileName)

/-- The configuration for some arguments. -/
def Arguments.loadConfig (a : Arguments) (disk : Disk) : ConfigLoading :=
  match a.config with
  | some path => Config.load disk path
  | none => Config.discover disk a.source.directory

/-- The options of a run: arguments count more than settings. -/
def Arguments.options (a : Arguments) (config : Config) : Options :=
  ⟨a.source, a.modelFile.or config.modelFile, a.nameSpace.or config.nameSpace,
    (a.strategy.or config.strategy).getD .hashed, a.binding.or config.bindingFile⟩

/-- The disk after an invocation, with everything told and the outcome. -/
structure Invocation where
  disk : Disk
  events : List InvocationEvent
  result : Except Failure Generated

/-- What the program does for some arguments. -/
def Arguments.invoke (a : Arguments) (disk : Disk) : Invocation :=
  let loading := a.loadConfig disk
  let told := loading.events.map InvocationEvent.config
  match loading.result with
  | .error e => ⟨disk, told, .error (.config e)⟩
  | .ok config =>
    let options := a.options config
    let run := options.run disk
    ⟨run.disk, told ++ [.resolvedOptions options] ++ run.events.map .run,
      run.result.mapError .run⟩

/-! ## What comes out -/

/-- The line about a run that succeeded. -/
def summary (source : Path) (generated : Generated) : String :=
  let entities := generated.model.entities.length
  let properties := (generated.model.entities.flatMap Entity.properties).length
  let retired := generated.snapshot.entities.length - generated.snapshot.live.length
  source.text ++ ": " ++ toString entities ++ " entities, " ++ toString properties ++
    " properties, " ++ toString retired ++ " retired" ++
    (if generated.written then "" else " (model unchanged)") ++ "\n"

/-- What a run shows: its standard output, the records that its filter lets through and how they
are to be written, and the failure that ended it. -/
structure Report where
  output : String
  log : List Record
  logFormat : LogFormat
  failure : Option Failure
  deriving Repr, DecidableEq

/-- The report of some arguments, and the disk after them. -/
def Arguments.report (a : Arguments) (surroundings : Surroundings) (disk : Disk) : Disk × Report :=
  let invocation := a.invoke disk
  let log := (invocation.events.map InvocationEvent.record).filter (a.filter surroundings).allows
  (invocation.disk,
    match invocation.result with
    | .ok generated =>
      ⟨if a.isSilent then "" else summary a.source generated, log, a.logFormat, none⟩
    | .error e => ⟨"", log, a.logFormat, some e⟩)

/-- The exit status of a failure, of whatever kind. -/
def failureStatus : Nat := 2

/-- The exit status of a report. -/
def Report.status (r : Report) : Nat := if r.failure.isSome then failureStatus else 0

/-- The lines that a report puts on the standard error. -/
def Report.errorLines (r : Report) : List String :=
  r.log.map (fun record =>
    match r.logFormat with
    | .json => record.json.compact
    | _ => record.line) ++
    (r.failure.map fun e => "error: " ++ e.message).toList

/-- The answer to the question for the version. -/
def versionText : String := "flatschema 0.4.0\n"

/-- The answer to the question for help. -/
def helpText : String :=
  "Derive stable entity identifiers and vtable layouts from annotated structs\n\n" ++
  "Usage: flatschema [OPTIONS] --source <FILE>\n\n" ++
  "Options:\n" ++
  "      --source <FILE>           Source file holding the entity structs [env: SOURCE_FILE]\n" ++
  "      --model-file <FILE>       Model file to read and update\n" ++
  "      --namespace <NAME>        Namespace mixed into entity hashes\n" ++
  "      --id-strategy <STRATEGY>  Numeric ID scheme for new entities: hashed or sequential\n" ++
  "      --binding <FILE>          Also write the finalized model as JSON\n" ++
  "      --config <FILE>           Config file to use instead of flatschema.toml\n" ++
  "  -v, --verbose...              Increase logging verbosity\n" ++
  "  -q, --quiet...                Decrease logging verbosity\n" ++
  "      --log-format <FORMAT>     Log output format: pretty, compact or json\n" ++
  "  -h, --help                    Print help\n" ++
  "  -V, --version                 Print version\n"

/-- What comes out of the program. -/
inductive Response where
  | text (output : String)
  | usageError (cause : UsageError)
  | report (report : Report)

/-- The program: what its arguments make of a disk, and what comes out. -/
def respond (arguments : List String) (surroundings : Surroundings) (disk : Disk) :
    Disk × Response :=
  match Request.ofArguments surroundings.source arguments with
  | .error e => (disk, .usageError e)
  | .ok .version => (disk, .text versionText)
  | .ok .help => (disk, .text helpText)
  | .ok (.run a) =>
    let (disk, report) := a.report surroundings disk
    (disk, .report report)

end RecordSchema.CommandLine
