/-
The arguments of the command line.

Options with a value take it behind an equals sign or as the next argument, which then may not look
like an option itself. Switches may be put together behind one dash. Arguments are taken one after
the other and the first thing wrong with them ends the reading; so does a question for the version
or for help, if nothing was wrong before it.
-/
import RecordSchema.File.Path
import RecordSchema.Identity
import RecordSchema.Log.Filter

set_option autoImplicit false

namespace RecordSchema.CommandLine

open Log

/-! ## Options and switches -/

/-- How log lines are written. The first two differ only on a terminal. -/
inductive LogFormat where
  | pretty
  | compact
  | json
  deriving Repr, DecidableEq

def LogFormat.all : List LogFormat := [.pretty, .compact, .json]

def LogFormat.name : LogFormat → String
  | .pretty => "pretty"
  | .compact => "compact"
  | .json => "json"

/-- The options with a value. -/
inductive ValueOption where
  | source
  | modelFile
  | nameSpace
  | strategy
  | binding
  | config
  | logFormat
  deriving Repr, DecidableEq

def ValueOption.all : List ValueOption :=
  [.source, .modelFile, .nameSpace, .strategy, .binding, .config, .logFormat]

/-- The names of an option, behind two dashes. -/
def ValueOption.names : ValueOption → List String
  | .source => ["source"]
  | .modelFile => ["model-file", "persist"]
  | .nameSpace => ["namespace"]
  | .strategy => ["id-strategy"]
  | .binding => ["binding"]
  | .config => ["config"]
  | .logFormat => ["log-format"]

/-- The option in a message. -/
def ValueOption.text (option : ValueOption) : String :=
  "'--" ++ option.names.headD "" ++ "'"

def ValueOption.ofName? (name : String) : Option ValueOption :=
  all.find? fun option => option.names.contains name

/-- The options without a value. -/
inductive Switch where
  | verbose
  | quiet
  | version
  | help
  deriving Repr, DecidableEq

def Switch.all : List Switch := [.verbose, .quiet, .version, .help]

/-- The name of a switch, behind two dashes. -/
def Switch.name : Switch → String
  | .verbose => "verbose"
  | .quiet => "quiet"
  | .version => "version"
  | .help => "help"

/-- The letter of a switch, behind one dash. -/
def Switch.letter : Switch → Char
  | .verbose => 'v'
  | .quiet => 'q'
  | .version => 'V'
  | .help => 'h'

/-! ## What arguments ask for -/

/-- The arguments of a run. -/
structure Arguments where
  source : Path
  modelFile : Option Path
  nameSpace : Option String
  strategy : Option IdStrategy
  binding : Option Path
  config : Option Path
  verbose : Nat
  quiet : Nat
  logFormat : LogFormat
  deriving Repr, DecidableEq

namespace Arguments

/-- Whether the arguments say anything about the log. -/
def setsVerbosity (a : Arguments) : Bool := a.verbose != 0 || a.quiet != 0

/-- What the program logs: warnings, one level more for each `v`, one less for each `q`. -/
def threshold (a : Arguments) : Threshold :=
  .ofNumber (min (Level.warn.verbosity + a.verbose) Level.trace.verbosity - a.quiet)

/-- Whether nothing is to be told, not even the summary. -/
def isSilent (a : Arguments) : Bool := a.threshold.isNone

end Arguments

/-- What is asked of the program. -/
inductive Request where
  | run (arguments : Arguments)
  | version
  | help
  deriving Repr, DecidableEq

/-- What is wrong with arguments. -/
inductive UsageError where
  | unknown (argument : String)
  | missingValue (option : ValueOption)
  | repeated (option : ValueOption)
  | invalidValue (option : ValueOption) (value : String)
  | needlessValue (switch : Switch)
  | verboseAndQuiet
  | missingSource
  deriving Repr, DecidableEq

def UsageError.message : UsageError → String
  | .unknown argument => "unexpected argument '" ++ argument ++ "' found"
  | .missingValue option => "a value is required for " ++ option.text
  | .repeated option => option.text ++ " cannot be used multiple times"
  | .invalidValue option value => "invalid value '" ++ value ++ "' for " ++ option.text
  | .needlessValue switch => "unexpected value for '--" ++ switch.name ++ "' found"
  | .verboseAndQuiet => "'--verbose' cannot be used with '--quiet'"
  | .missingSource => ValueOption.source.text ++ " is missing"

/-! ## Single arguments -/

/-- What an argument looks like. -/
inductive Shape where
  /-- The two dashes behind which nothing is an option. -/
  | separator
  | long (name : String) (value : Option String)
  | letters (letters : List Char)
  | value
  deriving Repr, DecidableEq

/-- The shape of an argument. A dash alone is a value. -/
def shape (argument : String) : Shape :=
  match argument.toList with
  | ['-', '-'] => .separator
  | '-' :: '-' :: rest =>
    match rest.dropWhile (· ≠ '=') with
    | _ :: value => .long (String.ofList (rest.takeWhile (· ≠ '='))) (String.ofList value)
    | [] => .long (String.ofList rest) none
  | '-' :: c :: rest => .letters (c :: rest)
  | _ => .value

/-! ## Collecting -/

/-- The arguments of which some have been read. -/
structure Draft where
  source : Option Path
  modelFile : Option Path
  nameSpace : Option String
  strategy : Option IdStrategy
  binding : Option Path
  config : Option Path
  logFormat : Option LogFormat
  verbose : Nat
  quiet : Nat
  deriving Repr, DecidableEq

namespace Draft

def empty : Draft := ⟨none, none, none, none, none, none, none, 0, 0⟩

/-- Fills the place of an option, which is filled once and with a value that it can have. -/
def fill {α : Type} (option : ValueOption) (place : Option α) (value : String) (read : Option α) :
    Except UsageError (Option α) :=
  match place, read with
  | some _, _ => .error (.repeated option)
  | none, none => .error (.invalidValue option value)
  | none, some x => .ok (some x)

/-- The path of a value. The empty text is none. -/
def path? (value : String) : Option Path := if value.isEmpty then none else some ⟨value⟩

/-- Takes the value of an option. -/
def put (draft : Draft) (option : ValueOption) (value : String) : Except UsageError Draft :=
  match option with
  | .source => do return { draft with source := ← fill option draft.source value (path? value) }
  | .modelFile => do
    return { draft with modelFile := ← fill option draft.modelFile value (path? value) }
  | .nameSpace => do
    return { draft with nameSpace := ← fill option draft.nameSpace value (some value) }
  | .strategy => do
    return { draft with
      strategy := ← fill option draft.strategy value (IdStrategy.read? value) }
  | .binding => do
    return { draft with binding := ← fill option draft.binding value (path? value) }
  | .config => do return { draft with config := ← fill option draft.config value (path? value) }
  | .logFormat => do
    return { draft with
      logFormat := ← fill option draft.logFormat value (LogFormat.all.find? (·.name = value)) }

/-- The request of a draft, with the source that the surroundings name where the arguments name
none. -/
def finish (draft : Draft) (source? : Option String) : Except UsageError Request := do
  let source ← match draft.source, source? with
    | some source, _ => .ok source
    | none, none => .error .missingSource
    | none, some value =>
      match path? value with
      | some source => .ok source
      | none => .error (.invalidValue .source value)
  if draft.verbose ≠ 0 ∧ draft.quiet ≠ 0 then
    throw .verboseAndQuiet
  return .run ⟨source, draft.modelFile, draft.nameSpace, draft.strategy, draft.binding,
    draft.config, draft.verbose, draft.quiet, draft.logFormat.getD .pretty⟩

end Draft

/-- Where the reading of arguments is: it goes on with a draft, or something was asked for that
needs no more of them. -/
inductive Progress where
  | more (draft : Draft)
  | done (request : Request)
  deriving Repr, DecidableEq

/-- Takes a switch. -/
def Draft.throwSwitch (draft : Draft) : Switch → Progress
  | .verbose => .more { draft with verbose := draft.verbose + 1 }
  | .quiet => .more { draft with quiet := draft.quiet + 1 }
  | .version => .done .version
  | .help => .done .help

/-- Takes letters behind one dash. -/
def Draft.throwLetters (draft : Draft) : List Char → Except UsageError Progress
  | [] => .ok (.more draft)
  | c :: rest =>
    match Switch.all.find? (·.letter = c) with
    | none => .error (.unknown (String.ofList ['-', c]))
    | some switch =>
      match draft.throwSwitch switch with
      | .more draft => draft.throwLetters rest
      | done => .ok done

/-- Reads arguments on top of a draft. An option that waits for its value takes the next argument
that looks like one. -/
def readArguments (source? : Option String) (draft : Draft) (waiting : Option ValueOption) :
    List String → Except UsageError Request
  | [] =>
    match waiting with
    | some option => .error (.missingValue option)
    | none => draft.finish source?
  | argument :: rest =>
    match waiting, shape argument with
    | some option, .value => do
      let draft ← draft.put option argument
      readArguments source? draft none rest
    | some option, _ => .error (.missingValue option)
    | none, .value => .error (.unknown argument)
    | none, .separator =>
      match rest with
      | [] => draft.finish source?
      | next :: _ => .error (.unknown next)
    | none, .letters letters => do
      match ← draft.throwLetters letters with
      | .more draft => readArguments source? draft none rest
      | .done request => return request
    | none, .long name value =>
      match ValueOption.ofName? name, Switch.all.find? (·.name = name), value with
      | some option, _, some value => do
        let draft ← draft.put option value
        readArguments source? draft none rest
      | some option, _, none => readArguments source? draft (some option) rest
      | none, some switch, some _ => .error (.needlessValue switch)
      | none, some switch, none =>
        match draft.throwSwitch switch with
        | .more draft => readArguments source? draft none rest
        | .done request => .ok request
      | none, none, _ => .error (.unknown argument)

/-- The request of a list of arguments. `source?` is the source that the surroundings name. -/
def Request.ofArguments (source? : Option String) (arguments : List String) :
    Except UsageError Request :=
  readArguments source? .empty none arguments

end RecordSchema.CommandLine
