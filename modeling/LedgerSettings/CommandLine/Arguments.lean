namespace LedgerSettings.CommandLine

inductive Rendering where
  | text
  | json
  deriving DecidableEq

inductive Command where
  | validate
  | show (rendering : Rendering)
  deriving DecidableEq

structure Invocation where
  command : Command
  configurationFile : Option String
  verbose : Bool
  quiet : Bool
  logLevel : Option String
  logFormat : Option String
  logOutput : Option String
  logFile : Option String
  deriving DecidableEq

inductive Usage where
  | help
  | helpForMissing
  | missingSubcommand
  | invalidSubcommand
  | unknownArgument
  | invalidValue
  | tooManyValues
  | conflict
  deriving DecidableEq

def Usage.exitCode : Usage → Nat
  | .help => 0
  | _ => 2

inductive Level where
  | program
  | validate
  | show
  deriving DecidableEq

inductive Setting where
  | configurationFile
  | logLevel
  | logFormat
  | logOutput
  | logFile
  | rendering
  deriving DecidableEq

inductive Switch where
  | verbose
  | quiet
  | help
  deriving DecidableEq

def Level.setting? : Level → String → Option Setting
  | _,"configuration-file" => some .configurationFile
  | .program,"log-level" => some .logLevel
  | .program,"log-format" => some .logFormat
  | .program,"log-output" => some .logOutput
  | .program,"log-file" => some .logFile
  | .show,"format" => some .rendering
  | _,_ => none

def Level.switch? : Level → String → Option Switch
  | _,"help" => some .help
  | .program,"verbose" => some .verbose
  | .program,"quiet" => some .quiet
  | _,_ => none

def Rendering.ofName? : String → Option Rendering
  | "text" => some .text
  | "json" => some .json
  | _ => none

def Setting.accepts (setting : Setting) (value : String) : Bool :=
  match setting with
  | .configurationFile | .logFile => value ≠ ""
  | .rendering => (Rendering.ofName? value).isSome
  | _ => true

-- An option that was named last is settled only when the next one is: it may still lack its value.
structure Gathered where
  values : List (Setting × String)
  switches : List Switch
  pending : Option (Setting × Option String)
  deriving DecidableEq

namespace Gathered

def nothing : Gathered := ⟨[],[],none⟩

def value? (gathered : Gathered) (setting : Setting) : Option String :=
  (gathered.values.find? fun entry => entry.1 = setting).map Prod.snd

-- An option given twice is a conflict before its value is looked at.
def store (gathered : Gathered) (setting : Setting) (value : String) : Except Usage Gathered :=
  if (gathered.value? setting).isSome then .error .conflict
  else if setting.accepts value then .ok {gathered with values := gathered.values ++ [(setting,value)]}
  else .error .invalidValue

def settle (gathered : Gathered) : Except Usage Gathered :=
  match gathered.pending with
  | none => .ok gathered
  | some (_,none) => .error .invalidValue
  | some (setting,some value) => {gathered with pending := none}.store setting value

def turn (gathered : Gathered) (switch : Switch) : Except Usage Gathered := do
  let gathered ← gathered.settle
  if switch = .help then .error .help
  else if switch ∈ gathered.switches then .error .conflict
  else return {gathered with switches := gathered.switches ++ [switch]}

def isEmpty (gathered : Gathered) : Bool := gathered.values.isEmpty && gathered.switches.isEmpty

end Gathered

inductive Subcommand where
  | validate
  | show
  | help
  deriving DecidableEq

def Subcommand.ofName? : String → Option Subcommand
  | "validate" => some .validate
  | "show" => some .show
  | "help" => some .help
  | _ => none

def Level.subcommand? (level : Level) (name : String) : Option Subcommand :=
  if level = .program then Subcommand.ofName? name else none

def Level.strange (level : Level) (trailing : Bool) (word : String) : Usage :=
  if level = .program then
    if trailing && (Subcommand.ofName? word).isSome then .unknownArgument else .invalidSubcommand
  else .unknownArgument

inductive Word where
  | separator
  | long (name : String) (attached : Option String)
  | short (first : Char)
  | plain

def Word.ofText (text : String) : Word :=
  match text.toList with
  | ['-','-'] => .separator
  | '-' :: '-' :: rest =>
    let name := rest.takeWhile fun c => c ≠ '='
    match rest.drop name.length with
    | [] => .long (String.ofList name) none
    | _ :: value => .long (String.ofList name) (some (String.ofList value))
  | '-' :: first :: _ => .short first
  | _ => .plain

def gather (level : Level) : Gathered → List String →
    Except Usage (Gathered × Option (Subcommand × List String))
  | gathered,[] => do return (← gathered.settle,none)
  | gathered,word :: rest => do
    let awaiting := match gathered.pending with
      | some (_,none) => true
      | _ => false
    match (if awaiting then none else level.subcommand? word) with
    | some subcommand => return (gathered,some (subcommand,rest))
    | none =>
      match Word.ofText word with
      | .separator =>
        match rest with
        | [] => return (← gathered.settle,none)
        | next :: _ => .error (level.strange true next)
      | .long name attached =>
        match level.switch? name,level.setting? name,attached with
        | some _,_,some _ => .error .tooManyValues
        | some switch,_,none => gather level (← gathered.turn switch) rest
        | none,some setting,some value =>
          gather level (← (← gathered.settle).store setting value) rest
        | none,some setting,none =>
          gather level {← gathered.settle with pending := some (setting,none)} rest
        | none,none,_ => .error .unknownArgument
      | .short first =>
        if first = 'h' then do
          let _ ← gathered.settle
          .error .help
        else .error .unknownArgument
      | .plain =>
        match gathered.pending with
        | some (setting,none) => gather level {gathered with pending := some (setting,some word)} rest
        | _ => .error (level.strange false word)

def helpFor : List String → Usage
  | [] => .help
  | word :: rest =>
    match Subcommand.ofName? word,rest with
    | some _,[] => .help
    | _,_ => .invalidSubcommand

def Subcommand.command (subcommand : Subcommand) (inner : Gathered) : Command :=
  match subcommand with
  | .show => .show (((inner.value? .rendering).bind Rendering.ofName?).getD .text)
  | _ => .validate

-- The file named last is the one that counts.
def Invocation.ofArguments (arguments : List String) : Except Usage Invocation := do
  match ← gather .program .nothing arguments with
  | (outer,none) => .error (if outer.isEmpty then .helpForMissing else .missingSubcommand)
  | (outer,some (subcommand,rest)) =>
    let level ← match subcommand with
      | .help => .error (helpFor rest)
      | .validate => pure Level.validate
      | .show => pure Level.show
    let (inner,_) ← gather level .nothing rest
    let outer ← outer.settle
    return {
      command := subcommand.command inner
      configurationFile := (inner.value? .configurationFile).or (outer.value? .configurationFile)
      verbose := .verbose ∈ outer.switches
      quiet := .quiet ∈ outer.switches
      logLevel := outer.value? .logLevel
      logFormat := outer.value? .logFormat
      logOutput := outer.value? .logOutput
      logFile := outer.value? .logFile}

end LedgerSettings.CommandLine
