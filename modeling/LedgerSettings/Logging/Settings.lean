import LedgerSettings.Files
import LedgerSettings.Logging.Directive

namespace LedgerSettings.Logging

structure Settings where
  enabled : Bool
  level : String
  format : String
  output : String
  file : Option String
  colour : Bool
  deriving DecidableEq

def Settings.standard : Settings := ⟨true,"info","text","stderr",none,true⟩

inductive Format where
  | text
  | json
  deriving DecidableEq

inductive Output where
  | out
  | err
  | file
  deriving DecidableEq

inductive Failure where
  | invalidDirective (level : String)
  | invalidFormat (format : String)
  | invalidOutput (output : String)
  | file (path : String) (failure : FileFailure)
  | alreadyInstalled
  deriving DecidableEq

def Failure.message : Failure → String
  | .invalidDirective level => s!"invalid log directive: {level}"
  | .invalidFormat format => s!"invalid log format: {format} (must be 'json' or 'text')"
  | .invalidOutput output =>
    s!"invalid log output: {output} (must be 'stdout', 'stderr' or 'file')"
  | .file path failure => s!"failed to open log file {path}: {failure.message}"
  | .alreadyInstalled => "a global log subscriber is already installed"

abbrev Environment := String → Option String

def filterVariable : String := "LEDGERCHECK_LOG"
def formatVariable : String := "LEDGERCHECK_LOG_FORMAT"
def outputVariable : String := "LEDGERCHECK_LOG_OUTPUT"

-- A filter from the environment replaces the level, but only if it is one.
def chooseFilter (environment : Environment) (settings : Settings) : Except Failure Filter :=
  match (environment filterVariable).bind Filter.parse with
  | some filter => .ok filter
  | none =>
    match Filter.parse settings.level with
    | some filter => .ok filter
    | none => .error (.invalidDirective settings.level)

def chooseFormat (environment : Environment) (settings : Settings) : Except Failure Format :=
  match (environment formatVariable).getD settings.format with
  | "text" => .ok .text
  | "json" => .ok .json
  | other => .error (.invalidFormat other)

def chooseOutput (environment : Environment) (settings : Settings) : Except Failure Output :=
  match (environment outputVariable).getD settings.output with
  | "stdout" => .ok .out
  | "stderr" => .ok .err
  | "file" => .ok .file
  | other => .error (.invalidOutput other)

structure Plan where
  filter : Filter
  format : Format
  output : Output

def Settings.plan (settings : Settings) (environment : Environment) : Except Failure Plan := do
  let filter ← chooseFilter environment settings
  let format ← chooseFormat environment settings
  let output ← chooseOutput environment settings
  return ⟨filter,format,output⟩

def Settings.filePath (settings : Settings) : String := settings.file.getD "ledgercheck.log"

def Settings.usesColour (settings : Settings) (plan : Plan) : Bool :=
  settings.colour && plan.output != .file

def Plan.line (plan : Plan) (colour : Bool) (stamp : String) (record : Record) : String :=
  match plan.format with
  | .text => record.text colour stamp
  | .json => record.json stamp

end LedgerSettings.Logging
