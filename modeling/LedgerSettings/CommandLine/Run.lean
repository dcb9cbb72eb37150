import LedgerSettings.CommandLine.Arguments
import LedgerSettings.Loading
import LedgerSettings.Logging.Installation

namespace LedgerSettings.CommandLine

open Logging (Environment Record)

def Invocation.logging (invocation : Invocation) : Logging.Settings :=
  let standard := Logging.Settings.standard
  {standard with
    enabled := !invocation.quiet
    level := invocation.logLevel.getD (if invocation.verbose then "debug" else standard.level)
    format := invocation.logFormat.getD standard.format
    output := invocation.logOutput.getD standard.output
    file := invocation.logFile}

def Invocation.source (invocation : Invocation) : String :=
  invocation.configurationFile.getD Loader.defaultSource

def Command.output (command : Command) (source : String) (configuration : Configuration) : String :=
  match command with
  | .validate => Presentation.summary source configuration
  | .show .text => Presentation.text configuration
  | .show .json => Presentation.json configuration

def Invocation.load [Monad m] (host : Host m) (loader : Loader) (invocation : Invocation) :
    m (Check LoadFailure Configuration) := do
  match invocation.configurationFile with
  | some path => return loader.loadFile path (← host.readFile path)
  | none => return loader.loadDefault

def Invocation.answer (invocation : Invocation) (loaded : Check LoadFailure Configuration) :
    Except LoadFailure String :=
  loaded.outcome.map (invocation.command.output invocation.source)

def errorLine [Toml.Wording] (failure : LoadFailure) : String := s!"Error: {failure.message}"

def starting : Record := ⟨.info,Logging.commandTarget,"Ledgercheck CLI starting",[]⟩
def completed : Record := ⟨.info,Logging.commandTarget,"Command completed successfully",[]⟩
def failed [Toml.Wording] (failure : LoadFailure) : Record :=
  ⟨.error,Logging.commandTarget,s!"Command failed: {failure.message}",[]⟩

def Invocation.run [Toml.Wording] [Monad m] (host : Host m) (environment : Environment)
    (invocation : Invocation) : m Nat := do
  match ← Logging.install host invocation.logging environment false with
  | .error failure =>
    host.writeErr s!"Failed to initialize logging: {failure.message}\n"
    return 1
  | .ok sink =>
    Logging.write host sink starting
    let loaded ← invocation.load host .stock
    Logging.writeAll host sink (loaded.noted.map Record.ofEvent)
    match invocation.answer loaded with
    | .ok output =>
      Logging.write host sink completed
      host.writeOut (output ++ "\n")
      return 0
    | .error failure =>
      Logging.write host sink (failed failure)
      host.writeErr (errorLine failure ++ "\n")
      return 1

end LedgerSettings.CommandLine
