import LedgerSettings.CommandLine.Run
import LedgerSettings.Proofs.Logging.World
import LedgerSettings.Proofs.Outcome

namespace LedgerSettings.CommandLine

open Logging (Environment Record Sink Installs install install_installs)

namespace Invocation

variable {σ : Type} [FileSystem σ]

def loadAmong (invocation : Invocation) (files : σ) : Check LoadFailure Configuration :=
  match invocation.configurationFile with
  | some path => Loader.stock.loadFile path (FileSystem.read path files).1
  | none => Loader.stock.loadDefault

variable (stamp : String) (environment : Environment) (files : σ) (invocation : Invocation)

def setUp : Except Logging.Failure (Option Sink) × World σ :=
  install (World.host stamp) invocation.logging environment false (World.ofFiles files)

-- The load, once the log is told of the start.
def found (sink : Option Sink) (begun : World σ) : Check LoadFailure Configuration :=
  invocation.loadAmong (begun.tell stamp sink [starting]).files

def afterReading (world : World σ) : World σ :=
  match invocation.configurationFile with
  | some path => {world with files := (FileSystem.read path world.files).2,reads := world.reads ++ [path]}
  | none => world

def settled (sink : Option Sink) (begun : World σ) (last : Record) : World σ :=
  (invocation.afterReading (begun.tell stamp sink [starting])).tell stamp sink
    ((invocation.found stamp sink begun).noted.map Record.ofEvent ++ [last])

variable {stamp environment files invocation}

theorem setUp_installs (ready : invocation.setUp stamp environment files = (outcome,begun)) :
    Installs stamp invocation.logging environment (World.ofFiles files) outcome begun := by
  have installs := install_installs stamp invocation.logging environment (World.ofFiles files)
  rw [← setUp,ready] at installs
  exact installs

section

variable [Toml.Wording]

variable (stamp environment files invocation) in
def finish : Nat × World σ := invocation.run (World.host stamp) environment (World.ofFiles files)

end

attribute [local instance] Toml.Wording.bare

-- A document that is good, and one that may not be read.
def machine : FileTree := ⟨["work"],[(["etc"],⟨.directory,true⟩),
  (["etc","ledger.json"],⟨.file "\x7b\"http_timeout\":7\x7d".toUTF8,true⟩),
  (["etc","barred.json"],⟨.file "\x7b\x7d".toUTF8,false⟩)]⟩

-- The log goes to a file in a directory that is made on the way.
def filed : Invocation := ⟨.validate,some "/etc/ledger.json",false,false,none,none,some "file",some "logs/run.log"⟩

end Invocation

end LedgerSettings.CommandLine
