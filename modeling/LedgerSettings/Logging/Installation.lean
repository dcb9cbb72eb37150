import LedgerSettings.Files
import LedgerSettings.Logging.Settings

namespace LedgerSettings

structure Host (m : Type → Type) where
  readFile : String → m (Except FileFailure ByteArray)
  makeDirectories : String → m (Except FileFailure Unit)
  openAppend : String → m (Except FileFailure Unit)
  append : String → String → m Unit
  writeOut : String → m Unit
  writeErr : String → m Unit
  stamp : m String

structure World (σ : Type) where
  files : σ
  out : String
  err : String
  reads : List String

namespace World

variable {σ : Type}

def ofFiles (files : σ) : World σ := ⟨files,"","",[]⟩

def onFiles (action : σ → α × σ) : StateM (World σ) α := fun world =>
  let (outcome,files) := action world.files
  (outcome,{world with files := files})

-- Time stands still in it: every stamp is the same.
def host [FileSystem σ] (stamp : String) : Host (StateM (World σ)) where
  readFile path := do
    modify fun world => {world with reads := world.reads ++ [path]}
    onFiles (FileSystem.read path)
  makeDirectories path := onFiles (FileSystem.makeDirectories path)
  openAppend path := onFiles (FileSystem.openAppend path)
  append path text := modify fun world => {world with files := FileSystem.append path text.toUTF8 world.files}
  writeOut text := modify fun world => {world with out := world.out ++ text}
  writeErr text := modify fun world => {world with err := world.err ++ text}
  stamp := pure stamp

end World

namespace Logging

structure Sink where
  plan : Plan
  colour : Bool
  path : String

-- An empty parent is the directory at hand.
def openFile [Monad m] (host : Host m) (path : String) : m (Except FileFailure Unit) := do
  let parent := ((Path.parent path.toList).getD [])
  let made ← if parent.isEmpty then pure (.ok ()) else host.makeDirectories (String.ofList parent)
  match made with
  | .error failure => return .error failure
  | .ok () => host.openAppend path

-- Settings are judged in order before any file is touched.
def install [Monad m] (host : Host m) (settings : Settings) (environment : Environment)
    (installed : Bool) : m (Except Failure (Option Sink)) := do
  if !settings.enabled then return .ok none
  match settings.plan environment with
  | .error failure => return .error failure
  | .ok plan =>
    let opened ← match plan.output with
      | .file => openFile host settings.filePath
      | _ => pure (.ok ())
    match opened with
    | .error failure => return .error (.file settings.filePath failure)
    | .ok () =>
      if installed then return .error .alreadyInstalled
      return .ok (some ⟨plan,settings.usesColour plan,settings.filePath⟩)

def write [Monad m] (host : Host m) (sink : Option Sink) (record : Record) : m Unit := do
  match sink with
  | none => return ()
  | some sink =>
    if sink.plan.filter.permits record then
      let line := sink.plan.line sink.colour (← host.stamp) record
      match sink.plan.output with
      | .out => host.writeOut line
      | .err => host.writeErr line
      | .file => host.append sink.path line

def writeAll [Monad m] (host : Host m) (sink : Option Sink) : List Record → m Unit
  | [] => return ()
  | record :: rest => do
    write host sink record
    writeAll host sink rest

end Logging

end LedgerSettings
