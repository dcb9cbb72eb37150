import Std.Time.Format
import LedgerSettings.CommandLine.Run

namespace LedgerSettings

-- The codes are those of the operating system, negated by some of its calls.
def fileFailure : IO.Error → FileFailure
  | .noFileOrDirectory .. => .notFound
  | .alreadyExists .. => .alreadyExists
  | .inappropriateType _ code _ =>
    if code.toInt32.toInt.natAbs = 20 then .notDirectory else .isDirectory
  | failure@(.permissionDenied _ code _) =>
    if code.toInt32.toInt.natAbs = 13 then .denied else .other (toString failure)
  | .invalidArgument _ 36 _ => .nameTooLong
  | .invalidArgument none 22 _ => .nulInName
  | other => .other (toString other)

def attempt (action : IO α) : IO (Except FileFailure α) := do
  match ← action.toBaseIO with
  | .ok value => return .ok value
  | .error failure => return .error (fileFailure failure)

def machine : Host IO where
  readFile path := attempt (IO.FS.readBinFile path)
  makeDirectories path := attempt (IO.FS.createDirAll path)
  openAppend path := attempt (do let _ ← IO.FS.Handle.mk path .append)
  append path text := do
    let _ ← attempt (do (← IO.FS.Handle.mk path .append).putStr text)
  writeOut text := IO.print text
  writeErr text := IO.eprint text
  stamp := do
    let now ← Std.Time.Timestamp.now
    return (Std.Time.DateTime.ofTimestampWithZone now .UTC).format "uuuu-MM-dd'T'HH:mm:ss.SSSSSSSSSxxx"

def readEnvironment : IO Logging.Environment := do
  let names := [Logging.filterVariable,Logging.formatVariable,Logging.outputVariable]
  let rows ← names.mapM fun name => do return (name,← IO.getEnv name)
  return fun name => (rows.find? fun row => row.1 == name).bind Prod.snd

def usage : String := "usage: ledgercheck [options] validate | show [--format text|json]\n"

end LedgerSettings

instance : LedgerSettings.Toml.Wording := .bare

open LedgerSettings in
def main (arguments : List String) : IO UInt32 := do
  match CommandLine.Invocation.ofArguments arguments with
  | .ok invocation =>
    return (← invocation.run machine (← readEnvironment)).toUInt32
  | .error reason =>
    if reason.exitCode = 0 then IO.print usage else IO.eprint usage
    return reason.exitCode.toUInt32
