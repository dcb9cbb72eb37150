import LedgerSettings.Files
import LedgerSettings.Json.Reader
import LedgerSettings.Resolution
import LedgerSettings.Toml.Reader
import LedgerSettings.Validation

namespace LedgerSettings

inductive DecodeFailure where
  | unreadable (failure : FileFailure)
  | json (problem : Json.Problem)
  | toml (text : String) (problem : Toml.Problem)

def DecodeFailure.message [Toml.Wording] : DecodeFailure → String
  | .unreadable failure => s!"failed to read file: {failure.message}"
  | .json problem => s!"invalid JSON document: {problem.message}"
  | .toml text problem => s!"invalid TOML document: {Toml.Wording.render text problem}"

inductive LoadFailure where
  | decode (source : String) (failure : DecodeFailure)
  | validation (failure : ValidationFailure)

def LoadFailure.message [Toml.Wording] : LoadFailure → String
  | .decode source failure => s!"unable to load configuration from {source}: {failure.message}"
  | .validation failure => s!"invalid configuration: {failure.message}"

def DocumentFormat.decode (format : DocumentFormat) (text : String) : Except DecodeFailure Document :=
  match format with
  | .json => (Json.decodeText Document.shape text).mapError .json |>.map Document.ofContent
  | .toml => (Toml.decodeText Document.shape text).mapError (.toml text) |>.map Document.ofContent

structure Loader where
  catalog : Catalog
  collaborators : Collaborators

def Loader.stock : Loader := ⟨.stock,⟨.structural,.unavailable⟩⟩

namespace Loader

def resolve (loader : Loader) (source : String) (document : Document) :
    Check LoadFailure Configuration := do
  Check.note (.validating source)
  let validation := (document.resolve loader.catalog).validate loader.collaborators
  validation.course.within .validation
  if validation.configuration.logConfiguration then Check.note (.resolved validation.configuration)
  Check.note (.loaded source)
  return validation.configuration

def loadText (loader : Loader) (source content : String) : Check LoadFailure Configuration := do
  Check.note (.decodingDocument source)
  match DocumentFormat.json.decode content with
  | .error failure => .fail (.decode source failure)
  | .ok document => loader.resolve source document

def decodeFile (path : String) (reading : Except FileFailure ByteArray) :
    Except DecodeFailure Document :=
  match reading with
  | .error failure => .error (.unreadable failure)
  | .ok bytes =>
    match String.fromUTF8? bytes with
    | none => .error (.unreadable .notText)
    | some content => (DocumentFormat.ofPath path).decode content

def loadFile (loader : Loader) (path : String) (reading : Except FileFailure ByteArray) :
    Check LoadFailure Configuration := do
  Check.note (.decodingFile path)
  match decodeFile path reading with
  | .error failure => .fail (.decode path failure)
  | .ok document => loader.resolve path document

def defaultSource : String := "defaults"

def loadDefault (loader : Loader) : Check LoadFailure Configuration :=
  loader.resolve defaultSource .blank

end Loader

end LedgerSettings
