import LedgerSettings.Logging.Record
import LedgerSettings.Proofs.Loading.Course
import LedgerSettings.Proofs.Validation.Runs

namespace LedgerSettings

theorem Turn.single (turn : Turn before calls after) : calls.length ≤ 1 := by
  cases turn with
  | quiet => exact Nat.zero_le 1
  | refused | compiled => exact Nat.le_refl 1

namespace Loader

inductive Entry where
  | file (path : String) (reading : Except FileFailure ByteArray)
  | text (source content : String)
  | nothing
  | ready (source : String) (document : Document)

namespace Entry

def source : Entry → String
  | .file path _ => path
  | .text source _ | .ready source _ => source
  | .nothing => defaultSource

def decoded : Entry → Except DecodeFailure Document
  | .file path reading => decodeFile path reading
  | .text _ content => DocumentFormat.json.decode content
  | .nothing => .ok .blank
  | .ready _ document => .ok document

def announced : Entry → List Event
  | .file path _ => [.decodingFile path]
  | .text source _ => [.decodingDocument source]
  | .nothing | .ready .. => []

end Entry

def enter (loader : Loader) : Entry → Check LoadFailure Configuration
  | .file path reading => loader.loadFile path reading
  | .text source content => loader.loadText source content
  | .nothing => loader.loadDefault
  | .ready source document => loader.resolve source document

def calls (loader : Loader) (loaded : Check LoadFailure Configuration) : List Compile :=
  loaded.asked.filterMap (Question.compile? loader.collaborators.compiler)

-- What is told of a load that came out well, the configuration only where its
-- document asks for that.
def closing (source : String) (document : Document) : Except LoadFailure Configuration → List Event
  | .error _ => []
  | .ok configuration => (if document.logConfiguration then [.resolved configuration] else []) ++ [.loaded source]

theorem enter_refused {loader : Loader} {entry : Entry} (refused : entry.decoded = .error reason) :
    loader.enter entry = ⟨.error (.decode entry.source reason),[],entry.announced⟩ := by
  cases entry with
  | file path reading =>
    show loader.loadFile path reading = _
    unfold loadFile
    have refused : decodeFile path reading = .error reason := refused
    rw [refused]
    rfl
  | text source content => exact loadText_undecoded refused
  | nothing | ready => cases refused

theorem enter_decoded {loader : Loader} {entry : Entry} (decoded : entry.decoded = .ok document) :
    loader.enter entry = ⟨(loader.resolve entry.source document).outcome,
      (loader.resolve entry.source document).asked,
      entry.announced ++ (loader.resolve entry.source document).noted⟩ := by
  cases entry with
  | file path reading =>
    show loader.loadFile path reading = _
    unfold loadFile
    have decoded : decodeFile path reading = .ok document := decoded
    rw [decoded]
    rfl
  | text source content => exact loadText_decoded decoded
  | nothing | ready =>
    cases decoded
    rfl

end Loader

end LedgerSettings
