import LedgerSettings.Loading
import LedgerSettings.Proofs.Validation.Course

namespace LedgerSettings.Loader

def validation (loader : Loader) (document : Document) : Validation :=
  (document.resolve loader.catalog).validate loader.collaborators

theorem resolve_refused {loader : Loader} {document : Document}
    (refused : (loader.validation document).course.outcome = .error reason) :
    loader.resolve source document = ⟨.error (.validation reason),
      (loader.validation document).course.asked,
      .validating source :: (loader.validation document).course.noted⟩ := by
  unfold resolve
  dsimp only
  rw [← validation]
  generalize loader.validation document = validation at refused ⊢
  rcases validation with ⟨⟨outcome,asked,noted⟩,configuration⟩
  cases refused
  rfl

theorem resolve_passed {loader : Loader} {document : Document}
    (passed : (loader.validation document).course.outcome = .ok ()) :
    loader.resolve source document = ⟨.ok (loader.validation document).configuration,
      (loader.validation document).course.asked,
      .validating source :: ((loader.validation document).course.noted ++
        ((if (loader.validation document).configuration.logConfiguration
          then [.resolved (loader.validation document).configuration] else []) ++ [.loaded source]))⟩ := by
  unfold resolve
  dsimp only
  rw [← validation]
  generalize loader.validation document = validation at passed ⊢
  rcases validation with ⟨⟨outcome,asked,noted⟩,configuration⟩
  cases passed
  cases configuration.logConfiguration <;>
    simp [bind,Check.bind,Check.note,Check.within]

theorem resolve_accepted {loader : Loader} :
    (loader.resolve source document).outcome = .ok configuration ↔
      (loader.validation document).course.outcome = .ok () ∧
      (loader.validation document).configuration = configuration := by
  cases reached : (loader.validation document).course.outcome with
  | error reason => simp [resolve_refused reached]
  | ok => simp [resolve_passed reached]

theorem loadText_undecoded {loader : Loader} (refused : DocumentFormat.json.decode content = .error reason) :
    loader.loadText source content = ⟨.error (.decode source reason),[],[.decodingDocument source]⟩ := by
  unfold loadText
  rw [refused]
  rfl

theorem loadText_decoded {loader : Loader} (decoded : DocumentFormat.json.decode content = .ok document) :
    loader.loadText source content = ⟨(loader.resolve source document).outcome,
      (loader.resolve source document).asked,
      .decodingDocument source :: (loader.resolve source document).noted⟩ := by
  unfold loadText
  rw [decoded]
  rfl

theorem loadText_accepted {loader : Loader} :
    (loader.loadText source content).outcome = .ok configuration ↔
      ∃ document,DocumentFormat.json.decode content = .ok document ∧
        (loader.resolve source document).outcome = .ok configuration := by
  cases decoded : DocumentFormat.json.decode content with
  | error reason => simp [loadText_undecoded decoded]
  | ok document => simp [loadText_decoded decoded]

theorem loadFile_accepted {loader : Loader} :
    (loader.loadFile path reading).outcome = .ok configuration ↔
      ∃ document,decodeFile path reading = .ok document ∧
        (loader.resolve path document).outcome = .ok configuration := by
  unfold loadFile
  rw [Check.bind_outcome]
  cases decodeFile path reading <;> simp [bind,Except.bind,Check.fail]

-- A loader can be entered with a file, with a text, with nothing or with a document
-- that is decoded already.
inductive Accepts (loader : Loader) : Configuration → Prop where
  | file (accepted : (loader.loadFile path reading).outcome = .ok configuration) : Accepts loader configuration
  | text (accepted : (loader.loadText source content).outcome = .ok configuration) : Accepts loader configuration
  | nothing (accepted : loader.loadDefault.outcome = .ok configuration) : Accepts loader configuration
  | document (accepted : (loader.resolve source document).outcome = .ok configuration) :
      Accepts loader configuration

theorem accepts_document {loader : Loader} (accepted : loader.Accepts configuration) :
    ∃ document,(loader.validation document).course.outcome = .ok () ∧
      (loader.validation document).configuration = configuration := by
  cases accepted with
  | file accepted =>
    obtain ⟨document,-,resolved⟩ := loadFile_accepted.mp accepted
    exact ⟨document,resolve_accepted.mp resolved⟩
  | text accepted =>
    obtain ⟨document,-,resolved⟩ := loadText_accepted.mp accepted
    exact ⟨document,resolve_accepted.mp resolved⟩
  | nothing accepted => exact ⟨_,resolve_accepted.mp accepted⟩
  | document accepted => exact ⟨_,resolve_accepted.mp accepted⟩

end LedgerSettings.Loader
