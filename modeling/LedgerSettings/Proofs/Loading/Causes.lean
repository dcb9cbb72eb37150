import LedgerSettings.CommandLine.Run
import LedgerSettings.Proofs.Loading.Secrecy
import LedgerSettings.Proofs.Loading.Sources
import LedgerSettings.Proofs.Validation.Questions

namespace LedgerSettings

-- A failure taken apart: what each layer puts in front of the one it wraps, from the
-- outermost inwards, and the innermost failure in its own words.
structure Report where
  openings : List String
  core : String

def Report.text (report : Report) : String := String.join report.openings ++ report.core

def Report.behind (report : Report) (opening : String) : Report := {report with openings := opening :: report.openings}

theorem Report.behind_text (report : Report) (opening : String) :
    (report.behind opening).text = opening ++ report.text := by
  rw [text,text,behind,String.join_cons,String.append_assoc]

theorem Report.core_text (core : String) : (Report.mk [] core).text = core := by
  rw [text,String.join_nil,String.empty_append]

theorem Report.layer_text (opening core : String) : (Report.mk [opening] core).text = opening ++ core := by
  rw [text,String.join_cons,String.join_nil,String.append_empty]

def DecodeFailure.report [Toml.Wording] : DecodeFailure → Report
  | .unreadable failure => ⟨["failed to read file: "],failure.message⟩
  | .json problem => ⟨["invalid JSON document: "],problem.message⟩
  | .toml text problem => ⟨["invalid TOML document: "],Toml.Wording.render text problem⟩

def AccountFailure.report : AccountFailure → Report
  | .keyNotHex flaw => ⟨["private key is not hex encoded: "],flaw.message⟩
  | .curve objection => ⟨["invalid curve type: "],objection.message⟩
  | .account objection => ⟨["invalid account identifier: "],objection.message⟩
  | .currency objection => ⟨["invalid currency: "],objection.message⟩

-- A compile failure ends the report with its outermost message.
def ConstructionFailure.report (failure : ConstructionFailure) : Report :=
  match failure with
  | .compilation path reason => ⟨[s!"compilation of {path} failed: "],reason.message⟩
  | .prefundedAccount index reason => reason.report.behind s!"prefunded account {index}: "
  | .sourceConflict | .sourceMissing | .reservedConcurrency .. => ⟨[],failure.message⟩

def ValidationFailure.report : ValidationFailure → Report
  | .network objection => ⟨["invalid network identifier: "],objection.message⟩
  | .data reason => ⟨["invalid data configuration: "],reason.message⟩
  | .construction reason => reason.report.behind "invalid construction configuration: "

def LoadFailure.report [Toml.Wording] : LoadFailure → Report
  | .decode source reason => reason.report.behind s!"unable to load configuration from {source}: "
  | .validation reason => reason.report.behind "invalid configuration: "

theorem DecodeFailure.message_text [Toml.Wording] (failure : DecodeFailure) : failure.message = failure.report.text := by
  cases failure <;> exact (Report.layer_text _ _).symm

theorem AccountFailure.message_text (failure : AccountFailure) : failure.message = failure.report.text := by
  cases failure <;> exact (Report.layer_text _ _).symm

theorem ConstructionFailure.message_text (failure : ConstructionFailure) : failure.message = failure.report.text := by
  cases failure with
  | compilation path reason => exact (Report.layer_text _ _).symm
  | prefundedAccount index reason =>
    rw [report,Report.behind_text,← reason.message_text]
    rfl
  | sourceConflict | sourceMissing | reservedConcurrency => exact (Report.core_text _).symm

theorem ValidationFailure.message_text (failure : ValidationFailure) : failure.message = failure.report.text := by
  cases failure with
  | network objection => exact (Report.layer_text _ _).symm
  | data reason => exact (Report.layer_text _ _).symm
  | construction reason =>
    rw [report,Report.behind_text,← reason.message_text]
    rfl

theorem LoadFailure.message_text [Toml.Wording] (failure : LoadFailure) : failure.message = failure.report.text := by
  cases failure with
  | decode source reason =>
    rw [report,Report.behind_text,← reason.message_text]
    rfl
  | validation reason =>
    rw [report,Report.behind_text,← reason.message_text]
    rfl

-- The messages of a failure and of everything it wraps, outermost first. A compile
-- failure counts as one, by its outermost message.
def DecodeFailure.messages [Toml.Wording] (failure : DecodeFailure) : List String := [failure.message,failure.report.core]

def AccountFailure.messages (failure : AccountFailure) : List String := [failure.message,failure.report.core]

def ConstructionFailure.messages (failure : ConstructionFailure) : List String :=
  failure.message :: match failure with
    | .compilation _ reason => [reason.message]
    | .prefundedAccount _ reason => reason.messages
    | .sourceConflict | .sourceMissing | .reservedConcurrency .. => []

def ValidationFailure.messages (failure : ValidationFailure) : List String :=
  failure.message :: match failure with
    | .network objection => [objection.message]
    | .data reason => [reason.message]
    | .construction reason => reason.messages

def LoadFailure.messages [Toml.Wording] (failure : LoadFailure) : List String :=
  failure.message :: match failure with
    | .decode _ reason => reason.messages
    | .validation reason => reason.messages

def Closes (text whole : String) : Prop := ∃ opening,whole = opening ++ text

theorem closes_self (text : String) : Closes text text := ⟨"",String.empty_append.symm⟩

theorem closes_layer {inner : String} {texts : List String} (opening : String)
    (closed : ∀ text ∈ texts,Closes text inner) : ∀ text ∈ (opening ++ inner) :: texts,Closes text (opening ++ inner) := by
  refine List.forall_mem_cons.mpr ⟨closes_self _,fun text member => ?_⟩
  obtain ⟨between,rfl⟩ := closed text member
  exact ⟨opening ++ between,String.append_assoc.symm⟩

theorem closes_alone (text : String) : ∀ other ∈ [text],Closes other text :=
  List.forall_mem_singleton.mpr (closes_self text)

theorem DecodeFailure.messages_close [Toml.Wording] (failure : DecodeFailure) :
    ∀ text ∈ failure.messages,Closes text failure.message := by
  cases failure <;> exact closes_layer _ (closes_alone _)

theorem AccountFailure.messages_close (failure : AccountFailure) :
    ∀ text ∈ failure.messages,Closes text failure.message := by
  cases failure <;> exact closes_layer _ (closes_alone _)

theorem ConstructionFailure.messages_close (failure : ConstructionFailure) :
    ∀ text ∈ failure.messages,Closes text failure.message := by
  cases failure with
  | compilation path reason => exact closes_layer s!"compilation of {path} failed: " (closes_alone _)
  | prefundedAccount index reason => exact closes_layer s!"prefunded account {index}: " reason.messages_close
  | sourceConflict | sourceMissing | reservedConcurrency => exact closes_alone _

theorem ValidationFailure.messages_close (failure : ValidationFailure) :
    ∀ text ∈ failure.messages,Closes text failure.message := by
  cases failure with
  | network objection => exact closes_layer _ (closes_alone _)
  | data reason => exact closes_layer _ (closes_alone _)
  | construction reason => exact closes_layer "invalid construction configuration: " reason.messages_close

theorem LoadFailure.messages_close [Toml.Wording] (failure : LoadFailure) :
    ∀ text ∈ failure.messages,Closes text failure.message := by
  cases failure with
  | decode source reason => exact closes_layer s!"unable to load configuration from {source}: " reason.messages_close
  | validation reason => exact closes_layer "invalid configuration: " reason.messages_close

namespace Loader

-- A failure that comes out of one of the entries of a loader, and the name of what
-- was to be loaded.
inductive Refuses (loader : Loader) : String → LoadFailure → Prop where
  | file {failure : LoadFailure} (refused : (loader.loadFile path reading).outcome = .error failure) :
      Refuses loader path failure
  | text {failure : LoadFailure} (refused : (loader.loadText source content).outcome = .error failure) :
      Refuses loader source failure
  | nothing {failure : LoadFailure} (refused : loader.loadDefault.outcome = .error failure) :
      Refuses loader defaultSource failure
  | document {failure : LoadFailure} (refused : (loader.resolve source document).outcome = .error failure) :
      Refuses loader source failure

theorem resolve_error {loader : Loader} {failure : LoadFailure}
    (refused : (loader.resolve source document).outcome = .error failure) :
    ∃ reason,failure = .validation reason ∧ (loader.validation document).course.outcome = .error reason := by
  cases reached : (loader.validation document).course.outcome with
  | error reason =>
    rw [resolve_refused reached] at refused
    cases refused
    exact ⟨reason,rfl,rfl⟩
  | ok =>
    rw [resolve_passed reached] at refused
    cases refused

theorem refuses_stage {loader : Loader} {failure : LoadFailure} (refused : loader.Refuses source failure) :
    (∃ reason,failure = .decode source reason) ∨
    ∃ document reason,failure = .validation reason ∧ (loader.validation document).course.outcome = .error reason := by
  cases refused with
  | @file _ reading _ refused =>
    unfold loadFile at refused
    rw [Check.bind_outcome] at refused
    cases decoded : decodeFile source reading with
    | error reason =>
      rw [decoded] at refused
      cases refused
      exact .inl ⟨reason,rfl⟩
    | ok document =>
      rw [decoded] at refused
      exact .inr ⟨document,resolve_error refused⟩
  | @text _ content _ refused =>
    cases decoded : DocumentFormat.json.decode content with
    | error reason =>
      rw [loadText_undecoded decoded] at refused
      cases refused
      exact .inl ⟨reason,rfl⟩
    | ok document =>
      rw [loadText_decoded decoded] at refused
      exact .inr ⟨document,resolve_error refused⟩
  | nothing refused | document refused => exact .inr ⟨_,resolve_error refused⟩

theorem validation_compile {loader : Loader} {document : Document}
    (refused : (loader.validation document).course.outcome = .error (.construction (.compilation path reason))) :
    loader.collaborators.compiler.compile path = .error reason := by
  have inOrder := (document.resolve loader.catalog).validate_inOrder loader.collaborators
  obtain ⟨_,question,-,-,rejects⟩ := (inOrder.failed _ refused).2.answered rfl
  cases rejects with
  | compile answer => exact answer

-- The text of a refused load is what every layer puts in front and then the innermost
-- failure in its own words, so every message on the way is in it. A compile failure
-- is told by its outermost message alone: what caused that leaves no trace.
theorem refusal_text [Toml.Wording] {loader : Loader} {failure : LoadFailure} (refused : loader.Refuses source failure) :
    failure.message = String.join failure.report.openings ++ failure.report.core ∧
    CommandLine.errorLine failure = "Error: " ++ failure.message ∧
    (∀ text ∈ failure.messages,Closes text failure.message) ∧
    (∀ named reason,failure = .decode named reason → named = source) ∧
    ∀ path reason,failure = .validation (.construction (.compilation path reason)) →
      loader.collaborators.compiler.compile path = .error reason ∧
      ∀ causes,failure.message =
        (LoadFailure.validation (.construction (.compilation path {reason with causes := causes}))).message := by
  refine ⟨failure.message_text,rfl,failure.messages_close,?_,?_⟩
  · rintro named reason rfl
    rcases refuses_stage refused with ⟨reason,same⟩ | ⟨document,reason,same,-⟩
    · cases same
      rfl
    · cases same
  · rintro path reason rfl
    rcases refuses_stage refused with ⟨_,same⟩ | ⟨document,_,same,refused⟩
    · cases same
    · cases same
      exact ⟨validation_compile refused,fun _ => rfl⟩

attribute [local instance] Toml.Wording.bare

-- A key that is not spelled in hex is found four layers down.
def misspelt : LoadFailure := .validation (.construction (.prefundedAccount 0 (.keyNotHex (.invalidByte 122 0))))

theorem misspelt_text :
    stock.Refuses "memory" misspelt ∧ misspelt.message = String.join misspelt.report.openings ++ misspelt.report.core ∧
    misspelt.report.openings = ["invalid configuration: ","invalid construction configuration: ",
      "prefunded account 0: ","private key is not hex encoded: "] ∧
    misspelt.report.core = "Invalid character 'z' at position 0" := by
  have refused : (stock.resolve "memory" (.funded "zz")).outcome = .error misspelt := by rfl
  have told := refusal_text (.document refused)
  exact ⟨.document refused,told.1,by decide +kernel,by decide +kernel⟩

def refusal? (loaded : Check LoadFailure Configuration) : Option String :=
  match loaded.outcome with
  | .error failure => some failure.message
  | .ok _ => none

theorem refusal?_some (told : refusal? loaded = some text) :
    ∃ failure,loaded.outcome = .error failure ∧ failure.message = text := by
  unfold refusal? at told
  split at told
  · exact ⟨_,‹_›,Option.some.inj told⟩
  · cases told

def grumbling : Loader := ⟨.stock,.structural,⟨fun _ => .error ⟨"line 3: bad token",["root cause"]⟩⟩⟩

theorem rootCause_lost :
    grumbling.collaborators.compiler.compile "a.ros" = .error ⟨"line 3: bad token",["root cause"]⟩ ∧
    ∃ failure,(grumbling.loadText "memory" fileOnly).outcome = .error failure ∧
      failure.message =
        "invalid configuration: invalid construction configuration: compilation of a.ros failed: line 3: bad token" ∧
      ¬"root cause".toList <:+: failure.message.toList := by
  have told : refusal? (grumbling.loadText "memory" fileOnly) = some
      "invalid configuration: invalid construction configuration: compilation of a.ros failed: line 3: bad token" := by
    decide +kernel
  obtain ⟨failure,refused,message⟩ := refusal?_some told
  refine ⟨rfl,failure,refused,message,?_⟩
  rw [message]
  decide +kernel

end Loader

end LedgerSettings
