import LedgerSettings.Proofs.Validation.Course
import LedgerSettings.Resolution

namespace LedgerSettings

structure Compile where
  path : String
  answer : Except CompileFailure (List Workflow)

def Compile.success? (call : Compile) : Option (String × List Workflow) :=
  call.answer.toOption.map fun output => (call.path,output)

def Question.compile? (compiler : Compiler) : Question → Option Compile
  | .compile path => some ⟨path,compiler.compile path⟩
  | .network _ | .curve _ | .account _ | .currency _ => none

-- Where the workflows of a construction section come from. Validation changes
-- nothing else about a configuration.
structure Source where
  workflows : List Workflow
  file : Option String
  origin : Option String

def ConstructionSettings.source (construction : ConstructionSettings) : Source :=
  ⟨construction.workflows,construction.constructorDslFile,construction.compiledFrom⟩

namespace Configuration

def source? (configuration : Configuration) : Option Source :=
  configuration.construction.map ConstructionSettings.source

def compiles (configuration : Configuration) (collaborators : Collaborators) : List Compile :=
  (configuration.validate collaborators).course.asked.filterMap (Question.compile? collaborators.compiler)

-- A run validates over and over, each time with other collaborators and each time
-- what the validation before it left behind, whether that one succeeded or not.
def after (configuration : Configuration) : List Collaborators → Configuration
  | [] => configuration
  | first :: rest => (configuration.validate first).configuration.after rest

def calls (configuration : Configuration) : List Collaborators → List Compile
  | [] => []
  | first :: rest => configuration.compiles first ++ (configuration.validate first).configuration.calls rest

def successes (configuration : Configuration) (run : List Collaborators) : List (String × List Workflow) :=
  (configuration.calls run).filterMap Compile.success?

theorem after_append (configuration : Configuration) (run more : List Collaborators) :
    configuration.after (run ++ more) = (configuration.after run).after more := by
  induction run generalizing configuration with
  | nil => rfl
  | cons first rest ih => exact ih (configuration.validate first).configuration

theorem calls_append (configuration : Configuration) (run more : List Collaborators) :
    configuration.calls (run ++ more) = configuration.calls run ++ (configuration.after run).calls more := by
  induction run generalizing configuration with
  | nil => rfl
  | cons first rest ih =>
    rw [List.cons_append,calls,calls,after,ih,List.append_assoc]

end Configuration

-- What one validation can do to the source of the workflows, with the calls it makes.
inductive Turn : Option Source → List Compile → Option Source → Prop where
  | quiet : Turn source [] source
  | refused (named : path ≠ "") :
      Turn (some ⟨[],some path,origin⟩) [⟨path,.error reason⟩] (some ⟨[],some path,origin⟩)
  | compiled (named : path ≠ "") :
      Turn (some ⟨[],some path,origin⟩) [⟨path,.ok output⟩] (some ⟨output,none,some path⟩)

inductive Turns : Option Source → List Compile → Option Source → Prop where
  | nil : Turns source [] source
  | cons (first : Turn before calls middle) (rest : Turns middle later after) : Turns before (calls ++ later) after

theorem ConstructionSettings.dslFile_some {construction : ConstructionSettings}
    (pending : construction.dslFile = some path) : construction.constructorDslFile = some path ∧ path ≠ "" := by
  simpa using Option.filter_eq_some_iff.mp pending

theorem ConstructionSettings.source_pending {construction : ConstructionSettings} (empty : construction.workflows = [])
    (pending : construction.dslFile = some path) :
    construction.source = ⟨[],some path,construction.compiledFrom⟩ := by
  rw [source,empty,(dslFile_some pending).1]

@[simp] theorem ConstructionSettings.compiled_source (construction : ConstructionSettings) (path : String)
    (output : List Workflow) : (construction.compiled path output).source = ⟨output,none,some path⟩ := rfl

theorem Question.judged_quiet (compiler : Compiler) {questions : List Question}
    (judged : ∀ question ∈ questions,question.judged) : questions.filterMap (compile? compiler) = [] := by
  refine List.filterMap_eq_nil_iff.mpr fun question member => ?_
  cases question with
  | compile path => exact absurd rfl (judged _ member path)
  | network | curve | account | currency => rfl

-- Settling is the only part of a validation that calls the compiler.
theorem ConstructionSettings.settle_turn {compiler : Compiler} {construction : ConstructionSettings}
    {outcome : Except ConstructionFailure ConstructionSettings}
    (settled : construction.settle compiler = ⟨outcome,asked,noted⟩) :
    Turn (some construction.source) (asked.filterMap (Question.compile? compiler))
      (some (outcome.toOption.getD construction).source) := by
  have course := construction.settle_settles compiler
  rw [settled] at course
  cases course with
  | conflict | missing | inline => exact .quiet
  | refused empty pending answer =>
    have file := (dslFile_some pending).2
    simpa [Question.compile?,answer,source_pending empty pending,Except.toOption] using Turn.refused file
  | compiled empty pending answer =>
    have file := (dslFile_some pending).2
    simpa [Question.compile?,answer,source_pending empty pending,Except.toOption] using Turn.compiled file

theorem Configuration.validate_turn (configuration : Configuration) (collaborators : Collaborators) :
    Turn configuration.source? (configuration.compiles collaborators)
      (configuration.validate collaborators).configuration.source? := by
  unfold compiles
  have course := configuration.validate_validates collaborators
  generalize configuration.validate collaborators = validation at course ⊢
  cases course with
  | network | data | bare => exact .quiet
  | unsettled accepted sound present settled =>
    rw [source?,present]
    exact ConstructionSettings.settle_turn settled
  | @inspected before after asked noted accepted sound present settled =>
    have turn := ConstructionSettings.settle_turn settled
    have idle := Question.judged_quiet collaborators.compiler (after.inspect_asked collaborators.asserter)
    rw [source?,present]
    show Turn _ ((asked ++ (after.inspect collaborators.asserter).asked).filterMap _) _
    rw [List.filterMap_append,idle,List.append_nil]
    exact turn

theorem Configuration.run_turns (configuration : Configuration) (run : List Collaborators) :
    Turns configuration.source? (configuration.calls run) (configuration.after run).source? := by
  induction run generalizing configuration with
  | nil => exact .nil
  | cons first rest ih => exact .cons (configuration.validate_turn first) (ih _)

theorem Turns.idle (turns : Turns before calls after)
    (settled : ∀ path origin,before = some ⟨[],some path,origin⟩ → path = "") : calls = [] ∧ after = before := by
  induction turns with
  | nil => exact ⟨rfl,rfl⟩
  | cons first rest ih =>
    cases first with
    | quiet => exact ih settled
    | refused named | compiled named => exact absurd (settled _ _ rfl) named

theorem Turns.once (turns : Turns before calls after) :
    (calls.filterMap Compile.success? = [] ∧ after = before) ∨
    ∃ path origin output,before = some ⟨[],some path,origin⟩ ∧ path ≠ "" ∧
      calls.filterMap Compile.success? = [(path,output)] ∧ after = some ⟨output,none,some path⟩ := by
  induction turns with
  | nil => exact .inl ⟨rfl,rfl⟩
  | cons first rest ih =>
    cases first with
    | quiet => exact ih
    | refused named => exact ih
    | @compiled path origin output named =>
      obtain ⟨rfl,rfl⟩ := rest.idle nofun
      exact .inr ⟨path,origin,output,rfl,named,rfl,rfl⟩

def Configuration.compiledFrom? (configuration : Configuration) : Option String :=
  configuration.source?.bind Source.origin

-- What is resolved has the source its document names, and nothing compiled.
theorem Document.resolve_source {document : Document} {catalog : Catalog}
    (held : (document.resolve catalog).source? = some source) :
    ∃ written,document.construction = some written ∧
      source = ⟨written.workflows,written.constructorDslFile,none⟩ := by
  rw [Configuration.source?,resolve,Option.map_map] at held
  obtain ⟨written,present,rfl⟩ := Option.map_eq_some_iff.mp held
  exact ⟨written,present,rfl⟩

theorem Document.inline_silent {document : Document} (catalog : Catalog) (run : List Collaborators)
    (inline : ∀ written path,document.construction = some written → written.constructorDslFile = some path →
      path ≠ "" → written.workflows ≠ []) : (document.resolve catalog).calls run = [] := by
  refine (((document.resolve catalog).run_turns run).idle fun path origin held => ?_).1
  obtain ⟨written,present,same⟩ := resolve_source held
  obtain ⟨empty,named,-⟩ := Source.mk.inj same
  by_contra nonempty
  exact inline written path present named.symm nonempty empty.symm

-- However often a resolved document is validated, one compile succeeds at most. It
-- turns the file the document names into workflows once and for all, and until
-- then nothing about their source has changed.
theorem Document.compiled_once (document : Document) (catalog : Catalog) (run : List Collaborators) :
    ((document.resolve catalog).successes run).length ≤ 1 ∧
    (∀ path,((document.resolve catalog).after run).compiledFrom? = some path ↔
      ∃ output,(path,output) ∈ (document.resolve catalog).successes run) ∧
    (∀ path output,(path,output) ∈ (document.resolve catalog).successes run →
      (∃ written,document.construction = some written ∧ written.constructorDslFile = some path ∧ path ≠ "") ∧
      ∀ more,((document.resolve catalog).after (run ++ more)).source? = some ⟨output,none,some path⟩ ∧
        (document.resolve catalog).calls (run ++ more) = (document.resolve catalog).calls run) ∧
    ((document.resolve catalog).successes run = [] →
      ((document.resolve catalog).after run).source? = (document.resolve catalog).source?) ∧
    ((∀ written path,document.construction = some written → written.constructorDslFile = some path → path ≠ "" →
      written.workflows ≠ []) → (document.resolve catalog).calls run = []) := by
  have turns := (document.resolve catalog).run_turns run
  have idle := document.inline_silent catalog run
  rcases turns.once with ⟨none',same⟩ | ⟨path,origin,output,held,nonempty,one,settled⟩
  · rw [Configuration.successes,none']
    refine ⟨Nat.zero_le 1,fun path => ?_,nofun,fun _ => same,idle⟩
    rw [Configuration.compiledFrom?,same,Option.bind_eq_some_iff]
    constructor
    · rintro ⟨source,held,origin⟩
      obtain ⟨written,-,rfl⟩ := resolve_source held
      cases origin
    · rintro ⟨output,member⟩
      cases member
  · rw [Configuration.successes,one]
    refine ⟨Nat.le_refl 1,fun other => ?_,fun other result member => ?_,nofun,idle⟩
    · rw [Configuration.compiledFrom?,settled]
      simp [eq_comm]
    · cases List.mem_singleton.mp member
      obtain ⟨written,present,same⟩ := resolve_source held
      refine ⟨⟨written,present,(Source.mk.inj same).2.1.symm,nonempty⟩,fun more => ?_⟩
      have later := ((document.resolve catalog).after run).run_turns more
      rw [settled] at later
      obtain ⟨silent,kept⟩ := later.idle nofun
      rw [Configuration.after_append,Configuration.calls_append,silent,List.append_nil]
      exact ⟨kept,rfl⟩

end LedgerSettings
