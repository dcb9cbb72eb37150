import LedgerSettings.Loading
import LedgerSettings.Proofs.Validation.Questions
import LedgerSettings.Proofs.Validation.Runs

namespace LedgerSettings

-- What is left of a configuration once nobody knows where its workflows were
-- compiled from.
def Configuration.uncompiled (configuration : Configuration) : Configuration := {configuration with
  construction := configuration.construction.map fun construction => {construction with compiledFrom := none}}

-- A construction section without anything about where its workflows come from, and
-- what is left of a configuration then.
def ConstructionSettings.rest (construction : ConstructionSettings) : ConstructionSettings :=
  {construction with workflows := [],constructorDslFile := none,compiledFrom := none}

def Configuration.rest (configuration : Configuration) : Configuration :=
  {configuration with construction := configuration.construction.map ConstructionSettings.rest}

theorem ConstructionSettings.whole {left right : ConstructionSettings} (rest : left.rest = right.rest)
    (source : left.source = right.source) : left = right := by
  obtain ⟨workflows,file,origin⟩ := Source.mk.inj source
  have same := congrArg (fun construction : ConstructionSettings => {construction with
    workflows := left.workflows
    constructorDslFile := left.constructorDslFile
    compiledFrom := left.compiledFrom}) rest
  calc left = {right with
        workflows := left.workflows
        constructorDslFile := left.constructorDslFile
        compiledFrom := left.compiledFrom} := same
    _ = right := by rw [workflows,file,origin]

theorem Configuration.whole {left right : Configuration} (rest : left.rest = right.rest)
    (source : left.source? = right.source?) : left = right := by
  have same : left.construction = right.construction := by
    have parts := congrArg Configuration.construction rest
    simp only [Configuration.rest] at parts
    unfold source? at source
    cases mine : left.construction with
    | none =>
      rw [mine] at parts
      exact (Option.map_eq_none_iff.mp parts.symm).symm
    | some construction =>
      rw [mine] at parts source
      obtain ⟨other,held,same⟩ := Option.map_eq_some_iff.mp parts.symm
      rw [held] at source ⊢
      exact congrArg some (ConstructionSettings.whole same.symm (Option.some.inj source))
  calc left = {right with construction := left.construction} :=
        congrArg (fun configuration : Configuration => {configuration with construction := left.construction}) rest
    _ = right := by rw [same]

theorem ConstructionSettings.settle_rest {before after : ConstructionSettings} {compiler : Compiler}
    (settled : before.settle compiler = ⟨.ok after,asked,noted⟩) : after.rest = before.rest := by
  have course := before.settle_settles compiler
  rw [settled] at course
  cases course <;> rfl

theorem Configuration.validate_rest (collaborators : Collaborators) (configuration : Configuration) :
    (configuration.validate collaborators).configuration.rest = configuration.rest := by
  have course := configuration.validate_validates collaborators
  generalize configuration.validate collaborators = validation at course ⊢
  cases course with
  | network | data | bare | unsettled => rfl
  | inspected accepted sound present settled =>
    simp only [Configuration.rest,present,Option.map_some,ConstructionSettings.settle_rest settled]

-- Failures that are found before it is settled where the workflows come from.
def ValidationFailure.unsettled : ValidationFailure → Bool
  | .network _ | .data _ | .construction .sourceConflict | .construction .sourceMissing
  | .construction (.compilation ..) => true
  | .construction (.reservedConcurrency ..) | .construction (.prefundedAccount ..) => false

theorem ConstructionSettings.inspect_late {construction : ConstructionSettings} {asserter : Asserter}
    (refused : (construction.inspect asserter).outcome = .error reason) :
    (ValidationFailure.construction reason).unsettled = false := by
  cases reserved : checkReserved construction.workflows with
  | error broken =>
    obtain ⟨name,concurrency,rfl⟩ := checkReserved_error reserved
    rw [inspect_reserved asserter reserved] at refused
    cases refused
    rfl
  | ok =>
    rw [inspect_accounts asserter reserved] at refused
    have course := checkAccounts_checks asserter 0 construction.prefundedAccounts
    generalize checkAccounts asserter 0 construction.prefundedAccounts = check at course refused
    cases course with
    | sound => cases refused
    | refused =>
      cases refused
      rfl

theorem Configuration.validate_unsettled {configuration : Configuration} {collaborators : Collaborators}
    (refused : (configuration.validate collaborators).course.outcome = .error reason)
    (early : reason.unsettled = true) : (configuration.validate collaborators).configuration = configuration := by
  have course := configuration.validate_validates collaborators
  generalize configuration.validate collaborators = validation at course refused ⊢
  cases course with
  | network | data | bare | unsettled => rfl
  | inspected accepted sound present settled =>
    obtain ⟨inner,broken,rfl⟩ := mapError_error.mp refused
    rw [ConstructionSettings.inspect_late broken] at early
    cases early

-- A validation either calls no compiler with success and changes nothing, or it
-- replaces the pending file by what was compiled from it.
theorem Configuration.validate_effect (collaborators : Collaborators) (configuration : Configuration) :
    ((configuration.validate collaborators).configuration = configuration ∧
      ∀ path output,⟨path,.ok output⟩ ∉ configuration.compiles collaborators) ∨
    ∃ path origin output,configuration.source? = some ⟨[],some path,origin⟩ ∧
      configuration.compiles collaborators = [⟨path,.ok output⟩] ∧
      (configuration.validate collaborators).configuration.source? = some ⟨output,none,some path⟩ := by
  have turn := configuration.validate_turn collaborators
  have rest := configuration.validate_rest collaborators
  generalize before : configuration.source? = source at turn
  generalize calls : configuration.compiles collaborators = made at turn ⊢
  generalize after : (configuration.validate collaborators).configuration.source? = reached at turn ⊢
  cases turn with
  | quiet => exact .inl ⟨whole rest (after.trans before.symm),fun _ _ => List.not_mem_nil⟩
  | refused => exact .inl ⟨whole rest (after.trans before.symm),by simp⟩
  | @compiled path origin output => exact .inr ⟨path,origin,output,rfl,rfl,rfl⟩

-- A validation leaves everything but the source of the workflows as it was, however
-- it ends. The source changes as a whole, and exactly where a compile succeeded; so
-- nothing has changed where the failure came before that, or where the workflows
-- were written inline.
theorem Configuration.changed_by_compile (collaborators : Collaborators) (configuration : Configuration) :
    (configuration.validate collaborators).configuration.rest = configuration.rest ∧
    (∀ path output,⟨path,.ok output⟩ ∈ configuration.compiles collaborators →
      configuration.compiles collaborators = [⟨path,.ok output⟩] ∧
      (configuration.validate collaborators).configuration.source? = some ⟨output,none,some path⟩) ∧
    ((configuration.validate collaborators).configuration ≠ configuration ↔
      ∃ path output,⟨path,.ok output⟩ ∈ configuration.compiles collaborators) ∧
    (∀ reason,(configuration.validate collaborators).course.outcome = .error reason → reason.unsettled = true →
      (configuration.validate collaborators).configuration = configuration) ∧
    (∀ construction,configuration.construction = some construction → construction.workflows ≠ [] →
      (configuration.validate collaborators).configuration = configuration) := by
  refine ⟨configuration.validate_rest collaborators,?_,?_,fun reason => validate_unsettled,?_⟩
  · intro path output made
    rcases configuration.validate_effect collaborators with ⟨-,none'⟩ | ⟨_,_,_,-,one,after⟩
    · exact absurd made (none' path output)
    · rw [one] at made
      cases List.mem_singleton.mp made
      exact ⟨one,after⟩
  · rcases configuration.validate_effect collaborators with ⟨same,none'⟩ | ⟨path,origin,output,before,one,after⟩
    · constructor
      · intro changed
        exact absurd same changed
      · rintro ⟨path,output,made⟩
        exact absurd made (none' path output)
    · constructor
      · intro changed
        exact ⟨path,output,by rw [one]; exact List.mem_singleton_self _⟩
      · intro made same
        rw [same,before] at after
        cases after
  · intro construction present inline
    rcases configuration.validate_effect collaborators with ⟨same,-⟩ | ⟨path,origin,output,before,-,-⟩
    · exact same
    · rw [source?,present] at before
      exact absurd (Source.mk.inj (Option.some.inj before)).1 inline

def Configuration.filed : Configuration :=
  let construction := ConstructionDocument.ofContent ConstructionDocument.shape.blank
  {Configuration.blank .stock with construction := some ({construction with
    prefundedAccounts := [⟨"ab",⟨"0xabc",none,none⟩,⟨"secp256k1"⟩,⟨"ETH",18,none⟩⟩]
    constructorDslFile := some "a.ros"}.resolve .stock)}

def Collaborators.finding (workflows : List Workflow) : Collaborators := ⟨.structural,⟨fun _ => .ok workflows⟩⟩

theorem Configuration.filed_changed :
    (filed.validate (.finding [⟨"create_account",2,[]⟩])).course.outcome =
      .error (.construction (.reservedConcurrency "create_account" 2)) ∧
    (filed.validate (.finding [⟨"create_account",2,[]⟩])).configuration ≠ filed ∧
    (filed.validate (.finding [⟨"create_account",2,[]⟩])).configuration.source? =
      some ⟨[⟨"create_account",2,[]⟩],none,some "a.ros"⟩ := by
  obtain ⟨-,sourced,changed,-⟩ := changed_by_compile (.finding [⟨"create_account",2,[]⟩]) filed
  have made : ⟨"a.ros",.ok [⟨"create_account",2,[]⟩]⟩ ∈ filed.compiles (.finding [⟨"create_account",2,[]⟩]) :=
    List.mem_singleton_self _
  exact ⟨rfl,changed.mpr ⟨_,_,made⟩,(sourced _ _ made).2⟩

end LedgerSettings
