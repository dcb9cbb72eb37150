import LedgerSettings.Proofs.Loading.Course
import LedgerSettings.Proofs.Outcome

namespace LedgerSettings

-- Settling leaves no file pending. It leaves no workflows exactly where the file
-- it compiled held none.
theorem ConstructionSettings.settle_source {compiler : Compiler} {before after : ConstructionSettings}
    (original : before.compiledFrom = none) (settled : (before.settle compiler).outcome = .ok after) :
    after.dslFile = none ∧
    (after.workflows = [] ↔ ∃ path,after.compiledFrom = some path ∧ compiler.compile path = .ok []) := by
  have course := before.settle_settles compiler
  generalize before.settle compiler = check at course settled
  cases course with
  | conflict => cases settled
  | missing => cases settled
  | inline inline idle =>
    cases settled
    exact ⟨idle,by simp [inline,original]⟩
  | refused => cases settled
  | compiled empty pending answer =>
    cases settled
    exact ⟨rfl,by simp [compiled,answer]⟩

-- No file is pending in an accepted configuration, and its workflows are missing
-- exactly where the compiler answered with none.
theorem Loader.accepted_source {loader : Loader} {configuration : Configuration}
    {construction : ConstructionSettings} (accepted : loader.Accepts configuration)
    (present : configuration.construction = some construction) :
    construction.dslFile = none ∧
    (construction.workflows = [] ↔ ∃ path,construction.compiledFrom = some path ∧
      loader.collaborators.compiler.compile path = .ok []) := by
  obtain ⟨document,passed,rfl⟩ := accepts_document accepted
  obtain ⟨before,held,settled⟩ := Configuration.settled_construction passed present
  obtain ⟨written,-,rfl⟩ := Option.map_eq_some_iff.mp held
  exact ConstructionSettings.settle_source rfl settled

def Loader.emptyHanded : Loader := ⟨.stock,.structural,⟨fun _ => .ok []⟩⟩

def Loader.fileOnly : String := "\x7b\"construction\":\x7b\"constructor_dsl_file\":\"a.ros\"\x7d\x7d"

theorem Loader.fileOnly_source : ∃ configuration construction,
    Loader.emptyHanded.Accepts configuration ∧ configuration.construction = some construction ∧
    construction.dslFile = none ∧
    (construction.workflows = [] ↔ ∃ path,construction.compiledFrom = some path ∧
      Loader.emptyHanded.collaborators.compiler.compile path = .ok []) := by
  have shown : (Loader.emptyHanded.loadText "memory" Loader.fileOnly).outcome.toOption.any
      (·.construction.isSome) = true := by decide +kernel
  obtain ⟨configuration,loaded,some'⟩ := ok_checked shown
  obtain ⟨construction,present⟩ := Option.isSome_iff_exists.mp some'
  exact ⟨configuration,construction,.text loaded,present,accepted_source (.text loaded) present⟩

-- An accepted configuration can be left without any workflow to run.
theorem Loader.fileOnly_emptied : ∃ configuration construction,
    Loader.emptyHanded.Accepts configuration ∧ configuration.construction = some construction ∧
    construction.workflows = [] ∧ construction.dslFile = none := by
  have shown : (Loader.emptyHanded.loadText "memory" Loader.fileOnly).outcome.toOption.any
      (·.construction.any fun construction => construction.workflows.isEmpty && construction.dslFile.isNone) = true := by
    decide +kernel
  obtain ⟨configuration,loaded,some'⟩ := ok_checked shown
  obtain ⟨construction,present,empty⟩ := (Option.any_eq_true _ _).mp some'
  obtain ⟨empty,idle⟩ := Bool.and_eq_true_iff.mp empty
  exact ⟨configuration,construction,.text loaded,present,List.isEmpty_iff.mp empty,Option.isNone_iff_eq_none.mp idle⟩

end LedgerSettings
