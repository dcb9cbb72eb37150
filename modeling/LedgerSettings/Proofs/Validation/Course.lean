import LedgerSettings.Proofs.Outcome
import LedgerSettings.Validation

namespace LedgerSettings

namespace Check

theorem bind_error (first : Check ε α) (next : α → Check ε β) (failed : first.outcome = .error reason) :
    first >>= next = ⟨.error reason,first.asked,first.noted⟩ := by
  simp [bind,Check.bind,failed]

theorem bind_ok (first : Check ε α) (next : α → Check ε β) (passed : first.outcome = .ok value) :
    first >>= next = ⟨(next value).outcome,first.asked ++ (next value).asked,
      first.noted ++ (next value).noted⟩ := by
  simp [bind,Check.bind,passed]

theorem bind_outcome (first : Check ε α) (next : α → Check ε β) :
    (first >>= next).outcome = first.outcome >>= fun value => (next value).outcome := by
  cases passed : first.outcome with
  | error failure => rw [bind_error first next passed]; rfl
  | ok value => rw [bind_ok first next passed]; rfl

theorem bind_asked {check : Check ε α} {next : α → Check ε β} {kind : Question → Prop}
    (first : ∀ question ∈ check.asked,kind question)
    (others : ∀ value,∀ question ∈ (next value).asked,kind question) :
    ∀ question ∈ (check >>= next).asked,kind question := by
  cases passed : check.outcome with
  | error reason =>
    rw [bind_error check next passed]
    exact first
  | ok value =>
    rw [bind_ok check next passed]
    exact List.forall_mem_append.mpr ⟨first,others value⟩

@[simp] theorem pure_outcome (value : α) : (pure value : Check ε α).outcome = .ok value := rfl
@[simp] theorem pure_asked (value : α) : (pure value : Check ε α).asked = [] := rfl
@[simp] theorem pure_noted (value : α) : (pure value : Check ε α).noted = [] := rfl
@[simp] theorem note_outcome (event : Event) : (note event : Check ε Unit).outcome = .ok () := rfl

@[simp] theorem ask_outcome (question : Question) (answer : Except δ α) (wrap : δ → ε) :
    (ask question answer wrap).outcome = answer.mapError wrap := rfl

end Check

def ConstructionSettings.compiled (construction : ConstructionSettings) (path : String)
    (workflows : List Workflow) : ConstructionSettings :=
  {construction with workflows := workflows,constructorDslFile := none,compiledFrom := some path}

@[simp] theorem ConstructionSettings.compiled_workflows (construction : ConstructionSettings) (path : String)
    (output : List Workflow) : (construction.compiled path output).workflows = output := rfl

@[simp] theorem ConstructionSettings.compiled_accounts (construction : ConstructionSettings) (path : String)
    (output : List Workflow) :
    (construction.compiled path output).prefundedAccounts = construction.prefundedAccounts := rfl

-- Every way to settle where the workflows come from, with all it asks and notes.
inductive ConstructionSettings.Settles (compiler : Compiler) (construction : ConstructionSettings) :
    Check ConstructionFailure ConstructionSettings → Prop where
  | conflict (inline : construction.workflows ≠ []) (pending : construction.dslFile = some path) :
      Settles compiler construction ⟨.error .sourceConflict,[],[]⟩
  | missing (empty : construction.workflows = []) (idle : construction.dslFile = none) :
      Settles compiler construction ⟨.error .sourceMissing,[],[]⟩
  | inline (inline : construction.workflows ≠ []) (idle : construction.dslFile = none) :
      Settles compiler construction ⟨.ok construction,[],[]⟩
  | refused (empty : construction.workflows = []) (pending : construction.dslFile = some path)
      (answer : compiler.compile path = .error reason) :
      Settles compiler construction ⟨.error (.compilation path reason),[.compile path],[]⟩
  | compiled (empty : construction.workflows = []) (pending : construction.dslFile = some path)
      (answer : compiler.compile path = .ok output) :
      Settles compiler construction ⟨.ok (construction.compiled path output),[.compile path],
        [.compiled path output.length]⟩

theorem ConstructionSettings.settle_complete {compiler : Compiler} {construction : ConstructionSettings}
    (course : construction.Settles compiler check) : construction.settle compiler = check := by
  unfold settle
  cases course with
  | conflict inline pending =>
    have filled : construction.workflows.isEmpty = false := by simpa using inline
    simp [filled,pending,Check.fail]
  | missing empty idle => simp [empty,idle,Check.fail]
  | inline inline idle =>
    have filled : construction.workflows.isEmpty = false := by simpa using inline
    simp [filled,idle,Check.pure]
  | refused empty pending answer =>
    simp [empty,pending,answer,Check.ask,bind,Check.bind]
  | compiled empty pending answer =>
    simp [empty,pending,answer,Check.ask,Check.note,bind,Check.bind,compiled]

theorem ConstructionSettings.settle_settles (compiler : Compiler) (construction : ConstructionSettings) :
    construction.Settles compiler (construction.settle compiler) := by
  have actual : ∀ {check},construction.Settles compiler check →
      construction.Settles compiler (construction.settle compiler) := by
    intro check course
    rwa [settle_complete course]
  cases workflows : construction.workflows with
  | nil =>
    cases file : construction.dslFile with
    | none => exact actual (.missing workflows file)
    | some path =>
      cases answer : compiler.compile path with
      | error reason => exact actual (.refused workflows file answer)
      | ok output => exact actual (.compiled workflows file answer)
  | cons workflow rest =>
    have inline : construction.workflows ≠ [] := by simp [workflows]
    cases file : construction.dslFile with
    | none => exact actual (.inline inline file)
    | some path => exact actual (.conflict inline file)

theorem ConstructionSettings.settle_accounts {compiler : Compiler} {before after : ConstructionSettings}
    (settled : (before.settle compiler).outcome = .ok after) : after.prefundedAccounts = before.prefundedAccounts := by
  have course := before.settle_settles compiler
  generalize before.settle compiler = check at course settled
  cases course with
  | conflict | missing | refused => cases settled
  | inline | compiled => cases settled; rfl

def Question.judged (question : Question) : Prop := ∀ path,question ≠ .compile path

def PrefundedAccount.questions (funded : PrefundedAccount) : List Question :=
  [.curve funded.curve,.account funded.account,.currency funded.currency]

-- Every course the check of a prefunded account can take.
inductive PrefundedAccount.Validates (asserter : Asserter) (funded : PrefundedAccount) :
    Check AccountFailure Unit → Prop where
  | key (flawed : Text.Hexadecimal.flaw? funded.privateKey = some flaw) :
      Validates asserter funded ⟨.error (.keyNotHex flaw),[],[]⟩
  | curve (hex : Text.Hexadecimal.flaw? funded.privateKey = none)
      (curve : asserter.curve funded.curve = .error objection) :
      Validates asserter funded ⟨.error (.curve objection),[.curve funded.curve],[]⟩
  | account (hex : Text.Hexadecimal.flaw? funded.privateKey = none)
      (curve : asserter.curve funded.curve = .ok ()) (account : asserter.account funded.account = .error objection) :
      Validates asserter funded ⟨.error (.account objection),[.curve funded.curve,.account funded.account],[]⟩
  | currency (hex : Text.Hexadecimal.flaw? funded.privateKey = none)
      (curve : asserter.curve funded.curve = .ok ()) (account : asserter.account funded.account = .ok ())
      (currency : asserter.currency funded.currency = .error objection) :
      Validates asserter funded ⟨.error (.currency objection),funded.questions,[]⟩
  | sound (hex : Text.Hexadecimal.flaw? funded.privateKey = none)
      (curve : asserter.curve funded.curve = .ok ()) (account : asserter.account funded.account = .ok ())
      (currency : asserter.currency funded.currency = .ok ()) :
      Validates asserter funded ⟨.ok (),funded.questions,[]⟩

theorem PrefundedAccount.validate_complete {asserter : Asserter} {funded : PrefundedAccount}
    (course : funded.Validates asserter check) : funded.validate asserter = check := by
  unfold validate
  cases course with
  | key flawed => simp [flawed,Check.fail,bind,Check.bind]
  | curve hex curve => simp [hex,curve,Check.ask,bind,Check.bind]
  | account hex curve account => simp [hex,curve,account,Check.ask,bind,Check.bind]
  | currency hex curve account currency =>
    simp [hex,curve,account,currency,questions,Check.ask,bind,Check.bind]
  | sound hex curve account currency =>
    simp [hex,curve,account,currency,questions,Check.ask,bind,Check.bind]

theorem PrefundedAccount.validate_validates (asserter : Asserter) (funded : PrefundedAccount) :
    funded.Validates asserter (funded.validate asserter) := by
  have actual : ∀ {check},funded.Validates asserter check → funded.Validates asserter (funded.validate asserter) := by
    intro check course
    rwa [validate_complete course]
  cases hex : Text.Hexadecimal.flaw? funded.privateKey with
  | some flaw => exact actual (.key hex)
  | none =>
    cases curve : asserter.curve funded.curve with
    | error objection => exact actual (.curve hex curve)
    | ok =>
      cases account : asserter.account funded.account with
      | error objection => exact actual (.account hex curve account)
      | ok =>
        cases currency : asserter.currency funded.currency with
        | error objection => exact actual (.currency hex curve account currency)
        | ok => exact actual (.sound hex curve account currency)

theorem PrefundedAccount.validate_asked (asserter : Asserter) (funded : PrefundedAccount) :
    ∀ question ∈ (funded.validate asserter).asked,question.judged := by
  have course := funded.validate_validates asserter
  generalize funded.validate asserter = check at course ⊢
  cases course <;> simp [questions,Question.judged]

theorem ConstructionSettings.checkAccounts_asked (asserter : Asserter) (accounts : List PrefundedAccount) (start : Nat) :
    ∀ question ∈ (checkAccounts asserter start accounts).asked,question.judged := by
  induction accounts generalizing start with
  | nil => rintro question ⟨⟩
  | cons funded rest ih => exact Check.bind_asked (funded.validate_asked asserter) fun _ => ih (start + 1)

namespace ConstructionSettings

-- The accounts are checked one after the other, up to the first that is refused.
inductive Checks (asserter : Asserter) (start : Nat) (accounts : List PrefundedAccount) :
    Check ConstructionFailure Unit → Prop where
  | sound (all : ∀ funded ∈ accounts,funded.Validates asserter ⟨.ok (),funded.questions,[]⟩) :
      Checks asserter start accounts ⟨.ok (),accounts.flatMap PrefundedAccount.questions,[]⟩
  | refused (split : accounts = before ++ funded :: rest)
      (sound : ∀ earlier ∈ before,earlier.Validates asserter ⟨.ok (),earlier.questions,[]⟩)
      (violated : funded.Validates asserter ⟨.error reason,asked,[]⟩) :
      Checks asserter start accounts ⟨.error (.prefundedAccount (start + before.length) reason),
        before.flatMap PrefundedAccount.questions ++ asked,[]⟩

theorem checkAccounts_checks (asserter : Asserter) (start : Nat) (accounts : List PrefundedAccount) :
    Checks asserter start accounts (checkAccounts asserter start accounts) := by
  induction accounts generalizing start with
  | nil => exact .sound nofun
  | cons funded rest ih =>
    have course := funded.validate_validates asserter
    unfold checkAccounts
    generalize funded.validate asserter = check at course ⊢
    have failed : ∀ {reason asked},funded.Validates asserter ⟨.error reason,asked,[]⟩ →
        Checks asserter start (funded :: rest) ⟨.error (.prefundedAccount start reason),asked,[]⟩ :=
      fun course => .refused (show funded :: rest = [] ++ funded :: rest from rfl) nofun course
    cases course with
    | key hex => exact failed (.key hex)
    | curve hex curve => exact failed (.curve hex curve)
    | account hex curve account => exact failed (.account hex curve account)
    | currency hex curve account currency => exact failed (.currency hex curve account currency)
    | sound hex curve account currency =>
      have first := PrefundedAccount.Validates.sound hex curve account currency
      have others := ih (start + 1)
      generalize checkAccounts asserter (start + 1) rest = check at others ⊢
      cases others with
      | sound all => exact .sound (List.forall_mem_cons.mpr ⟨first,all⟩)
      | @refused before refused behind reason asked split sound violated =>
        have whole : funded :: rest = (funded :: before) ++ refused :: behind := congrArg (funded :: ·) split
        have course : Checks asserter start (funded :: rest) _ :=
          .refused whole (List.forall_mem_cons.mpr ⟨first,sound⟩) violated
        have place : start + (funded :: before).length = start + 1 + before.length := by
          rw [List.length_cons]
          omega
        rw [place,List.flatMap_cons,List.append_assoc] at course
        exact course

end ConstructionSettings

theorem ConstructionSettings.inspect_asked (asserter : Asserter) (construction : ConstructionSettings) :
    ∀ question ∈ (construction.inspect asserter).asked,question.judged := by
  refine Check.bind_asked ?_ fun _ => checkAccounts_asked asserter construction.prefundedAccounts 0
  rintro question ⟨⟩

-- Every course a validation can take, by how far it comes, with the configuration
-- it leaves behind.
inductive Configuration.Validates (collaborators : Collaborators) (configuration : Configuration) :
    Validation → Prop where
  | network (answer : collaborators.asserter.network configuration.network = .error objection) :
      Validates collaborators configuration
        ⟨⟨.error (.network objection),[.network configuration.network],[]⟩,configuration⟩
  | data (accepted : collaborators.asserter.network configuration.network = .ok ())
      (violated : configuration.data.validate = .error reason) :
      Validates collaborators configuration
        ⟨⟨.error (.data reason),[.network configuration.network],[]⟩,configuration⟩
  | bare (accepted : collaborators.asserter.network configuration.network = .ok ())
      (sound : configuration.data.validate = .ok ()) (absent : configuration.construction = none) :
      Validates collaborators configuration
        ⟨⟨.ok (),[.network configuration.network],[]⟩,configuration⟩
  | unsettled (accepted : collaborators.asserter.network configuration.network = .ok ())
      (sound : configuration.data.validate = .ok ())
      (present : configuration.construction = some before)
      (settled : before.settle collaborators.compiler = ⟨.error reason,asked,noted⟩) :
      Validates collaborators configuration
        ⟨⟨.error (.construction reason),.network configuration.network :: asked,noted⟩,configuration⟩
  | inspected (accepted : collaborators.asserter.network configuration.network = .ok ())
      (sound : configuration.data.validate = .ok ())
      (present : configuration.construction = some before)
      (settled : before.settle collaborators.compiler = ⟨.ok after,asked,noted⟩) :
      Validates collaborators configuration
        ⟨⟨(after.inspect collaborators.asserter).outcome.mapError .construction,
          .network configuration.network :: (asked ++ (after.inspect collaborators.asserter).asked),
          noted ++ (after.inspect collaborators.asserter).noted⟩,
          {configuration with construction := some after}⟩

theorem Configuration.validate_complete {collaborators : Collaborators} {configuration : Configuration}
    (course : configuration.Validates collaborators validation) :
    configuration.validate collaborators = validation := by
  unfold validate settle
  cases course with
  | network answer => simp [answer,Check.ask,bind,Check.bind]
  | data accepted violated => simp [accepted,violated,Check.ask,bind,Check.bind]
  | bare accepted sound absent =>
    simp [accepted,sound,absent,Check.ask,bind,Check.bind,Check.pure,inspect]
  | unsettled accepted sound present settled =>
    simp [accepted,sound,present,settled,Check.ask,bind,Check.bind,Check.within]
  | inspected accepted sound present settled =>
    simp [accepted,sound,present,settled,Check.ask,bind,Check.bind,Check.within,inspect]

theorem Configuration.validate_validates (collaborators : Collaborators) (configuration : Configuration) :
    configuration.Validates collaborators (configuration.validate collaborators) := by
  have actual : ∀ {validation},configuration.Validates collaborators validation →
      configuration.Validates collaborators (configuration.validate collaborators) := by
    intro validation course
    rwa [validate_complete course]
  cases answer : collaborators.asserter.network configuration.network with
  | error objection => exact actual (.network answer)
  | ok accepted =>
    cases checked : configuration.data.validate with
    | error reason => exact actual (.data answer checked)
    | ok sound =>
      cases held : configuration.construction with
      | none => exact actual (.bare answer checked held)
      | some before =>
        rcases settled : before.settle collaborators.compiler with ⟨_ | after,asked,noted⟩
        · exact actual (.unsettled answer checked held settled)
        · exact actual (.inspected answer checked held settled)

theorem Configuration.validate_sound {configuration : Configuration} {collaborators : Collaborators}
    (accepted : (configuration.validate collaborators).course.outcome = .ok ()) :
    collaborators.asserter.network configuration.network = .ok () ∧ configuration.data.validate = .ok () := by
  have course := configuration.validate_validates collaborators
  generalize configuration.validate collaborators = validation at course accepted
  cases course with
  | network | data | unsettled => cases accepted
  | bare answer sound | inspected answer sound => exact ⟨answer,sound⟩

-- What an accepted validation has been through, and what it did to the construction
-- section.
theorem Configuration.validate_accepted {collaborators : Collaborators} {configuration : Configuration}
    (accepted : (configuration.validate collaborators).course.outcome = .ok ()) :
    (configuration.construction = none ∧ (configuration.validate collaborators).configuration = configuration) ∨
    ∃ before after,configuration.construction = some before ∧
      (before.settle collaborators.compiler).outcome = .ok after ∧
      (after.inspect collaborators.asserter).outcome = .ok () ∧
      (configuration.validate collaborators).configuration = {configuration with construction := some after} := by
  have course := configuration.validate_validates collaborators
  generalize configuration.validate collaborators = validation at course accepted ⊢
  cases course with
  | network => cases accepted
  | data => cases accepted
  | bare _ _ absent => exact .inl ⟨absent,rfl⟩
  | unsettled => cases accepted
  | inspected _ _ present settled =>
    exact .inr ⟨_,_,present,by rw [settled],mapError_ok.mp accepted,rfl⟩

theorem Configuration.settled_construction {collaborators : Collaborators} {configuration : Configuration}
    {after : ConstructionSettings} (accepted : (configuration.validate collaborators).course.outcome = .ok ())
    (present : (configuration.validate collaborators).configuration.construction = some after) :
    ∃ before,configuration.construction = some before ∧ (before.settle collaborators.compiler).outcome = .ok after := by
  rcases validate_accepted accepted with ⟨absent,same⟩ | ⟨before,_,held,settled,-,same⟩
  · rw [same,absent] at present
    cases present
  · rw [same] at present
    cases present
    exact ⟨before,held,settled⟩

theorem Configuration.validate_absent {collaborators : Collaborators} {configuration : Configuration}
    (accepted : (configuration.validate collaborators).course.outcome = .ok ()) :
    (configuration.validate collaborators).configuration.construction = none ↔ configuration.construction = none := by
  rcases validate_accepted accepted with ⟨-,same⟩ | ⟨before,after,held,-,-,same⟩
  · rw [same]
  · rw [same,held]
    exact iff_of_false nofun nofun

theorem Configuration.validate_kept (collaborators : Collaborators) (configuration : Configuration) :
    (configuration.validate collaborators).configuration = {configuration with
      construction := (configuration.validate collaborators).configuration.construction} := by
  have course := configuration.validate_validates collaborators
  generalize configuration.validate collaborators = validation at course ⊢
  cases course <;> rfl

end LedgerSettings
