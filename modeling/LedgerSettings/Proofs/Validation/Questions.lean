import LedgerSettings.Proofs.Validation.Course

namespace LedgerSettings

-- The file a construction section leaves to be compiled, where it has no workflows
-- of its own.
def ConstructionSettings.pending? (construction : ConstructionSettings) : Option String :=
  if construction.workflows.isEmpty then construction.dslFile else none

-- Whether a failure is a collaborator's answer or a rule that nobody is asked about.
def ValidationFailure.answered : ValidationFailure → Bool
  | .network _ | .construction (.compilation ..) => true
  | .construction (.prefundedAccount _ (.keyNotHex _)) => false
  | .construction (.prefundedAccount ..) => true
  | .data _ | .construction .sourceConflict | .construction .sourceMissing
  | .construction (.reservedConcurrency ..) => false

-- How many of the questions about an account have been asked by the time this is
-- found.
def AccountFailure.reach : AccountFailure → Nat
  | .keyNotHex _ => 0
  | .curve _ => 1
  | .account _ => 2
  | .currency _ => 3

namespace Configuration

-- What comes before the accounts: the network, then the compile of a pending file.
def opening (configuration : Configuration) : List Question :=
  .network configuration.network ::
    ((configuration.construction.bind ConstructionSettings.pending?).map Question.compile).toList

def accounts (configuration : Configuration) : List PrefundedAccount :=
  (configuration.construction.map ConstructionSettings.prefundedAccounts).getD []

def questions (configuration : Configuration) : List Question :=
  configuration.opening ++ configuration.accounts.flatMap PrefundedAccount.questions

-- What a validation has asked by the time it fails: where an answer is the failure,
-- everything up to that question, and where a rule is broken, what comes before it.
def questionsUntil (configuration : Configuration) : ValidationFailure → List Question
  | .network _ | .data _ | .construction .sourceConflict | .construction .sourceMissing =>
    [.network configuration.network]
  | .construction (.compilation path _) => [.network configuration.network,.compile path]
  | .construction (.reservedConcurrency ..) => configuration.opening
  | .construction (.prefundedAccount index reason) =>
    configuration.opening ++ (configuration.accounts.take index).flatMap PrefundedAccount.questions
      ++ ((configuration.accounts[index]?).map PrefundedAccount.questions |>.getD []).take reason.reach

end Configuration

namespace Collaborators

def Grants (collaborators : Collaborators) : Question → Prop
  | .network network => collaborators.asserter.network network = .ok ()
  | .compile path => ∃ output,collaborators.compiler.compile path = .ok output
  | .curve curve => collaborators.asserter.curve curve = .ok ()
  | .account account => collaborators.asserter.account account = .ok ()
  | .currency currency => collaborators.asserter.currency currency = .ok ()

-- The failure that a question is answered with.
inductive Rejects (collaborators : Collaborators) : Question → ValidationFailure → Prop where
  | network (answer : collaborators.asserter.network network = .error objection) :
      Rejects collaborators (.network network) (.network objection)
  | compile (answer : collaborators.compiler.compile path = .error reason) :
      Rejects collaborators (.compile path) (.construction (.compilation path reason))
  | curve (answer : collaborators.asserter.curve curve = .error objection) :
      Rejects collaborators (.curve curve) (.construction (.prefundedAccount index (.curve objection)))
  | account (answer : collaborators.asserter.account account = .error objection) :
      Rejects collaborators (.account account) (.construction (.prefundedAccount index (.account objection)))
  | currency (answer : collaborators.asserter.currency currency = .error objection) :
      Rejects collaborators (.currency currency) (.construction (.prefundedAccount index (.currency objection)))

def Agree (first second : Collaborators) : Question → Prop
  | .network network => second.asserter.network network = first.asserter.network network
  | .compile path => second.compiler.compile path = first.compiler.compile path
  | .curve curve => second.asserter.curve curve = first.asserter.curve curve
  | .account account => second.asserter.account account = first.asserter.account account
  | .currency currency => second.asserter.currency currency = first.asserter.currency currency

-- The questions of a failed validation end where it failed: the last one is
-- answered with the failure, or all are granted and a rule is broken.
structure Ends (collaborators : Collaborators) (asked : List Question) (reason : ValidationFailure) : Prop where
  answered : reason.answered = true → ∃ before question,asked = before ++ [question] ∧
    (∀ earlier ∈ before,collaborators.Grants earlier) ∧ collaborators.Rejects question reason
  broken : reason.answered = false → ∀ question ∈ asked,collaborators.Grants question

theorem Ends.rejected {collaborators : Collaborators} (before : List Question)
    (granted : ∀ earlier ∈ before,collaborators.Grants earlier) (rejects : collaborators.Rejects question reason) :
    collaborators.Ends (before ++ [question]) reason := by
  refine ⟨fun _ => ⟨before,question,rfl,granted,rejects⟩,fun rule => ?_⟩
  cases rejects <;> cases rule

theorem Ends.rule {collaborators : Collaborators} (rule : reason.answered = false)
    (granted : ∀ question ∈ asked,collaborators.Grants question) : collaborators.Ends asked reason :=
  ⟨fun answered => absurd answered (by simp [rule]),fun _ => granted⟩

theorem Ends.behind {collaborators : Collaborators} (ends : collaborators.Ends asked reason)
    (earlier : List Question) (granted : ∀ question ∈ earlier,collaborators.Grants question) :
    collaborators.Ends (earlier ++ asked) reason := by
  constructor
  · intro answered
    obtain ⟨before,question,rfl,allowed,rejects⟩ := ends.answered answered
    exact ⟨earlier ++ before,question,(List.append_assoc ..).symm,List.forall_mem_append.mpr ⟨granted,allowed⟩,rejects⟩
  · intro rule
    exact List.forall_mem_append.mpr ⟨granted,ends.broken rule⟩

end Collaborators

namespace PrefundedAccount

theorem sound_granted {collaborators : Collaborators} {funded : PrefundedAccount}
    (sound : funded.Validates collaborators.asserter ⟨.ok (),asked,noted⟩) :
    asked = funded.questions ∧ ∀ question ∈ funded.questions,collaborators.Grants question := by
  cases sound with
  | sound hex curve account currency =>
    refine ⟨rfl,?_⟩
    simp only [questions,List.forall_mem_cons,List.not_mem_nil,false_implies,implies_true,and_true]
    exact ⟨curve,account,currency⟩

theorem refused_reach {asserter : Asserter} {funded : PrefundedAccount}
    (refused : funded.Validates asserter ⟨.error reason,asked,noted⟩) : asked = funded.questions.take reason.reach := by
  cases refused <;> rfl

theorem refused_ends {collaborators : Collaborators} {funded : PrefundedAccount} (index : Nat)
    (refused : funded.Validates collaborators.asserter ⟨.error reason,asked,noted⟩) :
    collaborators.Ends asked (.construction (.prefundedAccount index reason)) := by
  cases refused with
  | key flawed => exact .rule rfl nofun
  | curve hex curve => exact .rejected [] nofun (.curve curve)
  | account hex curve account =>
    exact .rejected [.curve funded.curve] (List.forall_mem_singleton.mpr curve) (.account account)
  | currency hex curve account currency =>
    refine .rejected [.curve funded.curve,.account funded.account] ?_ (.currency currency)
    exact List.forall_mem_cons.mpr ⟨curve,List.forall_mem_singleton.mpr account⟩

end PrefundedAccount

namespace ConstructionSettings

theorem checkReserved_error {workflows : List Workflow} (broken : checkReserved workflows = .error reason) :
    ∃ name concurrency,reason = .reservedConcurrency name concurrency := by
  induction workflows with
  | nil => cases broken
  | cons workflow rest ih =>
    unfold checkReserved at broken
    split at broken
    · cases broken
      exact ⟨_,_,rfl⟩
    · exact ih broken

theorem inspect_reserved {construction : ConstructionSettings} (asserter : Asserter)
    (broken : checkReserved construction.workflows = .error reason) :
    construction.inspect asserter = ⟨.error reason,[],[]⟩ := by
  unfold inspect
  rw [Check.bind_error _ _ broken]

theorem inspect_accounts {construction : ConstructionSettings} (asserter : Asserter)
    (kept : checkReserved construction.workflows = .ok ()) :
    construction.inspect asserter = checkAccounts asserter 0 construction.prefundedAccounts := by
  unfold inspect
  rw [Check.bind_ok _ _ kept]
  rfl

theorem settle_asked {compiler : Compiler} {construction : ConstructionSettings}
    (settled : construction.settle compiler = ⟨outcome,asked,noted⟩) :
    asked = (construction.pending?.map Question.compile).toList := by
  have course := construction.settle_settles compiler
  rw [settled] at course
  unfold pending?
  cases course with
  | conflict inline pending | inline inline pending => simp [inline]
  | missing empty pending | refused empty pending | compiled empty pending => simp [empty,pending]

theorem settle_granted {collaborators : Collaborators} {construction after : ConstructionSettings}
    (settled : construction.settle collaborators.compiler = ⟨.ok after,asked,noted⟩) :
    ∀ question ∈ asked,collaborators.Grants question := by
  have course := construction.settle_settles collaborators.compiler
  rw [settled] at course
  cases course with
  | inline => nofun
  | compiled empty pending answer => exact List.forall_mem_singleton.mpr ⟨_,answer⟩

theorem settle_ends {collaborators : Collaborators} {construction : ConstructionSettings}
    (settled : construction.settle collaborators.compiler = ⟨.error reason,asked,noted⟩) :
    collaborators.Ends asked (.construction reason) := by
  have course := construction.settle_settles collaborators.compiler
  rw [settled] at course
  cases course with
  | conflict | missing => exact .rule rfl nofun
  | refused empty pending answer => exact .rejected [] nofun (.compile answer)

theorem sound_accounts {collaborators : Collaborators} {accounts : List PrefundedAccount}
    (sound : ∀ funded ∈ accounts,funded.Validates collaborators.asserter ⟨.ok (),funded.questions,[]⟩) :
    ∀ question ∈ accounts.flatMap PrefundedAccount.questions,collaborators.Grants question := by
  intro question member
  obtain ⟨funded,listed,asked⟩ := List.mem_flatMap.mp member
  exact (PrefundedAccount.sound_granted (sound funded listed)).2 question asked

end ConstructionSettings

namespace Configuration

-- A validation asks its questions in order, and it ends where one of them is
-- answered with a failure or a rule between them is broken.
structure InOrder (collaborators : Collaborators) (configuration : Configuration)
    (course : Check ValidationFailure Unit) : Prop where
  leading : course.asked <+: configuration.questions
  passed : course.outcome = .ok () → course.asked = configuration.questions
  failed : ∀ reason,course.outcome = .error reason →
    course.asked = configuration.questionsUntil reason ∧ collaborators.Ends course.asked reason

theorem opening_present {configuration : Configuration} {construction : ConstructionSettings}
    (present : configuration.construction = some construction) :
    configuration.opening = .network configuration.network :: (construction.pending?.map Question.compile).toList := by
  rw [opening,present,Option.bind_some]

theorem accounts_present {configuration : Configuration} {construction : ConstructionSettings}
    (present : configuration.construction = some construction) :
    configuration.accounts = construction.prefundedAccounts := by
  rw [accounts,present,Option.map_some,Option.getD_some]

theorem settle_until {configuration : Configuration} {construction : ConstructionSettings}
    (settled : construction.settle compiler = ⟨.error reason,asked,noted⟩) :
    configuration.questionsUntil (.construction reason) = .network configuration.network :: asked := by
  have course := construction.settle_settles compiler
  rw [settled] at course
  cases course <;> rfl

theorem inspect_inOrder {collaborators : Collaborators} {configuration : Configuration}
    {after : ConstructionSettings} (accounts : after.prefundedAccounts = configuration.accounts)
    (granted : ∀ question ∈ configuration.opening,collaborators.Grants question) :
    configuration.InOrder collaborators ⟨(after.inspect collaborators.asserter).outcome.mapError .construction,
      configuration.opening ++ (after.inspect collaborators.asserter).asked,noted⟩ := by
  cases reserved : ConstructionSettings.checkReserved after.workflows with
  | error reason =>
    obtain ⟨name,concurrency,rfl⟩ := ConstructionSettings.checkReserved_error reserved
    rw [ConstructionSettings.inspect_reserved collaborators.asserter reserved,List.append_nil]
    refine ⟨List.prefix_append _ _,nofun,?_⟩
    rintro _ ⟨⟩
    exact ⟨rfl,.rule rfl granted⟩
  | ok =>
    rw [ConstructionSettings.inspect_accounts collaborators.asserter reserved]
    have course := ConstructionSettings.checkAccounts_checks collaborators.asserter 0 after.prefundedAccounts
    generalize ConstructionSettings.checkAccounts collaborators.asserter 0 after.prefundedAccounts = check at course ⊢
    rw [accounts] at course
    cases course with
    | sound all => exact ⟨List.prefix_rfl,fun _ => rfl,nofun⟩
    | @refused earlier funded rest reason asked split sound violated =>
      have reach := PrefundedAccount.refused_reach violated
      have behind := ConstructionSettings.sound_accounts sound
      refine ⟨?_,nofun,?_⟩
      · rw [questions,split,List.flatMap_append,List.flatMap_cons,reach]
        refine List.prefix_append_right_inj _ |>.mpr (List.prefix_append_right_inj _ |>.mpr ?_)
        exact (List.take_prefix _ _).trans (List.prefix_append _ _)
      · rintro _ ⟨⟩
        refine ⟨?_,.behind (.behind (PrefundedAccount.refused_ends _ violated) _ behind) _ granted⟩
        simp [questionsUntil,split,reach]

theorem validate_inOrder (collaborators : Collaborators) (configuration : Configuration) :
    configuration.InOrder collaborators (configuration.validate collaborators).course := by
  have course := configuration.validate_validates collaborators
  generalize configuration.validate collaborators = validation at course ⊢
  have network : [.network configuration.network] <+: configuration.questions := ⟨_,rfl⟩
  cases course with
  | network answer =>
    refine ⟨network,nofun,?_⟩
    rintro _ ⟨⟩
    exact ⟨rfl,.rejected [] nofun (.network answer)⟩
  | data accepted violated =>
    refine ⟨network,nofun,?_⟩
    rintro _ ⟨⟩
    exact ⟨rfl,.rule rfl (List.forall_mem_singleton.mpr accepted)⟩
  | bare accepted sound absent =>
    have all : configuration.questions = [.network configuration.network] := by
      simp [questions,opening,accounts,absent]
    exact ⟨network,fun _ => all.symm,nofun⟩
  | @unsettled before reason asked noted accepted sound present settled =>
    have opening : configuration.opening = .network configuration.network :: asked := by
      rw [opening_present present,ConstructionSettings.settle_asked settled]
    refine ⟨opening ▸ List.prefix_append _ _,nofun,?_⟩
    rintro _ ⟨⟩
    exact ⟨(settle_until settled).symm,
      .behind (ConstructionSettings.settle_ends settled) [.network configuration.network]
        (List.forall_mem_singleton.mpr accepted)⟩
  | @inspected before after asked noted accepted sound present settled =>
    have opening : configuration.opening = .network configuration.network :: asked := by
      rw [opening_present present,ConstructionSettings.settle_asked settled]
    have accounts : after.prefundedAccounts = configuration.accounts := by
      rw [accounts_present present]
      exact ConstructionSettings.settle_accounts (by rw [settled])
    have granted : ∀ question ∈ configuration.opening,collaborators.Grants question := by
      rw [opening]
      exact List.forall_mem_cons.mpr ⟨accepted,ConstructionSettings.settle_granted settled⟩
    show configuration.InOrder collaborators ⟨_,(.network configuration.network :: asked) ++ _,_⟩
    rw [← opening]
    exact inspect_inOrder accounts granted

end Configuration

-- What a consultation gives depends on nothing but the answers to what it asks.
def Determined (consult : Collaborators → Check ε α) : Prop :=
  ∀ first second,(∀ question ∈ (consult first).asked,first.Agree second question) → consult second = consult first

theorem Check.asked_first {check : Check ε α} {next : α → Check ε β} (asked : question ∈ check.asked) :
    question ∈ (check >>= next).asked := by
  cases passed : check.outcome with
  | error reason => rwa [bind_error check next passed]
  | ok value =>
    rw [bind_ok check next passed]
    exact List.mem_append_left _ asked

namespace Determined

theorem constant (check : Check ε α) : Determined fun _ => check := fun _ _ _ => rfl

theorem ask (question : Question) (answer : Collaborators → Except δ α) (wrap : δ → ε)
    (same : ∀ first second,first.Agree second question → answer second = answer first) :
    Determined fun collaborators => Check.ask question (answer collaborators) wrap := by
  intro first second agree
  dsimp only
  rw [same first second (agree question (List.mem_singleton_self question))]

theorem within {consult : Collaborators → Check δ α} (determined : Determined consult) (wrap : δ → ε) :
    Determined fun collaborators => (consult collaborators).within wrap := by
  intro first second agree
  have same : consult second = consult first := determined first second agree
  dsimp only
  rw [same]

theorem bind {consult : Collaborators → Check ε α} {next : α → Collaborators → Check ε β}
    (determined : Determined consult) (others : ∀ value,Determined (next value)) :
    Determined fun collaborators => consult collaborators >>= fun value => next value collaborators := by
  intro first second agree
  dsimp only at agree ⊢
  cases passed : (consult first).outcome with
  | error reason =>
    rw [Check.bind_error _ _ passed] at agree
    have same : consult second = consult first := determined first second agree
    rw [same,Check.bind_error _ _ passed,Check.bind_error _ _ passed]
  | ok value =>
    rw [Check.bind_ok _ _ passed] at agree
    obtain ⟨before,behind⟩ := List.forall_mem_append.mp agree
    have same : consult second = consult first := determined first second before
    have later : next value second = next value first := others value first second behind
    rw [same,Check.bind_ok _ _ passed,Check.bind_ok _ _ passed,later]

end Determined

theorem PrefundedAccount.validate_determined (funded : PrefundedAccount) :
    Determined fun collaborators => funded.validate collaborators.asserter := by
  have rest : Determined fun collaborators => (do
      Check.ask (.curve funded.curve) (collaborators.asserter.curve funded.curve) AccountFailure.curve
      Check.ask (.account funded.account) (collaborators.asserter.account funded.account) .account
      Check.ask (.currency funded.currency) (collaborators.asserter.currency funded.currency) .currency) :=
    .bind (.ask _ _ _ fun _ _ => id) fun _ => .bind (.ask _ _ _ fun _ _ => id) fun _ => .ask _ _ _ fun _ _ => id
  unfold validate
  cases Text.Hexadecimal.flaw? funded.privateKey with
  | some flaw => exact .bind (.constant _) fun _ => rest
  | none => exact rest

namespace ConstructionSettings

theorem checkAccounts_determined (accounts : List PrefundedAccount) (start : Nat) :
    Determined fun collaborators => checkAccounts collaborators.asserter start accounts := by
  induction accounts generalizing start with
  | nil => exact .constant _
  | cons funded rest ih => exact .bind (funded.validate_determined.within _) fun _ => ih (start + 1)

theorem inspect_determined (construction : ConstructionSettings) :
    Determined fun collaborators => construction.inspect collaborators.asserter :=
  .bind (.constant _) fun _ => checkAccounts_determined construction.prefundedAccounts 0

theorem settle_determined (construction : ConstructionSettings) :
    Determined fun collaborators => construction.settle collaborators.compiler := by
  unfold settle
  cases construction.workflows.isEmpty with
  | false => cases construction.dslFile <;> exact .constant _
  | true =>
    cases construction.dslFile with
    | none => exact .constant _
    | some path => exact .bind (.ask _ _ _ fun _ _ => id) fun _ => .constant _

end ConstructionSettings

namespace Configuration

theorem settle_determined (configuration : Configuration) :
    Determined fun collaborators => configuration.settle collaborators := by
  unfold settle
  refine .bind (.ask _ _ _ fun _ _ => id) fun _ => .bind (.constant _) fun _ => ?_
  cases configuration.construction with
  | none => exact .constant _
  | some construction => exact .bind (construction.settle_determined.within _) fun _ => .constant _

theorem inspect_determined (configuration : Configuration) :
    Determined fun collaborators => configuration.inspect collaborators.asserter := by
  unfold inspect
  cases configuration.construction with
  | none => exact .constant _
  | some construction => exact construction.inspect_determined.within _

theorem validate_course (collaborators : Collaborators) (configuration : Configuration) :
    (configuration.validate collaborators).course =
      configuration.settle collaborators >>= fun next => next.inspect collaborators.asserter := by
  unfold validate
  dsimp only
  cases settled : (configuration.settle collaborators).outcome with
  | error reason => rw [Check.bind_error _ _ settled]
  | ok next => rfl

theorem validate_left (collaborators : Collaborators) (configuration : Configuration) :
    (configuration.validate collaborators).configuration =
      (configuration.settle collaborators).outcome.toOption.getD configuration := by
  unfold validate
  dsimp only
  cases (configuration.settle collaborators).outcome <;> rfl

theorem validate_determined {configuration : Configuration} {first second : Collaborators}
    (agree : ∀ question ∈ (configuration.validate first).course.asked,first.Agree second question) :
    configuration.validate second = configuration.validate first := by
  rw [validate_course] at agree
  have settled : configuration.settle second = configuration.settle first :=
    configuration.settle_determined first second fun question asked => agree question (Check.asked_first asked)
  have course : (configuration.validate second).course = (configuration.validate first).course := by
    rw [validate_course,validate_course]
    exact configuration.settle_determined.bind inspect_determined first second agree
  have left : (configuration.validate second).configuration = (configuration.validate first).configuration := by
    rw [validate_left,validate_left,settled]
  exact congrArg₂ Validation.mk course left

-- What a validation asks is a leading part of what there is to ask: all of it where
-- the validation succeeds, everything up to the answer that made it fail, or
-- everything before the rule that is broken. Collaborators that give the same
-- answers to these questions are not told apart.
theorem asks_in_order (collaborators : Collaborators) (configuration : Configuration) :
    (configuration.validate collaborators).course.asked <+: configuration.questions ∧
    ((configuration.validate collaborators).course.outcome = .ok () →
      (configuration.validate collaborators).course.asked = configuration.questions) ∧
    (∀ reason,(configuration.validate collaborators).course.outcome = .error reason →
      (configuration.validate collaborators).course.asked = configuration.questionsUntil reason ∧
      (reason.answered = true → ∃ before question,
        (configuration.validate collaborators).course.asked = before ++ [question] ∧
        (∀ earlier ∈ before,collaborators.Grants earlier) ∧ collaborators.Rejects question reason) ∧
      (reason.answered = false → ∀ question ∈ (configuration.validate collaborators).course.asked,
        collaborators.Grants question)) ∧
    ∀ others,(∀ question ∈ (configuration.validate collaborators).course.asked,
        collaborators.Agree others question) →
      configuration.validate others = configuration.validate collaborators := by
  obtain ⟨leading,passed,failed⟩ := configuration.validate_inOrder collaborators
  refine ⟨leading,passed,fun reason refused => ?_,fun others => validate_determined⟩
  obtain ⟨asked,ends⟩ := failed reason refused
  exact ⟨asked,ends.answered,ends.broken⟩

end Configuration

end LedgerSettings
