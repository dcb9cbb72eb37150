import LedgerSettings.Proofs.Validation.Course
import LedgerSettings.Loading

namespace LedgerSettings

def violation (violated : Prop) [Decidable violated] (reason : ε) : Option ε :=
  if violated then some reason else none

def heldAgainst (answer : Except δ α) (wrap : δ → ε) : Option ε :=
  match answer with
  | .error reason => some (wrap reason)
  | .ok _ => none

-- Rules are looked at in order; the first violation is the outcome.
def verdict : List (Option ε) → Except ε Unit
  | [] => .ok ()
  | none :: rest => verdict rest
  | some reason :: _ => .error reason

theorem verdict_ok : verdict rules = .ok () ↔ ∀ rule ∈ rules,rule = none := by
  induction rules with
  | nil => simp [verdict]
  | cons rule rest ih => cases rule <;> simp [verdict,ih]

theorem verdict_error : verdict rules = .error reason ↔
    ∃ before after,rules = before ++ some reason :: after ∧ ∀ rule ∈ before,rule = none := by
  induction rules with
  | nil => simp [verdict]
  | cons rule rest ih =>
    cases rule with
    | none =>
      rw [verdict,ih]
      constructor
      · rintro ⟨before,after,rfl,clear⟩
        exact ⟨none :: before,after,rfl,by simpa using clear⟩
      · rintro ⟨before,after,split,clear⟩
        cases before with
        | nil => simp at split
        | cons head before =>
          obtain ⟨-,rfl⟩ := List.cons.inj split
          exact ⟨before,after,rfl,fun rule member => clear rule (List.mem_cons_of_mem _ member)⟩
    | some found =>
      rw [verdict]
      constructor
      · intro same
        cases same
        exact ⟨[],rest,rfl,by simp⟩
      · rintro ⟨before,after,split,clear⟩
        cases before with
        | nil => cases split; rfl
        | cons head before =>
          obtain ⟨rfl,-⟩ := List.cons.inj split
          simpa using clear (some found) List.mem_cons_self

theorem verdict_append (left right : List (Option ε)) :
    verdict (left ++ right) = verdict left >>= fun _ => verdict right := by
  induction left with
  | nil => rfl
  | cons rule rest ih =>
    cases rule with
    | none => simpa only [List.cons_append,verdict] using ih
    | some reason => rfl

theorem verdict_map (wrap : δ → ε) (rules : List (Option δ)) :
    verdict (rules.map (Option.map wrap)) = (verdict rules).mapError wrap := by
  induction rules with
  | nil => rfl
  | cons rule rest ih =>
    cases rule with
    | none => simpa only [List.map_cons,Option.map_none,verdict] using ih
    | some reason => rfl

-- The rules of each section, in the order they are looked at. Those about the
-- reconciliation coverage stand only where a coverage is asked for.
def DataSettings.coverageRules (data : DataSettings) (coverage : Float) : List (Option DataFailure) := [
  violation (¬(coverage.isFinite ∧ 0.0 ≤ coverage ∧ coverage ≤ 1.0)) (.coverageOutOfRange coverage),
  violation data.balanceTrackingDisabled .coverageNeedsBalanceTracking,
  violation data.ignoreReconciliationError .coverageNeedsReconciliationErrors,
  violation data.reconciliationDisabled .coverageNeedsReconciliation]

def DataSettings.rules (data : DataSettings) : List (Option DataFailure) :=
  [data.startIndex.bind fun index => violation (index.toInt < 0) (.negativeStart index),
    (data.endConditions.bind EndConditions.index).bind fun index =>
      violation (index.toInt < 0) (.negativeEnd index)]
  ++ match data.endConditions.bind EndConditions.reconciliationCoverage with
    | none => []
    | some coverage => data.coverageRules coverage

def PrefundedAccount.rules (asserter : Asserter) (funded : PrefundedAccount) : List (Option AccountFailure) := [
  (Text.Hexadecimal.flaw? funded.privateKey).map .keyNotHex,
  heldAgainst (asserter.curve funded.curve) .curve,
  heldAgainst (asserter.account funded.account) .account,
  heldAgainst (asserter.currency funded.currency) .currency]

def Workflow.rule (workflow : Workflow) : Option ConstructionFailure :=
  violation (workflow.isReserved ∧ workflow.concurrency ≠ Workflow.reservedConcurrency)
    (.reservedConcurrency workflow.name workflow.concurrency)

namespace ConstructionSettings

-- The workflows that count: the compiler's where a DSL file is pending.
def effectiveWorkflows (compiler : Compiler) (construction : ConstructionSettings) : List Workflow :=
  match construction.dslFile with
  | none => construction.workflows
  | some path => (compiler.compile path).toOption.getD []

-- Exactly one source of workflows: the first two rules are its two ways to fail.
def sourceRules (compiler : Compiler) (construction : ConstructionSettings) : List (Option ConstructionFailure) := [
  violation (construction.workflows ≠ [] ∧ construction.dslFile ≠ none) .sourceConflict,
  violation (construction.workflows = [] ∧ construction.dslFile = none) .sourceMissing,
  construction.dslFile.bind fun path => heldAgainst (compiler.compile path) (.compilation path)]

def accountRules (asserter : Asserter) (start : Nat) (accounts : List PrefundedAccount) :
    List (Option ConstructionFailure) :=
  (accounts.zipIdx start).flatMap fun entry =>
    (entry.1.rules asserter).map (Option.map (.prefundedAccount entry.2))

def rules (collaborators : Collaborators) (construction : ConstructionSettings) :
    List (Option ConstructionFailure) :=
  construction.sourceRules collaborators.compiler
    ++ (construction.effectiveWorkflows collaborators.compiler).map Workflow.rule
    ++ accountRules collaborators.asserter 0 construction.prefundedAccounts

end ConstructionSettings

def Configuration.rules (collaborators : Collaborators) (configuration : Configuration) :
    List (Option ValidationFailure) :=
  [heldAgainst (collaborators.asserter.network configuration.network) .network]
    ++ configuration.data.rules.map (Option.map .data)
    ++ match configuration.construction with
      | none => []
      | some construction => (construction.rules collaborators).map (Option.map .construction)

-- Neither NaN nor an infinity lies between two finite numbers.
theorem finite_between {low value high : Float} (lowFinite : low.isFinite = true)
    (highFinite : high.isFinite = true) (above : low ≤ value) (below : value ≤ high) :
    value.isFinite = true := by
  have above : low.toModel.unpack.le value.toModel.unpack = true :=
    of_decide_eq_true (p := low.toModel ≤ value.toModel) above
  have below : value.toModel.unpack.le high.toModel.unpack = true :=
    of_decide_eq_true (p := value.toModel ≤ high.toModel) below
  simp only [Float.isFinite,Float.Model.isFinite] at *
  generalize low.toModel.unpack = bottom at *
  generalize value.toModel.unpack = middle at *
  generalize high.toModel.unpack = top at *
  unfold Float.Model.UnpackedFloat.le at *
  cases middle with
  | notANumber => cases bottom <;> cases above
  | infinity sign =>
    cases sign with
    | positive =>
      cases top with
      | infinity => cases highFinite
      | notANumber | zero | finite => cases below
    | negative =>
      cases bottom with
      | infinity => cases lowFinite
      | notANumber | zero | finite => cases above
  | zero => rfl
  | finite => rfl

theorem isCoverage_exact {coverage : Float} : isCoverage coverage = true ↔
    coverage.isFinite ∧ 0.0 ≤ coverage ∧ coverage ≤ 1.0 := by
  have bounds : isCoverage coverage = true ↔ 0.0 ≤ coverage ∧ coverage ≤ 1.0 := by
    simp [isCoverage,LE.le]
  rw [bounds]
  constructor
  · intro between
    exact ⟨finite_between (by rfl) (by rfl) between.1 between.2,between⟩
  · exact And.right

theorem EndConditions.validate_verdict (conditions : EndConditions) (data : DataSettings) :
    conditions.validate data = verdict
      ((conditions.index.bind fun index => violation (index.toInt < 0) (.negativeEnd index)) ::
        match conditions.reconciliationCoverage with
        | none => []
        | some coverage => data.coverageRules coverage) := by
  have coverage : ∀ coverage,verdict (data.coverageRules coverage) =
    (do
      if !isCoverage coverage then throw (.coverageOutOfRange coverage)
      if data.balanceTrackingDisabled then throw .coverageNeedsBalanceTracking
      if data.ignoreReconciliationError then throw .coverageNeedsReconciliationErrors
      if data.reconciliationDisabled then throw .coverageNeedsReconciliation) := by
    intro coverage
    unfold DataSettings.coverageRules
    simp only [← isCoverage_exact]
    cases isCoverage coverage <;> cases data.balanceTrackingDisabled <;>
      cases data.ignoreReconciliationError <;> cases data.reconciliationDisabled <;> rfl
  unfold validate
  cases conditions.index with
  | none =>
    cases conditions.reconciliationCoverage with
    | none => rfl
    | some coverage' => exact (coverage coverage').symm
  | some index =>
    by_cases negative : index.toInt < 0
    · simp [negative,violation,verdict]; rfl
    · simp only [negative,violation,Option.bind_some]
      cases conditions.reconciliationCoverage with
      | none => rfl
      | some coverage' => exact (coverage coverage').symm

theorem DataSettings.validate_verdict (data : DataSettings) : data.validate = verdict data.rules := by
  unfold validate rules
  rw [List.cons_append]
  cases data.startIndex with
  | none =>
    cases held : data.endConditions with
    | none => rfl
    | some conditions => exact conditions.validate_verdict data
  | some index =>
    by_cases negative : index.toInt < 0
    · simp [negative,violation,verdict]; rfl
    · simp only [negative,violation,Option.bind_some]
      cases held : data.endConditions with
      | none => rfl
      | some conditions => exact conditions.validate_verdict data

theorem DataSettings.validate_coverage {data : DataSettings} (sound : data.validate = .ok ())
    (held : data.endConditions = some conditions) (asked : conditions.reconciliationCoverage = some coverage) :
    coverage.isFinite = true := by
  rw [validate_verdict,verdict_ok] at sound
  have inside := sound (violation (¬(coverage.isFinite ∧ 0.0 ≤ coverage ∧ coverage ≤ 1.0)) (.coverageOutOfRange coverage))
    (by simp only [rules,held,asked,Option.bind_some,coverageRules,List.mem_append,List.mem_cons,true_or,or_true])
  by_contra infinite
  rw [violation,if_pos (infinite ·.1)] at inside
  cases inside

theorem PrefundedAccount.validate_verdict (asserter : Asserter) (funded : PrefundedAccount) :
    (funded.validate asserter).outcome = verdict (funded.rules asserter) := by
  unfold validate rules
  cases Text.Hexadecimal.flaw? funded.privateKey with
  | some flaw => rfl
  | none =>
    simp only [Option.map_none,verdict,Check.bind_outcome,Check.ask_outcome]
    cases asserter.curve funded.curve <;> cases asserter.account funded.account <;>
      cases asserter.currency funded.currency <;> rfl

namespace ConstructionSettings

theorem checkReserved_verdict (workflows : List Workflow) :
    checkReserved workflows = verdict (workflows.map Workflow.rule) := by
  induction workflows with
  | nil => rfl
  | cons workflow rest ih =>
    by_cases broken : workflow.isReserved ∧ workflow.concurrency ≠ Workflow.reservedConcurrency
    · simp [checkReserved,Workflow.rule,violation,verdict,broken]
    · have kept : ¬(workflow.isReserved && workflow.concurrency != Workflow.reservedConcurrency) = true := by
        simpa using broken
      simp only [checkReserved,kept,List.map_cons,Workflow.rule,violation,if_neg broken,verdict]
      exact ih

theorem checkAccounts_verdict (asserter : Asserter) (start : Nat) (accounts : List PrefundedAccount) :
    (checkAccounts asserter start accounts).outcome = verdict (accountRules asserter start accounts) := by
  induction accounts generalizing start with
  | nil => rfl
  | cons funded rest ih =>
    unfold accountRules at *
    rw [List.zipIdx_cons,List.flatMap_cons,verdict_append,verdict_map,← funded.validate_verdict,← ih]
    exact Check.bind_outcome _ _

theorem inspect_verdict (asserter : Asserter) (construction : ConstructionSettings) :
    (construction.inspect asserter).outcome = verdict
      (construction.workflows.map Workflow.rule ++ accountRules asserter 0 construction.prefundedAccounts) := by
  rw [verdict_append,← checkReserved_verdict,← checkAccounts_verdict]
  exact Check.bind_outcome _ _

theorem rules_verdict (collaborators : Collaborators) (construction : ConstructionSettings) :
    ((construction.settle collaborators.compiler).outcome >>= fun next =>
      (next.inspect collaborators.asserter).outcome) = verdict (construction.rules collaborators) := by
  unfold rules
  rw [List.append_assoc,verdict_append]
  have course := construction.settle_settles collaborators.compiler
  generalize construction.settle collaborators.compiler = settled at course ⊢
  unfold sourceRules effectiveWorkflows
  cases course with
  | conflict inline pending => simp [verdict,violation,inline,pending,bind,Except.bind]
  | missing empty idle => simp [verdict,violation,empty,idle,bind,Except.bind]
  | inline inline idle =>
    simpa [verdict,violation,inline,idle,bind,Except.bind] using construction.inspect_verdict collaborators.asserter
  | refused empty pending answer =>
    simp [verdict,violation,empty,pending,answer,heldAgainst,bind,Except.bind]
  | compiled empty pending answer =>
    simpa [verdict,violation,empty,pending,answer,heldAgainst,bind,Except.bind,Except.toOption] using
      inspect_verdict collaborators.asserter (construction.compiled _ _)

end ConstructionSettings

-- Nested as the checks are, they look at one list of rules from front to back.
theorem Configuration.validate_verdict (collaborators : Collaborators) (configuration : Configuration) :
    (configuration.validate collaborators).course.outcome = verdict (configuration.rules collaborators) := by
  unfold rules
  rw [List.append_assoc,verdict_append,verdict_append,verdict_map,← configuration.data.validate_verdict]
  have course := configuration.validate_validates collaborators
  generalize configuration.validate collaborators = validation at course ⊢
  cases course with
  | network answer => simp [verdict,heldAgainst,answer,bind,Except.bind]
  | data accepted violated =>
    simp [verdict,heldAgainst,accepted,violated,bind,Except.bind]
  | bare accepted sound absent =>
    simp [verdict,heldAgainst,accepted,sound,absent,bind,Except.bind]
  | @unsettled before _ _ _ accepted sound present settled =>
    have exact := before.rules_verdict collaborators
    simp only [settled,bind,Except.bind] at exact
    simp [verdict,heldAgainst,accepted,sound,present,verdict_map,← exact,bind,Except.bind]
  | @inspected before _ _ _ accepted sound present settled =>
    have exact := before.rules_verdict collaborators
    simp only [settled,bind,Except.bind] at exact
    simp [verdict,heldAgainst,accepted,sound,present,verdict_map,← exact,bind,Except.bind]

-- A validation succeeds exactly when no rule is violated, and fails with exactly
-- what the first violated rule says.
theorem Configuration.first_violation_decides (collaborators : Collaborators) (configuration : Configuration) :
    ((configuration.validate collaborators).course.outcome = .ok () ↔
      ∀ rule ∈ configuration.rules collaborators,rule = none) ∧
    ∀ reason,(configuration.validate collaborators).course.outcome = .error reason ↔
      ∃ before after,configuration.rules collaborators = before ++ some reason :: after ∧
        ∀ rule ∈ before,rule = none := by
  rw [configuration.validate_verdict collaborators]
  exact ⟨verdict_ok,fun _ => verdict_error⟩

-- The rules on an account do not end with its identifier. Here nothing is wrong
-- but a currency without a symbol, in the only account there is.
def Configuration.unnamedCurrency : Configuration :=
  let funded : PrefundedAccount := ⟨"ab",⟨"0xabc",none,none⟩,⟨"secp256k1"⟩,⟨"",18,none⟩⟩
  let construction := ConstructionDocument.ofContent ConstructionDocument.shape.blank
  {Configuration.blank .stock with construction := some ({construction with
    prefundedAccounts := [funded],workflows := [⟨"transfer",10,[]⟩]}.resolve .stock)}

theorem Configuration.unnamedCurrency_refused :
    (∀ rule ∈ (unnamedCurrency.rules Loader.stock.collaborators).dropLast,rule = none) ∧
    (unnamedCurrency.validate Loader.stock.collaborators).course.outcome =
      .error (.construction (.prefundedAccount 0 (.currency .symbolEmpty))) :=
  ⟨by decide,rfl⟩

end LedgerSettings
