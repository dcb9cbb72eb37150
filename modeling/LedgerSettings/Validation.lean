import LedgerSettings.Collaborators
import LedgerSettings.Configuration
import LedgerSettings.Decimal
import LedgerSettings.Text.Character

namespace LedgerSettings

inductive Question where
  | network (network : Network)
  | compile (path : String)
  | curve (curve : Curve)
  | account (account : Account)
  | currency (currency : Currency)

inductive Event where
  | decodingFile (source : String)
  | decodingDocument (source : String)
  | validating (source : String)
  | compiled (path : String) (workflows : Nat)
  | resolved (configuration : Configuration)
  | loaded (source : String)

structure Collaborators where
  asserter : Asserter
  compiler : Compiler

-- A failure keeps what was asked and noted before it.
structure Check (ε α : Type) where
  outcome : Except ε α
  asked : List Question
  noted : List Event

namespace Check

protected def pure (value : α) : Check ε α := ⟨.ok value,[],[]⟩

protected def bind (first : Check ε α) (next : α → Check ε β) : Check ε β :=
  match first.outcome with
  | .error failure => ⟨.error failure,first.asked,first.noted⟩
  | .ok value =>
    let second := next value
    ⟨second.outcome,first.asked ++ second.asked,first.noted ++ second.noted⟩

instance : Monad (Check ε) where
  pure := Check.pure
  bind := Check.bind

def fail (failure : ε) : Check ε α := ⟨.error failure,[],[]⟩

def ask (question : Question) (answer : Except δ α) (wrap : δ → ε) : Check ε α :=
  ⟨answer.mapError wrap,[question],[]⟩

def note (event : Event) : Check ε Unit := ⟨.ok (),[],[event]⟩

def within (wrap : δ → ε) (check : Check δ α) : Check ε α :=
  ⟨check.outcome.mapError wrap,check.asked,check.noted⟩

end Check

inductive DataFailure where
  | negativeStart (index : Int64)
  | negativeEnd (index : Int64)
  | coverageOutOfRange (coverage : Float)
  | coverageNeedsBalanceTracking
  | coverageNeedsReconciliationErrors
  | coverageNeedsReconciliation
  deriving DecidableEq

inductive AccountFailure where
  | keyNotHex (flaw : Text.Hexadecimal.Flaw)
  | curve (objection : Objection)
  | account (objection : Objection)
  | currency (objection : Objection)
  deriving DecidableEq

inductive ConstructionFailure where
  | sourceConflict
  | sourceMissing
  | compilation (path : String) (failure : CompileFailure)
  | reservedConcurrency (workflow : String) (concurrency : UInt64)
  | prefundedAccount (index : Nat) (failure : AccountFailure)
  deriving DecidableEq

inductive ValidationFailure where
  | network (objection : Objection)
  | data (failure : DataFailure)
  | construction (failure : ConstructionFailure)
  deriving DecidableEq

-- Each layer opens the message of the one it wraps.
def DataFailure.message : DataFailure → String
  | .negativeStart index => s!"start index {index.toInt} cannot be negative"
  | .negativeEnd index => s!"end index {index.toInt} cannot be negative"
  | .coverageOutOfRange coverage =>
    s!"reconciliation coverage {Decimal.Spelling.plain.write coverage} must be in [0.0, 1.0]"
  | .coverageNeedsBalanceTracking =>
    "balance tracking must be enabled for reconciliation coverage end condition"
  | .coverageNeedsReconciliationErrors =>
    "reconciliation errors cannot be ignored for reconciliation coverage end condition"
  | .coverageNeedsReconciliation =>
    "reconciliation cannot be disabled for reconciliation coverage end condition"

-- The byte at fault is shown alone, as the Latin character of its number.
def Text.Hexadecimal.Flaw.message : Text.Hexadecimal.Flaw → String
  | .oddLength => "Odd number of digits"
  | .invalidByte byte index =>
    s!"Invalid character {Text.quotedCharacter (Char.ofNat byte.toNat)} at position {index}"

def AccountFailure.message : AccountFailure → String
  | .keyNotHex flaw => s!"private key is not hex encoded: {flaw.message}"
  | .curve objection => s!"invalid curve type: {objection.message}"
  | .account objection => s!"invalid account identifier: {objection.message}"
  | .currency objection => s!"invalid currency: {objection.message}"

def ConstructionFailure.message : ConstructionFailure → String
  | .sourceConflict => "cannot populate both workflows and DSL file path"
  | .sourceMissing => "both workflows and DSL file path are empty"
  | .compilation path failure => s!"compilation of {path} failed: {failure.message}"
  | .reservedConcurrency workflow concurrency =>
    s!"reserved workflow {workflow} must have concurrency {Workflow.reservedConcurrency.toNat}, found {concurrency.toNat}"
  | .prefundedAccount index failure => s!"prefunded account {index}: {failure.message}"

def ValidationFailure.message : ValidationFailure → String
  | .network objection => s!"invalid network identifier: {objection.message}"
  | .data failure => s!"invalid data configuration: {failure.message}"
  | .construction failure => s!"invalid construction configuration: {failure.message}"

def isCoverage (coverage : Float) : Bool := Float.le 0.0 coverage && Float.le coverage 1.0

def EndConditions.validate (conditions : EndConditions) (data : DataSettings) :
    Except DataFailure Unit := do
  if let some index := conditions.index then
    if index.toInt < 0 then throw (.negativeEnd index)
  let some coverage := conditions.reconciliationCoverage | return ()
  if !isCoverage coverage then throw (.coverageOutOfRange coverage)
  if data.balanceTrackingDisabled then throw .coverageNeedsBalanceTracking
  if data.ignoreReconciliationError then throw .coverageNeedsReconciliationErrors
  if data.reconciliationDisabled then throw .coverageNeedsReconciliation

def DataSettings.validate (data : DataSettings) : Except DataFailure Unit := do
  if let some index := data.startIndex then
    if index.toInt < 0 then throw (.negativeStart index)
  match data.endConditions with
  | some conditions => conditions.validate data
  | none => return ()

def PrefundedAccount.validate (asserter : Asserter) (funded : PrefundedAccount) :
    Check AccountFailure Unit := do
  if let some flaw := Text.Hexadecimal.flaw? funded.privateKey then Check.fail (.keyNotHex flaw)
  Check.ask (.curve funded.curve) (asserter.curve funded.curve) .curve
  Check.ask (.account funded.account) (asserter.account funded.account) .account
  Check.ask (.currency funded.currency) (asserter.currency funded.currency) .currency

namespace ConstructionSettings

def settle (compiler : Compiler) (construction : ConstructionSettings) :
    Check ConstructionFailure ConstructionSettings :=
  match construction.workflows.isEmpty,construction.dslFile with
  | false,some _ => .fail .sourceConflict
  | true,none => .fail .sourceMissing
  | false,none => .pure construction
  | true,some path => do
    let workflows ← Check.ask (.compile path) (compiler.compile path) (.compilation path)
    Check.note (.compiled path workflows.length)
    return {construction with
      workflows := workflows
      constructorDslFile := none
      compiledFrom := some path}

def checkReserved : List Workflow → Except ConstructionFailure Unit
  | [] => .ok ()
  | workflow :: rest =>
    if workflow.isReserved && workflow.concurrency != Workflow.reservedConcurrency then
      .error (.reservedConcurrency workflow.name workflow.concurrency)
    else checkReserved rest

def checkAccounts (asserter : Asserter) : Nat → List PrefundedAccount → Check ConstructionFailure Unit
  | _,[] => .pure ()
  | index,funded :: rest => do
    (funded.validate asserter).within (.prefundedAccount index)
    checkAccounts asserter (index+1) rest

def inspect (asserter : Asserter) (construction : ConstructionSettings) :
    Check ConstructionFailure Unit := do
  ⟨checkReserved construction.workflows,[],[]⟩
  checkAccounts asserter 0 construction.prefundedAccounts

end ConstructionSettings

namespace Configuration

def settle (collaborators : Collaborators) (configuration : Configuration) :
    Check ValidationFailure Configuration := do
  Check.ask (.network configuration.network)
    (collaborators.asserter.network configuration.network) .network
  ⟨configuration.data.validate.mapError .data,[],[]⟩
  match configuration.construction with
  | none => return configuration
  | some construction => do
    let settled ← (construction.settle collaborators.compiler).within .construction
    return {configuration with construction := some settled}

def inspect (asserter : Asserter) (configuration : Configuration) : Check ValidationFailure Unit :=
  match configuration.construction with
  | none => .pure ()
  | some construction => (construction.inspect asserter).within .construction

end Configuration

-- The compiled workflows stay even when a later rule fails.
structure Validation where
  course : Check ValidationFailure Unit
  configuration : Configuration

def Configuration.validate (collaborators : Collaborators) (configuration : Configuration) :
    Validation :=
  let settled := configuration.settle collaborators
  match settled.outcome with
  | .error failure => ⟨⟨.error failure,settled.asked,settled.noted⟩,configuration⟩
  | .ok next => ⟨settled.bind fun next => next.inspect collaborators.asserter,next⟩

end LedgerSettings
