import LedgerSettings.Shape

namespace LedgerSettings

structure Action where
  input : String
  kind : String
  outputPath : Option String
  deriving DecidableEq

structure Scenario where
  name : String
  actions : List Action
  deriving DecidableEq

structure Workflow where
  name : String
  concurrency : UInt64
  scenarios : List Scenario
  deriving DecidableEq

namespace Workflow

def createAccount : String := "create_account"
def requestFunds : String := "request_funds"
def reservedConcurrency : UInt64 := 1

def isReserved (workflow : Workflow) : Bool :=
  workflow.name == createAccount || workflow.name == requestFunds

end Workflow

def Action.shape : Shape := .record "Action"
  (.may "input" .text (.needs "type" .text (.may "output_path" (.optional .text) .nil)))

def Action.ofContent : Action.shape.Content → Action
  | (input,kind,outputPath,()) => ⟨input,kind,outputPath⟩

def Action.content (action : Action) : Action.shape.Content :=
  (action.input,action.kind,action.outputPath,())

def Action.toValue (action : Action) : Value := .ofPresent [
  ("input",some (.text action.input)),
  ("type",some (.text action.kind)),
  ("output_path",action.outputPath.map Value.text)]

def Scenario.shape : Shape := .record "Scenario"
  (.needs "name" .text (.may "actions" (.list Action.shape) .nil))

def Scenario.ofContent : Scenario.shape.Content → Scenario
  | (name,actions,()) => ⟨name,(actions : List Action.shape.Content).map Action.ofContent⟩

def Scenario.content (scenario : Scenario) : Scenario.shape.Content :=
  (scenario.name,scenario.actions.map Action.content,())

def Scenario.toValue (scenario : Scenario) : Value := .ofPresent [
  ("name",some (.text scenario.name)),
  ("actions",some (.list (scenario.actions.map Action.toValue)))]

def Workflow.shape : Shape := .record "Workflow"
  (.needs "name" .text (.needs "concurrency" (.integer .size)
    (.may "scenarios" (.list Scenario.shape) .nil)))

def Workflow.ofContent : Workflow.shape.Content → Workflow
  | (name,concurrency,scenarios,()) =>
    ⟨name,concurrency,(scenarios : List Scenario.shape.Content).map Scenario.ofContent⟩

def Workflow.content (workflow : Workflow) : Workflow.shape.Content :=
  (workflow.name,workflow.concurrency,workflow.scenarios.map Scenario.content,())

def Workflow.toValue (workflow : Workflow) : Value := .ofPresent [
  ("name",some (.text workflow.name)),
  ("concurrency",some (.natural workflow.concurrency.toNat)),
  ("scenarios",some (.list (workflow.scenarios.map Scenario.toValue)))]

end LedgerSettings
