import LedgerSettings.Configuration
import LedgerSettings.Json.Printer
import LedgerSettings.Text.Table

namespace LedgerSettings.Presentation

def escapeCode (code : Nat) : String := s!"\x1b[{code}m"

def cyan (text : String) : String := escapeCode 36 ++ text ++ escapeCode 39

def heading (title : String) : String :=
  escapeCode 4 ++ escapeCode 1 ++ title ++ escapeCode 0 ++ escapeCode 0

def summary (source : String) (configuration : Configuration) : String :=
  let construction := match configuration.construction with
    | some construction =>
      s!" (construction check: {construction.workflows.length} workflows, {construction.prefundedAccounts.length} prefunded accounts)"
    | none => " (construction check not configured)"
  cyan s!"loaded configuration file: {source}"
    ++ s!"\nConfiguration is valid for network {configuration.network.describe}" ++ construction

def json (configuration : Configuration) : String := Json.pretty configuration.toValue

def settings (rows : List (String × String)) : Text.Table :=
  ⟨["Setting","Value"],rows.map fun row => [row.1,row.2]⟩

def word (value : UInt64) : String := toString value.toNat
def orDash (show' : α → String) (value : Option α) : String := (value.map show').getD "-"
def enabled (disabled : Bool) : String := if disabled then "disabled" else "enabled"

def endConditions (conditions : Option EndConditions) : String :=
  match (conditions.map EndConditions.configured).getD [] with
  | [] => "none"
  | kinds => String.intercalate ", " (kinds.map EndCondition.title)

def rootRows (configuration : Configuration) : List (String × String) := [
  ("network",configuration.network.describe),
  ("online_url",configuration.onlineUrl),
  ("data_directory",orDash id configuration.dataDirectory),
  ("http_timeout",word configuration.httpTimeout ++ "s"),
  ("max_retries",word configuration.maxRetries),
  ("retry_elapsed_time",orDash word configuration.retryElapsedTime),
  ("max_online_connections",word configuration.maxOnlineConnections),
  ("max_sync_concurrency",word configuration.maxSyncConcurrency),
  ("tip_delay",word configuration.tipDelay ++ "s")]

def dataRows (data : DataSettings) : List (String × String) := [
  ("active_reconciliation_concurrency",word data.activeReconciliationConcurrency),
  ("inactive_reconciliation_concurrency",word data.inactiveReconciliationConcurrency),
  ("inactive_reconciliation_frequency",word data.inactiveReconciliationFrequency),
  ("reconciliation",enabled data.reconciliationDisabled),
  ("balance_tracking",enabled data.balanceTrackingDisabled),
  ("coin_tracking",enabled data.coinTrackingDisabled),
  ("pruning",enabled data.pruningDisabled),
  ("start_index",orDash (fun index : Int64 => toString index.toInt) data.startIndex),
  ("end_conditions",endConditions data.endConditions),
  ("status_port",toString data.statusPort.toNat)]

-- A compiled DSL file is still shown as the file the workflows come from.
def constructionRows (construction : ConstructionSettings) : List (String × String) := [
  ("offline_url",construction.offlineUrl),
  ("max_offline_connections",word construction.maxOfflineConnections),
  ("stale_depth",word construction.staleDepth),
  ("broadcast_limit",word construction.broadcastLimit),
  ("block_broadcast_limit",word construction.blockBroadcastLimit),
  ("constructor_dsl_file",orDash id (construction.dslFile.or construction.compiledFrom)),
  ("prefunded_accounts",toString construction.prefundedAccounts.length),
  ("status_port",toString construction.statusPort.toNat)]

def workflowRow (conditions : Keyed Int64) (workflow : Workflow) : List String :=
  [workflow.name,word workflow.concurrency,toString workflow.scenarios.length,
    orDash (fun count : Int64 => toString count.toInt) (conditions.find? workflow.name)]

def workflows (construction : ConstructionSettings) : String :=
  if construction.workflows.isEmpty then "No workflows.\n"
  else
    let table : Text.Table :=
      ⟨["Workflow","Concurrency","Scenarios","End condition"],
        construction.workflows.map (workflowRow construction.endConditions)⟩
    table.render ++ "\n"

def text (configuration : Configuration) : String :=
  let construction := match configuration.construction with
    | some construction =>
      (settings (constructionRows construction)).render ++ "\n\n" ++ workflows construction
    | none => "Not configured.\n"
  heading "Configuration" ++ "\n\n" ++ (settings (rootRows configuration)).render ++ "\n\n"
    ++ heading "Data check" ++ "\n\n" ++ (settings (dataRows configuration.data)).render ++ "\n\n"
    ++ heading "Construction check" ++ "\n\n" ++ construction

end LedgerSettings.Presentation
