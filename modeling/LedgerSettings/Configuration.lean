import LedgerSettings.Document

namespace LedgerSettings

structure Catalog where
  network : Network
  url : String
  httpTimeout : UInt64
  maxRetries : UInt64
  maxOnlineConnections : UInt64
  maxOfflineConnections : UInt64
  maxSyncConcurrency : UInt64
  tipDelay : UInt64
  activeReconciliationConcurrency : UInt64
  inactiveReconciliationConcurrency : UInt64
  inactiveReconciliationFrequency : UInt64
  staleDepth : UInt64
  broadcastLimit : UInt64
  blockBroadcastLimit : UInt64
  statusPort : UInt16

def Catalog.stock : Catalog where
  network := ⟨"Ethereum","Ropsten",none⟩
  url := "http://localhost:8080"
  httpTimeout := 10
  maxRetries := 5
  maxOnlineConnections := 120
  maxOfflineConnections := 4
  maxSyncConcurrency := 64
  tipDelay := 300
  activeReconciliationConcurrency := 16
  inactiveReconciliationConcurrency := 4
  inactiveReconciliationFrequency := 250
  staleDepth := 30
  broadcastLimit := 3
  blockBroadcastLimit := 5
  statusPort := 9090

structure DataSettings where
  activeReconciliationConcurrency : UInt64
  inactiveReconciliationConcurrency : UInt64
  inactiveReconciliationFrequency : UInt64
  logBlocks : Bool
  logTransactions : Bool
  logBalanceChanges : Bool
  logReconciliations : Bool
  ignoreReconciliationError : Bool
  exemptAccounts : Option String
  bootstrapBalances : Option String
  historicalBalanceEnabled : Option Bool
  interestingAccounts : Option String
  reconciliationDisabled : Bool
  inactiveDiscrepancySearchDisabled : Bool
  balanceTrackingDisabled : Bool
  coinTrackingDisabled : Bool
  startIndex : Option Int64
  endConditions : Option EndConditions
  statusPort : UInt16
  resultsOutputFile : Option String
  pruningDisabled : Bool
  deriving BEq

-- The workflows are those written inline, or those the DSL file compiled to: from then on the file is
-- remembered as their origin and no longer pending.
structure ConstructionSettings where
  offlineUrl : String
  maxOfflineConnections : UInt64
  staleDepth : UInt64
  broadcastLimit : UInt64
  ignoreBroadcastFailures : Bool
  clearBroadcasts : Bool
  broadcastBehindTip : Bool
  blockBroadcastLimit : UInt64
  rebroadcastAll : Bool
  prefundedAccounts : List PrefundedAccount
  workflows : List Workflow
  constructorDslFile : Option String
  compiledFrom : Option String
  endConditions : Keyed Int64
  statusPort : UInt16
  resultsOutputFile : Option String
  quiet : Bool
  deriving BEq

structure Configuration where
  network : Network
  onlineUrl : String
  dataDirectory : Option String
  httpTimeout : UInt64
  maxRetries : UInt64
  retryElapsedTime : Option UInt64
  maxOnlineConnections : UInt64
  maxSyncConcurrency : UInt64
  tipDelay : UInt64
  logConfiguration : Bool
  construction : Option ConstructionSettings
  data : DataSettings
  deriving BEq

def ConstructionSettings.dslFile (construction : ConstructionSettings) : Option String :=
  construction.constructorDslFile.filter fun path => path ≠ ""

def unlessEmpty (items : List Value) : Option Value :=
  if items.isEmpty then none else some (.list items)

def DataSettings.toValue (data : DataSettings) : Value := .ofPresent [
  ("active_reconciliation_concurrency",some (wordValue data.activeReconciliationConcurrency)),
  ("inactive_reconciliation_concurrency",some (wordValue data.inactiveReconciliationConcurrency)),
  ("inactive_reconciliation_frequency",some (wordValue data.inactiveReconciliationFrequency)),
  ("log_blocks",some (.flag data.logBlocks)),
  ("log_transactions",some (.flag data.logTransactions)),
  ("log_balance_changes",some (.flag data.logBalanceChanges)),
  ("log_reconciliations",some (.flag data.logReconciliations)),
  ("ignore_reconciliation_error",some (.flag data.ignoreReconciliationError)),
  ("exempt_accounts",data.exemptAccounts.map Value.text),
  ("bootstrap_balances",data.bootstrapBalances.map Value.text),
  ("historical_balance_enabled",data.historicalBalanceEnabled.map Value.flag),
  ("interesting_accounts",data.interestingAccounts.map Value.text),
  ("reconciliation_disabled",some (.flag data.reconciliationDisabled)),
  ("inactive_discrepency_search_disabled",some (.flag data.inactiveDiscrepancySearchDisabled)),
  ("balance_tracking_disabled",some (.flag data.balanceTrackingDisabled)),
  ("coin_tracking_disabled",some (.flag data.coinTrackingDisabled)),
  ("start_index",data.startIndex.map signedValue),
  ("end_conditions",data.endConditions.map EndConditions.toValue),
  ("status_port",some (portValue data.statusPort)),
  ("results_output_file",data.resultsOutputFile.map Value.text),
  ("pruning_disabled",some (.flag data.pruningDisabled))]

-- Where the workflows were compiled from is no part of the written form.
def ConstructionSettings.toValue (construction : ConstructionSettings) : Value := .ofPresent [
  ("offline_url",some (.text construction.offlineUrl)),
  ("max_offline_connections",some (wordValue construction.maxOfflineConnections)),
  ("stale_depth",some (wordValue construction.staleDepth)),
  ("broadcast_limit",some (wordValue construction.broadcastLimit)),
  ("ignore_broadcast_failures",some (.flag construction.ignoreBroadcastFailures)),
  ("clear_broadcasts",some (.flag construction.clearBroadcasts)),
  ("broadcast_behind_tip",some (.flag construction.broadcastBehindTip)),
  ("block_broadcast_limit",some (wordValue construction.blockBroadcastLimit)),
  ("rebroadcast_all",some (.flag construction.rebroadcastAll)),
  ("prefunded_accounts",unlessEmpty (construction.prefundedAccounts.map PrefundedAccount.toValue)),
  ("workflows",some (.list (construction.workflows.map Workflow.toValue))),
  ("constructor_dsl_file",construction.constructorDslFile.map Value.text),
  ("end_conditions",if construction.endConditions.isEmpty then none else some (countsValue construction.endConditions)),
  ("status_port",some (portValue construction.statusPort)),
  ("results_output_file",construction.resultsOutputFile.map Value.text),
  ("quiet",some (.flag construction.quiet))]

def Configuration.toValue (configuration : Configuration) : Value := .ofPresent [
  ("network",some configuration.network.toValue),
  ("online_url",some (.text configuration.onlineUrl)),
  ("data_directory",configuration.dataDirectory.map Value.text),
  ("http_timeout",some (wordValue configuration.httpTimeout)),
  ("max_retries",some (wordValue configuration.maxRetries)),
  ("retry_elapsed_time",configuration.retryElapsedTime.map wordValue),
  ("max_online_connections",some (wordValue configuration.maxOnlineConnections)),
  ("max_sync_concurrency",some (wordValue configuration.maxSyncConcurrency)),
  ("tip_delay",some (wordValue configuration.tipDelay)),
  ("log_configuration",some (.flag configuration.logConfiguration)),
  ("construction",configuration.construction.map ConstructionSettings.toValue),
  ("data",some configuration.data.toValue)]

end LedgerSettings
