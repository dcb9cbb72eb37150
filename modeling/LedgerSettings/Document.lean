import LedgerSettings.Identifiers
import LedgerSettings.Workflow

namespace LedgerSettings

structure EndConditions where
  index : Option Int64
  tip : Option Bool
  duration : Option UInt64
  reconciliationCoverage : Option Float
  deriving BEq

inductive EndCondition where
  | index
  | duration
  | tip
  | reconciliationCoverage
  deriving DecidableEq

def EndCondition.title : EndCondition → String
  | .index => "Index End Condition"
  | .duration => "Duration End Condition"
  | .tip => "Tip End Condition"
  | .reconciliationCoverage => "Reconciliation Coverage End Condition"

def EndConditions.configured (conditions : EndConditions) : List EndCondition :=
  [(EndCondition.index,conditions.index.isSome),(.duration,conditions.duration.isSome),
    (.tip,conditions.tip.isSome),(.reconciliationCoverage,conditions.reconciliationCoverage.isSome)]
    |>.filterMap fun row => if row.2 then some row.1 else none

def wordValue (word : UInt64) : Value := .natural word.toNat
def portValue (port : UInt16) : Value := .natural port.toNat
def signedValue (value : Int64) : Value := .integer value.toInt
def countsValue (counts : Keyed Int64) : Value :=
  .table (counts.rows.map fun row => (row.1,signedValue row.2))

def EndConditions.shape : Shape := .record "DataEndConditions"
  (.may "index" (.optional (.integer .signed64))
  (.may "tip" (.optional .flag)
  (.may "duration" (.optional (.integer .word64))
  (.may "reconciliation_coverage" (.optional .real) .nil))))

def EndConditions.ofContent : EndConditions.shape.Content → EndConditions
  | (index,tip,duration,coverage,()) => ⟨index,tip,duration,coverage⟩

def EndConditions.content (conditions : EndConditions) : EndConditions.shape.Content :=
  (conditions.index,conditions.tip,conditions.duration,conditions.reconciliationCoverage,())

def EndConditions.toValue (conditions : EndConditions) : Value := .ofPresent [
  ("index",conditions.index.map signedValue),
  ("tip",conditions.tip.map Value.flag),
  ("duration",conditions.duration.map wordValue),
  ("reconciliation_coverage",conditions.reconciliationCoverage.map Value.real)]

-- What has a default may be absent, and absent is not the same as zero, empty or false.
structure DataDocument where
  activeReconciliationConcurrency : Option UInt64
  inactiveReconciliationConcurrency : Option UInt64
  inactiveReconciliationFrequency : Option UInt64
  logBlocks : Bool
  logTransactions : Bool
  logBalanceChanges : Bool
  logReconciliations : Bool
  ignoreReconciliationError : Bool
  exemptAccounts : Option String
  bootstrapBalances : Option String
  historicalBalanceEnabled : Option Bool
  interestingAccounts : Option String
  reconciliationDisabled : Bool
  inactiveDiscrepancySearchDisabled : Bool
  balanceTrackingDisabled : Bool
  coinTrackingDisabled : Bool
  startIndex : Option Int64
  endConditions : Option EndConditions
  statusPort : Option UInt16
  resultsOutputFile : Option String
  pruningDisabled : Bool

structure ConstructionDocument where
  offlineUrl : Option String
  maxOfflineConnections : Option UInt64
  staleDepth : Option UInt64
  broadcastLimit : Option UInt64
  ignoreBroadcastFailures : Bool
  clearBroadcasts : Bool
  broadcastBehindTip : Bool
  blockBroadcastLimit : Option UInt64
  rebroadcastAll : Bool
  prefundedAccounts : List PrefundedAccount
  workflows : List Workflow
  constructorDslFile : Option String
  endConditions : Keyed Int64
  statusPort : Option UInt16
  resultsOutputFile : Option String
  quiet : Bool

structure Document where
  network : Option Network
  onlineUrl : Option String
  dataDirectory : Option String
  httpTimeout : Option UInt64
  maxRetries : Option UInt64
  retryElapsedTime : Option UInt64
  maxOnlineConnections : Option UInt64
  maxSyncConcurrency : Option UInt64
  tipDelay : Option UInt64
  logConfiguration : Bool
  construction : Option ConstructionDocument
  data : Option DataDocument

def DataDocument.shape : Shape := .record "RawDataConfiguration"
  (.may "active_reconciliation_concurrency" (.optional (.integer .word64))
  (.may "inactive_reconciliation_concurrency" (.optional (.integer .word64))
  (.may "inactive_reconciliation_frequency" (.optional (.integer .word64))
  (.may "log_blocks" .flag
  (.may "log_transactions" .flag
  (.may "log_balance_changes" .flag
  (.may "log_reconciliations" .flag
  (.may "ignore_reconciliation_error" .flag
  (.may "exempt_accounts" (.optional .path)
  (.may "bootstrap_balances" (.optional .path)
  (.may "historical_balance_enabled" (.optional .flag)
  (.may "interesting_accounts" (.optional .path)
  (.may "reconciliation_disabled" .flag
  (.may "inactive_discrepency_search_disabled" .flag
  (.may "balance_tracking_disabled" .flag
  (.may "coin_tracking_disabled" .flag
  (.may "start_index" (.optional (.integer .signed64))
  (.may "end_conditions" (.optional EndConditions.shape)
  (.may "status_port" (.optional (.integer .word16))
  (.may "results_output_file" (.optional .path)
  (.may "pruning_disabled" .flag .nil)))))))))))))))))))))

def DataDocument.ofContent : DataDocument.shape.Content → DataDocument
  | (activeReconciliationConcurrency,inactiveReconciliationConcurrency,
    inactiveReconciliationFrequency,logBlocks,logTransactions,logBalanceChanges,
    logReconciliations,ignoreReconciliationError,exemptAccounts,bootstrapBalances,
    historicalBalanceEnabled,interestingAccounts,reconciliationDisabled,
    inactiveDiscrepancySearchDisabled,balanceTrackingDisabled,coinTrackingDisabled,startIndex,
    endConditions,statusPort,resultsOutputFile,pruningDisabled,()) =>
    ⟨activeReconciliationConcurrency,inactiveReconciliationConcurrency,
     inactiveReconciliationFrequency,logBlocks,logTransactions,logBalanceChanges,
     logReconciliations,ignoreReconciliationError,exemptAccounts,bootstrapBalances,
     historicalBalanceEnabled,interestingAccounts,reconciliationDisabled,
     inactiveDiscrepancySearchDisabled,balanceTrackingDisabled,coinTrackingDisabled,
     startIndex,endConditions.map EndConditions.ofContent,statusPort,resultsOutputFile,
     pruningDisabled⟩

def DataDocument.content (data : DataDocument) : DataDocument.shape.Content :=
  (data.activeReconciliationConcurrency,data.inactiveReconciliationConcurrency,
   data.inactiveReconciliationFrequency,data.logBlocks,data.logTransactions,
   data.logBalanceChanges,data.logReconciliations,data.ignoreReconciliationError,
   data.exemptAccounts,data.bootstrapBalances,data.historicalBalanceEnabled,
   data.interestingAccounts,data.reconciliationDisabled,data.inactiveDiscrepancySearchDisabled,
   data.balanceTrackingDisabled,data.coinTrackingDisabled,data.startIndex,
   data.endConditions.map EndConditions.content,data.statusPort,data.resultsOutputFile,
   data.pruningDisabled,())

def ConstructionDocument.shape : Shape := .record "RawConstructionConfiguration"
  (.may "offline_url" (.optional .text)
  (.may "max_offline_connections" (.optional (.integer .size))
  (.may "stale_depth" (.optional (.integer .word64))
  (.may "broadcast_limit" (.optional (.integer .word64))
  (.may "ignore_broadcast_failures" .flag
  (.may "clear_broadcasts" .flag
  (.may "broadcast_behind_tip" .flag
  (.may "block_broadcast_limit" (.optional (.integer .word64))
  (.may "rebroadcast_all" .flag
  (.may "prefunded_accounts" (.list PrefundedAccount.shape)
  (.may "workflows" (.list Workflow.shape)
  (.may "constructor_dsl_file" (.optional .path)
  (.may "end_conditions" .counts
  (.may "status_port" (.optional (.integer .word16))
  (.may "results_output_file" (.optional .path)
  (.may "quiet" .flag .nil))))))))))))))))

def ConstructionDocument.ofContent : ConstructionDocument.shape.Content → ConstructionDocument
  | (offlineUrl,maxOfflineConnections,staleDepth,broadcastLimit,ignoreBroadcastFailures,
    clearBroadcasts,broadcastBehindTip,blockBroadcastLimit,rebroadcastAll,prefundedAccounts,
    workflows,constructorDslFile,endConditions,statusPort,resultsOutputFile,quiet,()) =>
    ⟨offlineUrl,maxOfflineConnections,staleDepth,broadcastLimit,ignoreBroadcastFailures,
     clearBroadcasts,broadcastBehindTip,blockBroadcastLimit,rebroadcastAll,
     (prefundedAccounts : List PrefundedAccount.shape.Content).map PrefundedAccount.ofContent,
     (workflows : List Workflow.shape.Content).map Workflow.ofContent,constructorDslFile,
     endConditions,statusPort,resultsOutputFile,quiet⟩

def ConstructionDocument.content (construction : ConstructionDocument) : ConstructionDocument.shape.Content :=
  (construction.offlineUrl,construction.maxOfflineConnections,construction.staleDepth,
   construction.broadcastLimit,construction.ignoreBroadcastFailures,
   construction.clearBroadcasts,construction.broadcastBehindTip,
   construction.blockBroadcastLimit,construction.rebroadcastAll,
   construction.prefundedAccounts.map PrefundedAccount.content,
   construction.workflows.map Workflow.content,construction.constructorDslFile,
   construction.endConditions,construction.statusPort,construction.resultsOutputFile,
   construction.quiet,())

def Document.shape : Shape := .record "RawConfiguration"
  (.may "network" (.optional Network.shape)
  (.may "online_url" (.optional .text)
  (.may "data_directory" (.optional .path)
  (.may "http_timeout" (.optional (.integer .word64))
  (.may "max_retries" (.optional (.integer .word64))
  (.may "retry_elapsed_time" (.optional (.integer .word64))
  (.may "max_online_connections" (.optional (.integer .size))
  (.may "max_sync_concurrency" (.optional (.integer .word64))
  (.may "tip_delay" (.optional (.integer .word64))
  (.may "log_configuration" .flag
  (.may "construction" (.optional ConstructionDocument.shape)
  (.may "data" (.optional DataDocument.shape) .nil))))))))))))

def Document.ofContent : Document.shape.Content → Document
  | (network,onlineUrl,dataDirectory,httpTimeout,maxRetries,retryElapsedTime,
    maxOnlineConnections,maxSyncConcurrency,tipDelay,logConfiguration,construction,data,()) =>
    ⟨network.map Network.ofContent,onlineUrl,dataDirectory,httpTimeout,maxRetries,
     retryElapsedTime,maxOnlineConnections,maxSyncConcurrency,tipDelay,logConfiguration,
     construction.map ConstructionDocument.ofContent,data.map DataDocument.ofContent⟩

def Document.content (document : Document) : Document.shape.Content :=
  (document.network.map Network.content,document.onlineUrl,document.dataDirectory,
   document.httpTimeout,document.maxRetries,document.retryElapsedTime,
   document.maxOnlineConnections,document.maxSyncConcurrency,document.tipDelay,
   document.logConfiguration,document.construction.map ConstructionDocument.content,
   document.data.map DataDocument.content,())

def Document.blank : Document := .ofContent Document.shape.blank

end LedgerSettings
