import LedgerSettings.Configuration

namespace LedgerSettings

def DataSettings.blank (catalog : Catalog) : DataSettings where
  activeReconciliationConcurrency := catalog.activeReconciliationConcurrency
  inactiveReconciliationConcurrency := catalog.inactiveReconciliationConcurrency
  inactiveReconciliationFrequency := catalog.inactiveReconciliationFrequency
  logBlocks := false
  logTransactions := false
  logBalanceChanges := false
  logReconciliations := false
  ignoreReconciliationError := false
  exemptAccounts := none
  bootstrapBalances := none
  historicalBalanceEnabled := none
  interestingAccounts := none
  reconciliationDisabled := false
  inactiveDiscrepancySearchDisabled := false
  balanceTrackingDisabled := false
  coinTrackingDisabled := false
  startIndex := none
  endConditions := none
  statusPort := catalog.statusPort
  resultsOutputFile := none
  pruningDisabled := false

def Configuration.blank (catalog : Catalog) : Configuration where
  network := catalog.network
  onlineUrl := catalog.url
  dataDirectory := none
  httpTimeout := catalog.httpTimeout
  maxRetries := catalog.maxRetries
  retryElapsedTime := none
  maxOnlineConnections := catalog.maxOnlineConnections
  maxSyncConcurrency := catalog.maxSyncConcurrency
  tipDelay := catalog.tipDelay
  logConfiguration := false
  construction := none
  data := .blank catalog

-- A missing data section is synthesized, a missing construction section stays so.
def DataDocument.resolve (data : DataDocument) (catalog : Catalog) : DataSettings where
  activeReconciliationConcurrency := data.activeReconciliationConcurrency.getD catalog.activeReconciliationConcurrency
  inactiveReconciliationConcurrency := data.inactiveReconciliationConcurrency.getD catalog.inactiveReconciliationConcurrency
  inactiveReconciliationFrequency := data.inactiveReconciliationFrequency.getD catalog.inactiveReconciliationFrequency
  logBlocks := data.logBlocks
  logTransactions := data.logTransactions
  logBalanceChanges := data.logBalanceChanges
  logReconciliations := data.logReconciliations
  ignoreReconciliationError := data.ignoreReconciliationError
  exemptAccounts := data.exemptAccounts
  bootstrapBalances := data.bootstrapBalances
  historicalBalanceEnabled := data.historicalBalanceEnabled
  interestingAccounts := data.interestingAccounts
  reconciliationDisabled := data.reconciliationDisabled
  inactiveDiscrepancySearchDisabled := data.inactiveDiscrepancySearchDisabled
  balanceTrackingDisabled := data.balanceTrackingDisabled
  coinTrackingDisabled := data.coinTrackingDisabled
  startIndex := data.startIndex
  endConditions := data.endConditions
  statusPort := data.statusPort.getD catalog.statusPort
  resultsOutputFile := data.resultsOutputFile
  pruningDisabled := data.pruningDisabled

def ConstructionDocument.resolve (construction : ConstructionDocument) (catalog : Catalog) : ConstructionSettings where
  offlineUrl := construction.offlineUrl.getD catalog.url
  maxOfflineConnections := construction.maxOfflineConnections.getD catalog.maxOfflineConnections
  staleDepth := construction.staleDepth.getD catalog.staleDepth
  broadcastLimit := construction.broadcastLimit.getD catalog.broadcastLimit
  ignoreBroadcastFailures := construction.ignoreBroadcastFailures
  clearBroadcasts := construction.clearBroadcasts
  broadcastBehindTip := construction.broadcastBehindTip
  blockBroadcastLimit := construction.blockBroadcastLimit.getD catalog.blockBroadcastLimit
  rebroadcastAll := construction.rebroadcastAll
  prefundedAccounts := construction.prefundedAccounts
  workflows := construction.workflows
  constructorDslFile := construction.constructorDslFile
  compiledFrom := none
  endConditions := construction.endConditions
  statusPort := construction.statusPort.getD catalog.statusPort
  resultsOutputFile := construction.resultsOutputFile
  quiet := construction.quiet

def Document.resolve (document : Document) (catalog : Catalog) : Configuration where
  network := document.network.getD catalog.network
  onlineUrl := document.onlineUrl.getD catalog.url
  dataDirectory := document.dataDirectory
  httpTimeout := document.httpTimeout.getD catalog.httpTimeout
  maxRetries := document.maxRetries.getD catalog.maxRetries
  retryElapsedTime := document.retryElapsedTime
  maxOnlineConnections := document.maxOnlineConnections.getD catalog.maxOnlineConnections
  maxSyncConcurrency := document.maxSyncConcurrency.getD catalog.maxSyncConcurrency
  tipDelay := document.tipDelay.getD catalog.tipDelay
  logConfiguration := document.logConfiguration
  construction := document.construction.map fun construction => construction.resolve catalog
  data := match document.data with
    | some data => data.resolve catalog
    | none => .blank catalog

end LedgerSettings
