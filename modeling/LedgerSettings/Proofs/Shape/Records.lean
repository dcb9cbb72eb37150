import LedgerSettings.Proofs.Shape.Depth
import LedgerSettings.Resolution

namespace LedgerSettings

theorem Document.shape_distinct : Document.shape.distinct = true := by decide +kernel

-- One field of a record and the row it makes, if it makes one.
def Shape.Field (required : Bool) (shape : Shape) (content : shape.Content) : Option Value → Prop
  | some tree => shape.Written content tree
  | none => required = false ∧ content = shape.blank

-- Rows for every field of a record, in declaration order.
def Layout.Present : (layout : Layout) → layout.Content → List (String × Option Value) → Prop
  | .nil,_,[] => True
  | .cons name required shape rest,(first,others),(key,tree) :: rows =>
    key = name ∧ shape.Field required first tree ∧ rest.Present others rows
  | _,_,_ => False

theorem Layout.present_written : (layout : Layout) → ∀ {content : layout.Content}
    {rows : List (String × Option Value)},layout.Present content rows →
    layout.Written content (rows.filterMap fun row => row.2.map fun value => (row.1,value))
  | .nil,_,[],_ => rfl
  | .cons name required shape rest,(first,others),(key,tree) :: rows,present => by
    obtain ⟨rfl,here,present⟩ := present
    have behind := rest.present_written present
    cases tree with
    | none => exact .inr ⟨here.1,here.2,behind⟩
    | some tree => exact .inl ⟨tree,_,rfl,here,behind⟩

theorem Shape.record_written (name : String) {layout : Layout} {content : layout.Content}
    {rows : List (String × Option Value)} (present : layout.Present content rows) :
    (Shape.record name layout).Written content (.ofPresent rows) :=
  ⟨_,rfl,layout.present_written present⟩

theorem Shape.given_written {inner : Shape} {held : inner.Content} (written : inner.Written held tree) :
    Shape.Field required (.optional inner) (some held) (some tree) := ⟨held,rfl,written⟩

theorem Shape.held_written (inner : Shape) {tree : inner.Content → Value} (value : Option inner.Content)
    (each : ∀ held,value = some held → inner.Written held (tree held)) :
    Shape.Field false (.optional inner) value (value.map tree) := by
  cases value with
  | none => exact ⟨rfl,rfl⟩
  | some held => exact ⟨held,rfl,each held rfl⟩

theorem Shape.mapped_written {inner : Shape} {content : α → inner.Content} {tree : α → Value} (value : Option α)
    (each : ∀ held,value = some held → inner.Written (content held) (tree held)) :
    Shape.Field false (.optional inner) (value.map content) (value.map tree) := by
  cases value with
  | none => exact ⟨rfl,rfl⟩
  | some held => exact ⟨content held,rfl,each held rfl⟩

theorem Shape.list_written {inner : Shape} {content : α → inner.Content} {tree : α → Value} (items : List α)
    (each : ∀ item,inner.Written (content item) (tree item)) :
    (Shape.list inner).Written (items.map content) (.list (items.map tree)) := by
  refine ⟨_,rfl,?_⟩
  rw [List.forall₂_map_left_iff,List.forall₂_map_right_iff]
  exact List.forall₂_same.mpr fun item _ => each item

theorem SubNetwork.toValue_written (sub : SubNetwork) : SubNetwork.shape.Written sub.content sub.toValue :=
  Shape.record_written _ ⟨rfl,rfl,rfl,Shape.held_written .metadata sub.metadata fun _ _ => rfl,trivial⟩

theorem Network.toValue_written (network : Network) : Network.shape.Written network.content network.toValue :=
  Shape.record_written _ ⟨rfl,rfl,rfl,rfl,rfl,
    Shape.mapped_written network.subNetwork fun sub _ => sub.toValue_written,trivial⟩

theorem SubAccount.toValue_written (sub : SubAccount) : SubAccount.shape.Written sub.content sub.toValue :=
  Shape.record_written _ ⟨rfl,rfl,rfl,Shape.held_written .metadata sub.metadata fun _ _ => rfl,trivial⟩

theorem Account.toValue_written (account : Account) : Account.shape.Written account.content account.toValue :=
  Shape.record_written _ ⟨rfl,rfl,rfl,Shape.mapped_written account.subAccount fun sub _ => sub.toValue_written,rfl,
    Shape.held_written .metadata account.metadata fun _ _ => rfl,trivial⟩

theorem Currency.toValue_written (currency : Currency) : Currency.shape.Written currency.content currency.toValue :=
  Shape.record_written _ ⟨rfl,rfl,rfl,rfl,rfl,
    Shape.held_written .metadata currency.metadata fun _ _ => rfl,trivial⟩

theorem PrefundedAccount.toValue_written (funded : PrefundedAccount) :
    PrefundedAccount.shape.Written funded.content funded.toValue :=
  Shape.record_written _ ⟨rfl,rfl,rfl,funded.account.toValue_written,rfl,rfl,rfl,
    funded.currency.toValue_written,trivial⟩

theorem Action.toValue_written (action : Action) : Action.shape.Written action.content action.toValue :=
  Shape.record_written _ ⟨rfl,rfl,rfl,rfl,rfl,Shape.held_written .text action.outputPath fun _ _ => rfl,trivial⟩

theorem Scenario.toValue_written (scenario : Scenario) : Scenario.shape.Written scenario.content scenario.toValue :=
  Shape.record_written _ ⟨rfl,rfl,rfl,Shape.list_written scenario.actions Action.toValue_written,trivial⟩

theorem Workflow.toValue_written (workflow : Workflow) : Workflow.shape.Written workflow.content workflow.toValue :=
  Shape.record_written _ ⟨rfl,rfl,rfl,rfl,rfl,Shape.list_written workflow.scenarios Scenario.toValue_written,trivial⟩

theorem EndConditions.toValue_written (conditions : EndConditions)
    (finite : ∀ coverage,conditions.reconciliationCoverage = some coverage → coverage.isFinite = true) :
    EndConditions.shape.Written conditions.content conditions.toValue :=
  Shape.record_written _ ⟨rfl,Shape.held_written (.integer .signed64) conditions.index fun _ _ => rfl,rfl,
    Shape.held_written .flag conditions.tip fun _ _ => rfl,rfl,
    Shape.held_written (.integer .word64) conditions.duration fun _ _ => rfl,rfl,
    Shape.held_written .real conditions.reconciliationCoverage fun coverage held => ⟨finite coverage held,rfl⟩,trivial⟩

-- The document that says all of a configuration itself and leaves nothing to a
-- catalog.
def DataSettings.toDocument (data : DataSettings) : DataDocument where
  activeReconciliationConcurrency := some data.activeReconciliationConcurrency
  inactiveReconciliationConcurrency := some data.inactiveReconciliationConcurrency
  inactiveReconciliationFrequency := some data.inactiveReconciliationFrequency
  logBlocks := data.logBlocks
  logTransactions := data.logTransactions
  logBalanceChanges := data.logBalanceChanges
  logReconciliations := data.logReconciliations
  ignoreReconciliationError := data.ignoreReconciliationError
  exemptAccounts := data.exemptAccounts
  bootstrapBalances := data.bootstrapBalances
  historicalBalanceEnabled := data.historicalBalanceEnabled
  interestingAccounts := data.interestingAccounts
  reconciliationDisabled := data.reconciliationDisabled
  inactiveDiscrepancySearchDisabled := data.inactiveDiscrepancySearchDisabled
  balanceTrackingDisabled := data.balanceTrackingDisabled
  coinTrackingDisabled := data.coinTrackingDisabled
  startIndex := data.startIndex
  endConditions := data.endConditions
  statusPort := some data.statusPort
  resultsOutputFile := data.resultsOutputFile
  pruningDisabled := data.pruningDisabled

def ConstructionSettings.toDocument (construction : ConstructionSettings) : ConstructionDocument where
  offlineUrl := some construction.offlineUrl
  maxOfflineConnections := some construction.maxOfflineConnections
  staleDepth := some construction.staleDepth
  broadcastLimit := some construction.broadcastLimit
  ignoreBroadcastFailures := construction.ignoreBroadcastFailures
  clearBroadcasts := construction.clearBroadcasts
  broadcastBehindTip := construction.broadcastBehindTip
  blockBroadcastLimit := some construction.blockBroadcastLimit
  rebroadcastAll := construction.rebroadcastAll
  prefundedAccounts := construction.prefundedAccounts
  workflows := construction.workflows
  constructorDslFile := construction.constructorDslFile
  endConditions := construction.endConditions
  statusPort := some construction.statusPort
  resultsOutputFile := construction.resultsOutputFile
  quiet := construction.quiet

def Configuration.toDocument (configuration : Configuration) : Document where
  network := some configuration.network
  onlineUrl := some configuration.onlineUrl
  dataDirectory := configuration.dataDirectory
  httpTimeout := some configuration.httpTimeout
  maxRetries := some configuration.maxRetries
  retryElapsedTime := configuration.retryElapsedTime
  maxOnlineConnections := some configuration.maxOnlineConnections
  maxSyncConcurrency := some configuration.maxSyncConcurrency
  tipDelay := some configuration.tipDelay
  logConfiguration := configuration.logConfiguration
  construction := configuration.construction.map ConstructionSettings.toDocument
  data := some configuration.data.toDocument

theorem DataSettings.toValue_written (data : DataSettings)
    (finite : ∀ conditions,data.endConditions = some conditions →
      ∀ coverage,conditions.reconciliationCoverage = some coverage → coverage.isFinite = true) :
    DataDocument.shape.Written data.toDocument.content data.toValue :=
  Shape.record_written _ ⟨rfl,Shape.given_written rfl,rfl,Shape.given_written rfl,rfl,Shape.given_written rfl,
    rfl,rfl,rfl,rfl,rfl,rfl,rfl,rfl,rfl,rfl,
    rfl,Shape.held_written .path data.exemptAccounts fun _ _ => rfl,
    rfl,Shape.held_written .path data.bootstrapBalances fun _ _ => rfl,
    rfl,Shape.held_written .flag data.historicalBalanceEnabled fun _ _ => rfl,
    rfl,Shape.held_written .path data.interestingAccounts fun _ _ => rfl,
    rfl,rfl,rfl,rfl,rfl,rfl,rfl,rfl,
    rfl,Shape.held_written (.integer .signed64) data.startIndex fun _ _ => rfl,
    rfl,Shape.mapped_written data.endConditions fun conditions held =>
      conditions.toValue_written (finite conditions held),
    rfl,Shape.given_written rfl,
    rfl,Shape.held_written .path data.resultsOutputFile fun _ _ => rfl,rfl,rfl,trivial⟩

theorem ConstructionSettings.toValue_written (construction : ConstructionSettings) :
    ConstructionDocument.shape.Written construction.toDocument.content construction.toValue := by
  have accounts : Shape.Field false (.list PrefundedAccount.shape)
      (construction.prefundedAccounts.map PrefundedAccount.content)
      (unlessEmpty (construction.prefundedAccounts.map PrefundedAccount.toValue)) := by
    cases construction.prefundedAccounts with
    | nil => exact ⟨rfl,rfl⟩
    | cons funded rest => exact Shape.list_written (funded :: rest) PrefundedAccount.toValue_written
  have conditions : Shape.Field false .counts construction.endConditions
      (if construction.endConditions.isEmpty then none else some (countsValue construction.endConditions)) := by
    by_cases empty : construction.endConditions.isEmpty
    · rw [if_pos empty]
      exact ⟨rfl,Keyed.same_rows _ _ (List.isEmpty_iff.mp empty)⟩
    · rw [if_neg empty]
      rfl
  exact Shape.record_written _ ⟨rfl,Shape.given_written rfl,rfl,Shape.given_written rfl,
    rfl,Shape.given_written rfl,rfl,Shape.given_written rfl,rfl,rfl,rfl,rfl,rfl,rfl,
    rfl,Shape.given_written rfl,rfl,rfl,rfl,accounts,
    rfl,Shape.list_written construction.workflows Workflow.toValue_written,
    rfl,Shape.held_written .path construction.constructorDslFile fun _ _ => rfl,rfl,conditions,
    rfl,Shape.given_written rfl,rfl,Shape.held_written .path construction.resultsOutputFile fun _ _ => rfl,
    rfl,rfl,trivial⟩

theorem Configuration.toValue_written (configuration : Configuration)
    (finite : ∀ conditions,configuration.data.endConditions = some conditions →
      ∀ coverage,conditions.reconciliationCoverage = some coverage → coverage.isFinite = true) :
    Document.shape.Written configuration.toDocument.content configuration.toValue := by
  have construction : Shape.Field false (.optional ConstructionDocument.shape)
      ((configuration.construction.map ConstructionSettings.toDocument).map ConstructionDocument.content)
      (configuration.construction.map ConstructionSettings.toValue) := by
    rw [Option.map_map]
    exact Shape.mapped_written configuration.construction fun construction _ => construction.toValue_written
  exact Shape.record_written _ ⟨rfl,Shape.given_written configuration.network.toValue_written,
    rfl,Shape.given_written rfl,rfl,Shape.held_written .path configuration.dataDirectory fun _ _ => rfl,
    rfl,Shape.given_written rfl,rfl,Shape.given_written rfl,
    rfl,Shape.held_written (.integer .word64) configuration.retryElapsedTime fun _ _ => rfl,
    rfl,Shape.given_written rfl,rfl,Shape.given_written rfl,rfl,Shape.given_written rfl,rfl,rfl,
    rfl,construction,rfl,Shape.given_written (configuration.data.toValue_written finite),trivial⟩

theorem option_restored {back : β → α} {there : α → β} (each : ∀ value,back (there value) = value)
    (held : Option α) : (held.map there).map back = held := by
  cases held with
  | none => rfl
  | some value => exact congrArg some (each value)

theorem list_restored {back : β → α} {there : α → β} (each : ∀ value,back (there value) = value)
    (items : List α) : (items.map there).map back = items := by
  rw [List.map_map]
  exact List.map_id'' each items

theorem Network.ofContent_content (network : Network) : ofContent network.content = network :=
  congrArg (Network.mk network.blockchain network.network) (option_restored (fun _ => rfl) network.subNetwork)

theorem Account.ofContent_content (account : Account) : ofContent account.content = account :=
  congrArg (fun sub => Account.mk account.address sub account.metadata)
    (option_restored (fun _ => rfl) account.subAccount)

theorem PrefundedAccount.ofContent_content (funded : PrefundedAccount) : ofContent funded.content = funded :=
  congrArg (fun account => PrefundedAccount.mk funded.privateKey account funded.curve funded.currency)
    funded.account.ofContent_content

theorem Scenario.ofContent_content (scenario : Scenario) : ofContent scenario.content = scenario :=
  congrArg (Scenario.mk scenario.name) (list_restored (fun _ => rfl) scenario.actions)

theorem Workflow.ofContent_content (workflow : Workflow) : ofContent workflow.content = workflow :=
  congrArg (Workflow.mk workflow.name workflow.concurrency)
    (list_restored Scenario.ofContent_content workflow.scenarios)

theorem DataDocument.ofContent_content (data : DataDocument) : ofContent data.content = data := by
  have conditions : (data.endConditions.map EndConditions.content).map EndConditions.ofContent = data.endConditions :=
    option_restored (fun _ => rfl) data.endConditions
  simp only [ofContent,content,conditions]

theorem ConstructionDocument.ofContent_content (construction : ConstructionDocument) :
    ofContent construction.content = construction := by
  have accounts := list_restored PrefundedAccount.ofContent_content construction.prefundedAccounts
  have workflows := list_restored Workflow.ofContent_content construction.workflows
  simp only [ofContent,content,accounts,workflows]

theorem Document.ofContent_content (document : Document) : ofContent document.content = document := by
  have network := option_restored Network.ofContent_content document.network
  have construction := option_restored ConstructionDocument.ofContent_content document.construction
  have data := option_restored DataDocument.ofContent_content document.data
  simp only [ofContent,content,network,construction,data]

theorem Network.content_ofContent (content : Network.shape.Content) : (ofContent content).content = content := by
  obtain ⟨blockchain,network,sub,⟨⟩⟩ := content
  have same : (sub.map SubNetwork.ofContent).map SubNetwork.content = sub := option_restored (fun _ => rfl) sub
  simp only [ofContent,Network.content,same]
  rfl

theorem Account.content_ofContent (content : Account.shape.Content) : (ofContent content).content = content := by
  obtain ⟨address,sub,metadata,⟨⟩⟩ := content
  have same : (sub.map SubAccount.ofContent).map SubAccount.content = sub := option_restored (fun _ => rfl) sub
  simp only [ofContent,Account.content,same]
  rfl

theorem PrefundedAccount.content_ofContent (content : PrefundedAccount.shape.Content) :
    (ofContent content).content = content := by
  obtain ⟨key,account,curve,currency,⟨⟩⟩ := content
  simp only [ofContent,PrefundedAccount.content,Account.content_ofContent]
  rfl

theorem Scenario.content_ofContent (content : Scenario.shape.Content) : (ofContent content).content = content := by
  obtain ⟨name,actions,⟨⟩⟩ := content
  have same : (actions.map Action.ofContent).map Action.content = actions := list_restored (fun _ => rfl) actions
  simp only [ofContent,Scenario.content,same]
  rfl

theorem Workflow.content_ofContent (content : Workflow.shape.Content) : (ofContent content).content = content := by
  obtain ⟨name,concurrency,scenarios,⟨⟩⟩ := content
  have same : (scenarios.map Scenario.ofContent).map Scenario.content = scenarios :=
    list_restored Scenario.content_ofContent scenarios
  simp only [ofContent,Workflow.content,same]
  rfl

theorem DataDocument.content_ofContent (content : DataDocument.shape.Content) : (ofContent content).content = content := by
  obtain ⟨_,_,_,_,_,_,_,_,_,_,_,_,_,_,_,_,_,conditions,_,_,_,⟨⟩⟩ := content
  have same : (conditions.map EndConditions.ofContent).map EndConditions.content = conditions :=
    option_restored (fun _ => rfl) conditions
  simp only [ofContent,DataDocument.content,same]
  rfl

theorem ConstructionDocument.content_ofContent (content : ConstructionDocument.shape.Content) :
    (ofContent content).content = content := by
  obtain ⟨_,_,_,_,_,_,_,_,_,accounts,workflows,_,_,_,_,_,⟨⟩⟩ := content
  have funded : (accounts.map PrefundedAccount.ofContent).map PrefundedAccount.content = accounts :=
    list_restored PrefundedAccount.content_ofContent accounts
  have same : (workflows.map Workflow.ofContent).map Workflow.content = workflows :=
    list_restored Workflow.content_ofContent workflows
  simp only [ofContent,ConstructionDocument.content,funded,same]
  rfl

theorem Document.content_ofContent (content : Document.shape.Content) : (ofContent content).content = content := by
  obtain ⟨network,_,_,_,_,_,_,_,_,_,construction,data,⟨⟩⟩ := content
  have named : (network.map Network.ofContent).map Network.content = network :=
    option_restored Network.content_ofContent network
  have built : (construction.map ConstructionDocument.ofContent).map ConstructionDocument.content = construction :=
    option_restored ConstructionDocument.content_ofContent construction
  have same : (data.map DataDocument.ofContent).map DataDocument.content = data :=
    option_restored DataDocument.content_ofContent data
  simp only [ofContent,Document.content,named,built,same]
  rfl

end LedgerSettings
