import LedgerSettings.Proofs.Shape.Records
import Mathlib.Logic.Function.Basic

namespace LedgerSettings

inductive Catalog.Entry where
  | network
  | url
  | httpTimeout
  | maxRetries
  | maxOnlineConnections
  | maxOfflineConnections
  | maxSyncConcurrency
  | tipDelay
  | activeReconciliationConcurrency
  | inactiveReconciliationConcurrency
  | inactiveReconciliationFrequency
  | staleDepth
  | broadcastLimit
  | blockBroadcastLimit
  | statusPort
  deriving DecidableEq

namespace Catalog

def Entry.Content : Entry → Type
  | .network => Network
  | .url => String
  | .statusPort => UInt16
  | _ => UInt64

def get (catalog : Catalog) : (entry : Entry) → entry.Content
  | .network => catalog.network
  | .url => catalog.url
  | .httpTimeout => catalog.httpTimeout
  | .maxRetries => catalog.maxRetries
  | .maxOnlineConnections => catalog.maxOnlineConnections
  | .maxOfflineConnections => catalog.maxOfflineConnections
  | .maxSyncConcurrency => catalog.maxSyncConcurrency
  | .tipDelay => catalog.tipDelay
  | .activeReconciliationConcurrency => catalog.activeReconciliationConcurrency
  | .inactiveReconciliationConcurrency => catalog.inactiveReconciliationConcurrency
  | .inactiveReconciliationFrequency => catalog.inactiveReconciliationFrequency
  | .staleDepth => catalog.staleDepth
  | .broadcastLimit => catalog.broadcastLimit
  | .blockBroadcastLimit => catalog.blockBroadcastLimit
  | .statusPort => catalog.statusPort

def ofEntries (entries : (entry : Entry) → entry.Content) : Catalog where
  network := entries .network
  url := entries .url
  httpTimeout := entries .httpTimeout
  maxRetries := entries .maxRetries
  maxOnlineConnections := entries .maxOnlineConnections
  maxOfflineConnections := entries .maxOfflineConnections
  maxSyncConcurrency := entries .maxSyncConcurrency
  tipDelay := entries .tipDelay
  activeReconciliationConcurrency := entries .activeReconciliationConcurrency
  inactiveReconciliationConcurrency := entries .inactiveReconciliationConcurrency
  inactiveReconciliationFrequency := entries .inactiveReconciliationFrequency
  staleDepth := entries .staleDepth
  broadcastLimit := entries .broadcastLimit
  blockBroadcastLimit := entries .blockBroadcastLimit
  statusPort := entries .statusPort

theorem ofEntries_get (catalog : Catalog) : ofEntries catalog.get = catalog := rfl

def set (catalog : Catalog) (entry : Entry) (value : entry.Content) : Catalog :=
  ofEntries (Function.update catalog.get entry value)

def ApartAt (entry : Entry) (left right : Catalog) : Prop := ∀ other,other ≠ entry → left.get other = right.get other

theorem apart_set {left right : Catalog} (apart : ApartAt entry left right) : left.set entry (right.get entry) = right := by
  have same : Function.update left.get entry (right.get entry) = right.get := by
    funext other
    by_cases here : other = entry
    · subst here
      exact Function.update_self ..
    · rw [Function.update_of_ne here]
      exact apart other here
  rw [set,same,ofEntries_get]

end Catalog

open Catalog (Entry)

-- The settings of a configuration that an entry feeds.
inductive Setting : Entry → Type where
  | network : Setting .network
  | onlineUrl : Setting .url
  | httpTimeout : Setting .httpTimeout
  | maxRetries : Setting .maxRetries
  | maxOnlineConnections : Setting .maxOnlineConnections
  | maxSyncConcurrency : Setting .maxSyncConcurrency
  | tipDelay : Setting .tipDelay
  | activeReconciliationConcurrency : Setting .activeReconciliationConcurrency
  | inactiveReconciliationConcurrency : Setting .inactiveReconciliationConcurrency
  | inactiveReconciliationFrequency : Setting .inactiveReconciliationFrequency
  | dataStatusPort : Setting .statusPort
  | offlineUrl : Setting .url
  | maxOfflineConnections : Setting .maxOfflineConnections
  | staleDepth : Setting .staleDepth
  | broadcastLimit : Setting .broadcastLimit
  | blockBroadcastLimit : Setting .blockBroadcastLimit
  | constructionStatusPort : Setting .statusPort
  deriving DecidableEq

namespace Setting

def fedBy : (entry : Entry) → List (Setting entry)
  | .network => [.network]
  | .url => [.onlineUrl,.offlineUrl]
  | .httpTimeout => [.httpTimeout]
  | .maxRetries => [.maxRetries]
  | .maxOnlineConnections => [.maxOnlineConnections]
  | .maxOfflineConnections => [.maxOfflineConnections]
  | .maxSyncConcurrency => [.maxSyncConcurrency]
  | .tipDelay => [.tipDelay]
  | .activeReconciliationConcurrency => [.activeReconciliationConcurrency]
  | .inactiveReconciliationConcurrency => [.inactiveReconciliationConcurrency]
  | .inactiveReconciliationFrequency => [.inactiveReconciliationFrequency]
  | .staleDepth => [.staleDepth]
  | .broadcastLimit => [.broadcastLimit]
  | .blockBroadcastLimit => [.blockBroadcastLimit]
  | .statusPort => [.dataStatusPort,.constructionStatusPort]

theorem fedBy_all (setting : Setting entry) : setting ∈ fedBy entry := by cases setting <;> decide

def given? (document : Document) : Setting entry → Option entry.Content
  | .network => document.network
  | .onlineUrl => document.onlineUrl
  | .httpTimeout => document.httpTimeout
  | .maxRetries => document.maxRetries
  | .maxOnlineConnections => document.maxOnlineConnections
  | .maxSyncConcurrency => document.maxSyncConcurrency
  | .tipDelay => document.tipDelay
  | .activeReconciliationConcurrency => document.data.bind DataDocument.activeReconciliationConcurrency
  | .inactiveReconciliationConcurrency => document.data.bind DataDocument.inactiveReconciliationConcurrency
  | .inactiveReconciliationFrequency => document.data.bind DataDocument.inactiveReconciliationFrequency
  | .dataStatusPort => document.data.bind DataDocument.statusPort
  | .offlineUrl => document.construction.bind ConstructionDocument.offlineUrl
  | .maxOfflineConnections => document.construction.bind ConstructionDocument.maxOfflineConnections
  | .staleDepth => document.construction.bind ConstructionDocument.staleDepth
  | .broadcastLimit => document.construction.bind ConstructionDocument.broadcastLimit
  | .blockBroadcastLimit => document.construction.bind ConstructionDocument.blockBroadcastLimit
  | .constructionStatusPort => document.construction.bind ConstructionDocument.statusPort

-- What a configuration has for a setting. The settings of the construction check are
-- there only where its section is.
def get? (configuration : Configuration) : Setting entry → Option entry.Content
  | .network => some configuration.network
  | .onlineUrl => some configuration.onlineUrl
  | .httpTimeout => some configuration.httpTimeout
  | .maxRetries => some configuration.maxRetries
  | .maxOnlineConnections => some configuration.maxOnlineConnections
  | .maxSyncConcurrency => some configuration.maxSyncConcurrency
  | .tipDelay => some configuration.tipDelay
  | .activeReconciliationConcurrency => some configuration.data.activeReconciliationConcurrency
  | .inactiveReconciliationConcurrency => some configuration.data.inactiveReconciliationConcurrency
  | .inactiveReconciliationFrequency => some configuration.data.inactiveReconciliationFrequency
  | .dataStatusPort => some configuration.data.statusPort
  | .offlineUrl => configuration.construction.map ConstructionSettings.offlineUrl
  | .maxOfflineConnections => configuration.construction.map ConstructionSettings.maxOfflineConnections
  | .staleDepth => configuration.construction.map ConstructionSettings.staleDepth
  | .broadcastLimit => configuration.construction.map ConstructionSettings.broadcastLimit
  | .blockBroadcastLimit => configuration.construction.map ConstructionSettings.blockBroadcastLimit
  | .constructionStatusPort => configuration.construction.map ConstructionSettings.statusPort

def put (configuration : Configuration) : Setting entry → entry.Content → Configuration
  | .network,value => {configuration with network := value}
  | .onlineUrl,value => {configuration with onlineUrl := value}
  | .httpTimeout,value => {configuration with httpTimeout := value}
  | .maxRetries,value => {configuration with maxRetries := value}
  | .maxOnlineConnections,value => {configuration with maxOnlineConnections := value}
  | .maxSyncConcurrency,value => {configuration with maxSyncConcurrency := value}
  | .tipDelay,value => {configuration with tipDelay := value}
  | .activeReconciliationConcurrency,value =>
    {configuration with data := {configuration.data with activeReconciliationConcurrency := value}}
  | .inactiveReconciliationConcurrency,value =>
    {configuration with data := {configuration.data with inactiveReconciliationConcurrency := value}}
  | .inactiveReconciliationFrequency,value =>
    {configuration with data := {configuration.data with inactiveReconciliationFrequency := value}}
  | .dataStatusPort,value => {configuration with data := {configuration.data with statusPort := value}}
  | .offlineUrl,value =>
    {configuration with construction := configuration.construction.map fun held => {held with offlineUrl := value}}
  | .maxOfflineConnections,value =>
    {configuration with construction := configuration.construction.map fun held => {held with maxOfflineConnections := value}}
  | .staleDepth,value =>
    {configuration with construction := configuration.construction.map fun held => {held with staleDepth := value}}
  | .broadcastLimit,value =>
    {configuration with construction := configuration.construction.map fun held => {held with broadcastLimit := value}}
  | .blockBroadcastLimit,value =>
    {configuration with construction := configuration.construction.map fun held => {held with blockBroadcastLimit := value}}
  | .constructionStatusPort,value =>
    {configuration with construction := configuration.construction.map fun held => {held with statusPort := value}}

def stands (document : Document) : Setting entry → Bool
  | .offlineUrl | .maxOfflineConnections | .staleDepth | .broadcastLimit | .blockBroadcastLimit
  | .constructionStatusPort => document.construction.isSome
  | _ => true

-- A setting holds what the document gives for it, and else the entry that feeds it.
theorem get?_resolve (setting : Setting entry) (document : Document) (catalog : Catalog) :
    setting.get? (document.resolve catalog) =
      if setting.stands document then some ((setting.given? document).getD (catalog.get entry)) else none := by
  cases setting with
  | network | onlineUrl | httpTimeout | maxRetries | maxOnlineConnections | maxSyncConcurrency | tipDelay => rfl
  | activeReconciliationConcurrency | inactiveReconciliationConcurrency | inactiveReconciliationFrequency
  | dataStatusPort =>
    obtain ⟨_,_,_,_,_,_,_,_,_,_,_,data⟩ := document
    cases data <;> rfl
  | offlineUrl | maxOfflineConnections | staleDepth | broadcastLimit | blockBroadcastLimit | constructionStatusPort =>
    obtain ⟨_,_,_,_,_,_,_,_,_,_,construction,_⟩ := document
    cases construction <;> rfl

theorem given_stands (setting : Setting entry) {document : Document} {value : entry.Content}
    (given : setting.given? document = some value) : setting.stands document = true := by
  cases setting with
  | offlineUrl | maxOfflineConnections | staleDepth | broadcastLimit | blockBroadcastLimit | constructionStatusPort =>
    obtain ⟨section',present,-⟩ := Option.bind_eq_some_iff.mp given
    exact Option.isSome_of_eq_some present
  | _ => rfl

def isOpen (document : Document) (setting : Setting entry) : Bool :=
  setting.stands document && (setting.given? document).isNone

end Setting

namespace Document

-- The settings an entry feeds and the document leaves absent.
def openTo (document : Document) (entry : Entry) : List (Setting entry) :=
  (Setting.fedBy entry).filter fun setting => setting.isOpen document

theorem resolve_set (document : Document) (catalog : Catalog) (entry : Entry) (value : entry.Content) :
    document.resolve (catalog.set entry value) =
      (document.openTo entry).foldl (fun configuration setting => setting.put configuration value)
        (document.resolve catalog) := by
  obtain ⟨network,onlineUrl,_,httpTimeout,maxRetries,_,maxOnlineConnections,maxSyncConcurrency,tipDelay,_,
    construction,data⟩ := document
  -- An entry is split at its own settings and the sections they stand in, and nowhere else.
  cases entry with
  | network => cases network <;> rfl
  | httpTimeout => cases httpTimeout <;> rfl
  | maxRetries => cases maxRetries <;> rfl
  | maxOnlineConnections => cases maxOnlineConnections <;> rfl
  | maxSyncConcurrency => cases maxSyncConcurrency <;> rfl
  | tipDelay => cases tipDelay <;> rfl
  | activeReconciliationConcurrency | inactiveReconciliationConcurrency | inactiveReconciliationFrequency =>
    cases data with
    | none => rfl
    | some data =>
      obtain ⟨active,inactive,frequency,_,_,_,_,_,_,_,_,_,_,_,_,_,_,_,_,_,_⟩ := data
      cases active <;> cases inactive <;> cases frequency <;> rfl
  | maxOfflineConnections | staleDepth | broadcastLimit | blockBroadcastLimit =>
    cases construction with
    | none => rfl
    | some construction =>
      obtain ⟨_,connections,depth,limit,_,_,_,block,_,_,_,_,_,_,_,_⟩ := construction
      cases connections <;> cases depth <;> cases limit <;> cases block <;> rfl
  | url =>
    cases construction with
    | none => cases onlineUrl <;> rfl
    | some construction =>
      obtain ⟨offlineUrl,_,_,_,_,_,_,_,_,_,_,_,_,_,_,_⟩ := construction
      cases onlineUrl <;> cases offlineUrl <;> rfl
  | statusPort =>
    cases construction with
    | none =>
      cases data with
      | none => rfl
      | some data =>
        obtain ⟨_,_,_,_,_,_,_,_,_,_,_,_,_,_,_,_,_,_,port,_,_⟩ := data
        cases port <;> rfl
    | some construction =>
      obtain ⟨_,_,_,_,_,_,_,_,_,_,_,_,_,asked,_,_⟩ := construction
      cases data with
      | none => cases asked <;> rfl
      | some data =>
        obtain ⟨_,_,_,_,_,_,_,_,_,_,_,_,_,_,_,_,_,_,port,_,_⟩ := data
        cases asked <;> cases port <;> rfl

-- What a document says about settings that no entry feeds. A missing data section says
-- as much as one with nothing in it.
def unfed (document : Document) : Document := {document with
  network := none
  onlineUrl := none
  httpTimeout := none
  maxRetries := none
  maxOnlineConnections := none
  maxSyncConcurrency := none
  tipDelay := none
  construction := document.construction.map fun held => {held with
    offlineUrl := none
    maxOfflineConnections := none
    staleDepth := none
    broadcastLimit := none
    blockBroadcastLimit := none
    statusPort := none}
  data := some {document.data.getD (.ofContent DataDocument.shape.blank) with
    activeReconciliationConcurrency := none
    inactiveReconciliationConcurrency := none
    inactiveReconciliationFrequency := none
    statusPort := none}}

theorem resolve_unfed (document : Document) (catalog : Catalog) :
    (document.resolve catalog).toDocument.unfed = document.unfed := by
  obtain ⟨_,_,_,_,_,_,_,_,_,_,construction,data⟩ := document
  cases construction <;> cases data <;> rfl

theorem resolve_construction (document : Document) (catalog : Catalog) :
    (document.resolve catalog).construction.isSome = document.construction.isSome := Option.isSome_map

theorem open_filled {document : Document} {setting : Setting entry} (free : setting.isOpen document = true)
    (catalog : Catalog) : setting.get? (document.resolve catalog) = some (catalog.get entry) := by
  obtain ⟨stands,absent⟩ := Bool.and_eq_true_iff.mp free
  rw [setting.get?_resolve,if_pos stands,Option.isNone_iff_eq_none.mp absent]
  rfl

theorem given_kept {document : Document} {setting : Setting entry} (given : setting.given? document = some value)
    (catalog : Catalog) : setting.get? (document.resolve catalog) = some value := by
  rw [setting.get?_resolve,if_pos (setting.given_stands given),given]
  rfl

-- An entry of the catalog reaches the settings it feeds where the document leaves them
-- absent, and nothing else. What the document gives is kept under every catalog, and a
-- construction section is there under every catalog or under none.
theorem entry_reaches (document : Document) {entry : Entry} {left right : Catalog}
    (apart : Catalog.ApartAt entry left right) :
    document.resolve right = (document.openTo entry).foldl
      (fun configuration setting => setting.put configuration (right.get entry)) (document.resolve left) ∧
    (∀ setting,setting ∈ document.openTo entry ↔
      setting.stands document = true ∧ setting.given? document = none) ∧
    (∀ setting ∈ document.openTo entry,setting.get? (document.resolve left) = some (left.get entry) ∧
      setting.get? (document.resolve right) = some (right.get entry)) ∧
    ∀ catalog,
      (∀ {other} (setting : Setting other) value,setting.given? document = some value →
        setting.get? (document.resolve catalog) = some value) ∧
      (document.resolve catalog).toDocument.unfed = document.unfed ∧
      (document.resolve catalog).construction.isSome = document.construction.isSome := by
  have opened : ∀ setting,setting ∈ document.openTo entry ↔ setting.isOpen document = true := by
    intro setting
    exact List.mem_filter.trans (and_iff_right setting.fedBy_all)
  refine ⟨?_,?_,?_,?_⟩
  · rw [← document.resolve_set left,Catalog.apart_set apart]
  · intro setting
    rw [opened,Setting.isOpen,Bool.and_eq_true,Option.isNone_iff_eq_none]
  · intro setting member
    have free := (opened setting).mp member
    exact ⟨open_filled free left,open_filled free right⟩
  · intro catalog
    exact ⟨fun setting value given => given_kept given catalog,document.resolve_unfed catalog,
      document.resolve_construction catalog⟩

def ported (port : UInt16) : Catalog := {Catalog.stock with statusPort := port}

def halfPorted : Document := {blank with
  construction := some {ConstructionDocument.ofContent ConstructionDocument.shape.blank with statusPort := some 0}}

theorem ported_reaches : Catalog.ApartAt .statusPort (ported 1) (ported 2) ∧
    halfPorted.resolve (ported 2) = Setting.put (halfPorted.resolve (ported 1)) .dataStatusPort (2 : UInt16) ∧
    Setting.get? (halfPorted.resolve (ported 1)) .dataStatusPort = some (1 : UInt16) ∧
    Setting.get? (halfPorted.resolve (ported 2)) .constructionStatusPort = some (0 : UInt16) := by
  have apart : Catalog.ApartAt .statusPort (ported 1) (ported 2) := by
    intro other different
    cases other with
    | statusPort => exact absurd rfl different
    | _ => rfl
  obtain ⟨changed,opened,reached,kept⟩ := entry_reaches halfPorted apart
  exact ⟨apart,changed,(reached .dataStatusPort ((opened _).mpr ⟨rfl,rfl⟩)).1,
    (kept (ported 2)).1 .constructionStatusPort (0 : UInt16) rfl⟩

end Document

end LedgerSettings
