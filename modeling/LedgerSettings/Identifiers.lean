import LedgerSettings.Shape

namespace LedgerSettings

structure SubNetwork where
  network : String
  metadata : Option Metadata
  deriving BEq

structure Network where
  blockchain : String
  network : String
  subNetwork : Option SubNetwork
  deriving BEq

structure SubAccount where
  address : String
  metadata : Option Metadata
  deriving BEq

structure Account where
  address : String
  subAccount : Option SubAccount
  metadata : Option Metadata
  deriving BEq

structure Currency where
  symbol : String
  decimals : Int32
  metadata : Option Metadata
  deriving BEq

-- The tag is kept as written: an unknown curve is a matter of judgement and not of reading.
structure Curve where
  tag : String
  deriving DecidableEq

structure PrefundedAccount where
  privateKey : String
  account : Account
  curve : Curve
  currency : Currency
  deriving BEq

def Network.describe (network : Network) : String :=
  match network.subNetwork with
  | none => s!"{network.blockchain}:{network.network}"
  | some sub => s!"{network.blockchain}:{network.network}:{sub.network}"

def SubNetwork.shape : Shape := .record "SubNetworkIdentifier"
  (.needs "network" .text (.may "metadata" (.optional .metadata) .nil))

def SubNetwork.ofContent : SubNetwork.shape.Content → SubNetwork
  | (network,metadata,()) => ⟨network,metadata⟩

def SubNetwork.content (sub : SubNetwork) : SubNetwork.shape.Content :=
  (sub.network,sub.metadata,())

def SubNetwork.toValue (sub : SubNetwork) : Value := .ofPresent [
  ("network",some (.text sub.network)),
  ("metadata",sub.metadata.map Metadata.toValue)]

def Network.shape : Shape := .record "NetworkIdentifier"
  (.needs "blockchain" .text (.needs "network" .text
    (.may "sub_network_identifier" (.optional SubNetwork.shape) .nil)))

def Network.ofContent : Network.shape.Content → Network
  | (blockchain,network,sub,()) => ⟨blockchain,network,sub.map SubNetwork.ofContent⟩

def Network.content (network : Network) : Network.shape.Content :=
  (network.blockchain,network.network,network.subNetwork.map SubNetwork.content,())

def Network.toValue (network : Network) : Value := .ofPresent [
  ("blockchain",some (.text network.blockchain)),
  ("network",some (.text network.network)),
  ("sub_network_identifier",network.subNetwork.map SubNetwork.toValue)]

def SubAccount.shape : Shape := .record "SubAccountIdentifier"
  (.needs "address" .text (.may "metadata" (.optional .metadata) .nil))

def SubAccount.ofContent : SubAccount.shape.Content → SubAccount
  | (address,metadata,()) => ⟨address,metadata⟩

def SubAccount.content (sub : SubAccount) : SubAccount.shape.Content :=
  (sub.address,sub.metadata,())

def SubAccount.toValue (sub : SubAccount) : Value := .ofPresent [
  ("address",some (.text sub.address)),
  ("metadata",sub.metadata.map Metadata.toValue)]

def Account.shape : Shape := .record "AccountIdentifier"
  (.needs "address" .text (.may "sub_account" (.optional SubAccount.shape)
    (.may "metadata" (.optional .metadata) .nil)))

def Account.ofContent : Account.shape.Content → Account
  | (address,sub,metadata,()) => ⟨address,sub.map SubAccount.ofContent,metadata⟩

def Account.content (account : Account) : Account.shape.Content :=
  (account.address,account.subAccount.map SubAccount.content,account.metadata,())

def Account.toValue (account : Account) : Value := .ofPresent [
  ("address",some (.text account.address)),
  ("sub_account",account.subAccount.map SubAccount.toValue),
  ("metadata",account.metadata.map Metadata.toValue)]

def Currency.shape : Shape := .record "Currency"
  (.needs "symbol" .text (.needs "decimals" (.integer .signed32)
    (.may "metadata" (.optional .metadata) .nil)))

def Currency.ofContent : Currency.shape.Content → Currency
  | (symbol,decimals,metadata,()) => ⟨symbol,decimals,metadata⟩

def Currency.content (currency : Currency) : Currency.shape.Content :=
  (currency.symbol,currency.decimals,currency.metadata,())

def Currency.toValue (currency : Currency) : Value := .ofPresent [
  ("symbol",some (.text currency.symbol)),
  ("decimals",some (.integer currency.decimals.toInt)),
  ("metadata",currency.metadata.map Metadata.toValue)]

def Curve.shape : Shape := .text
def Curve.toValue (curve : Curve) : Value := .text curve.tag

def PrefundedAccount.shape : Shape := .record "PrefundedAccount"
  (.needs "privkey" .text (.needs "account_identifier" Account.shape
    (.needs "curve_type" Curve.shape (.needs "currency" Currency.shape .nil))))

def PrefundedAccount.ofContent : PrefundedAccount.shape.Content → PrefundedAccount
  | (key,account,curve,currency,()) =>
    ⟨key,.ofContent account,⟨curve⟩,.ofContent currency⟩

def PrefundedAccount.content (funded : PrefundedAccount) : PrefundedAccount.shape.Content :=
  (funded.privateKey,funded.account.content,funded.curve.tag,funded.currency.content,())

def PrefundedAccount.toValue (funded : PrefundedAccount) : Value := .ofPresent [
  ("privkey",some (.text funded.privateKey)),
  ("account_identifier",some funded.account.toValue),
  ("curve_type",some funded.curve.toValue),
  ("currency",some funded.currency.toValue)]

end LedgerSettings
