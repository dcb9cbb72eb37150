import LedgerSettings.Identifiers
import LedgerSettings.Workflow

namespace LedgerSettings

inductive Objection where
  | blockchainMissing
  | networkMissing
  | subNetworkMissing
  | unsupportedCurve (tag : String)
  | addressMissing
  | subAddressMissing
  | symbolEmpty
  | decimalsNegative (decimals : Int32)
  | rejected (message : String)
  deriving DecidableEq

def Objection.message : Objection → String
  | .blockchainMissing => "network identifier blockchain is missing"
  | .networkMissing => "network identifier network is missing"
  | .subNetworkMissing => "sub network identifier network is missing"
  | .unsupportedCurve tag => s!"curve type {tag} is not supported"
  | .addressMissing => "account address is missing"
  | .subAddressMissing => "sub account address is missing"
  | .symbolEmpty => "currency symbol is empty"
  | .decimalsNegative decimals => s!"currency decimals {decimals.toInt} cannot be negative"
  | .rejected message => message

structure Asserter where
  network : Network → Except Objection Unit
  curve : Curve → Except Objection Unit
  account : Account → Except Objection Unit
  currency : Currency → Except Objection Unit

def supportedCurves : List String :=
  ["secp256k1","secp256k1_bip340","secp256r1","edwards25519","tweedle","pallas"]

def Asserter.structural : Asserter where
  network network :=
    if network.blockchain = "" then .error .blockchainMissing
    else if network.network = "" then .error .networkMissing
    else if network.subNetwork.any (·.network = "") then .error .subNetworkMissing
    else .ok ()
  curve curve :=
    if curve.tag ∈ supportedCurves then .ok () else .error (.unsupportedCurve curve.tag)
  account account :=
    if account.address = "" then .error .addressMissing
    else if account.subAccount.any (·.address = "") then .error .subAddressMissing
    else .ok ()
  currency currency :=
    if currency.symbol = "" then .error .symbolEmpty
    else if currency.decimals.toInt < 0 then .error (.decimalsNegative currency.decimals)
    else .ok ()

-- A failed compile: the outermost message and, below it, what it was caused by.
structure CompileFailure where
  message : String
  causes : List String
  deriving DecidableEq

structure Compiler where
  compile : String → Except CompileFailure (List Workflow)

def Compiler.unavailable : Compiler where
  compile path := .error ⟨s!"no constructor DSL compiler is available to compile {path}; inline the workflows instead",[]⟩

end LedgerSettings
