import LedgerSettings.Presentation
import LedgerSettings.Text.Character
import LedgerSettings.Validation

namespace LedgerSettings.Logging

inductive Level where
  | trace
  | debug
  | info
  | warn
  | error
  deriving DecidableEq

namespace Level

def name : Level → String
  | .trace => "TRACE"
  | .debug => "DEBUG"
  | .info => "INFO"
  | .warn => "WARN"
  | .error => "ERROR"

def column : Level → String
  | .info => " INFO"
  | .warn => " WARN"
  | level => level.name

def colour : Level → Nat
  | .trace => 35
  | .debug => 34
  | .info => 32
  | .warn => 33
  | .error => 31

def severity : Level → Nat
  | .trace => 0
  | .debug => 1
  | .info => 2
  | .warn => 3
  | .error => 4

end Level

-- A quoted text cannot be taken for anything around it; a shown one stands as it is.
inductive Fact where
  | quoted (text : String)
  | shown (text : String)
  | count (number : Nat)
  deriving DecidableEq

structure Record where
  level : Level
  target : String
  message : String
  facts : List (String × Fact)
  deriving DecidableEq

def commandTarget : String := "ledgercheck"
def loaderTarget : String := "ledgercheck::config::loader"
def validationTarget : String := "ledgercheck::config::validate"

def Record.ofEvent : Event → Record
  | .decodingFile source =>
    ⟨.debug,loaderTarget,"Decoding configuration file",[("source",.shown source)]⟩
  | .decodingDocument source =>
    ⟨.debug,loaderTarget,"Decoding configuration document",[("source",.quoted source)]⟩
  | .validating source =>
    ⟨.debug,loaderTarget,"Validating configuration",[("source",.quoted source)]⟩
  | .compiled path workflows =>
    ⟨.debug,validationTarget,"Compiled constructor DSL file",
      [("path",.shown path),("workflows",.count workflows)]⟩
  | .resolved configuration =>
    ⟨.info,loaderTarget,"Resolved configuration:\n" ++ Presentation.json configuration,[]⟩
  | .loaded source => ⟨.info,loaderTarget,"Loaded configuration file",[("source",.quoted source)]⟩

def Fact.describe : Fact → String
  | .quoted text => Text.quoted text
  | .shown text => text
  | .count number => toString number

def Fact.toValue : Fact → Value
  | .quoted text | .shown text => .text text
  | .count number => .natural number

-- A message may not steer the terminal it is shown on.
def harmless (c : Char) : List Char :=
  match c with
  | '\x1b' => ['\\','x','1','b']
  | '\x07' => ['\\','x','0','7']
  | '\x08' => ['\\','x','0','8']
  | '\x0c' => ['\\','x','0','c']
  | '\x7f' => ['\\','x','7','f']
  | c =>
    if 0x80 ≤ c.toNat && c.toNat ≤ 0x9f then
      ['\\','u','\x7b'] ++ Text.hexDigits c.toNat ++ ['\x7d']
    else [c]

def styled (colour : Bool) (code : Nat) (text : String) : String :=
  if colour then Presentation.escapeCode code ++ text ++ Presentation.escapeCode 0 else text

def Record.text (colour : Bool) (stamp : String) (record : Record) : String :=
  let message := String.ofList (record.message.toList.flatMap harmless)
  let facts := record.facts.map fun (name,fact) =>
    " " ++ styled colour 3 name ++ styled colour 2 "=" ++ fact.describe
  styled colour 2 stamp ++ " " ++ styled colour record.level.colour record.level.column ++ " "
    ++ styled colour 2 record.target ++ styled colour 2 ":" ++ " " ++ message ++ String.join facts ++ "\n"

def Record.toValue (stamp : String) (record : Record) : Value := .table [
  ("timestamp",.text stamp),
  ("level",.text record.level.name),
  ("fields",.table (("message",.text record.message) ::
    record.facts.map fun (name,fact) => (name,fact.toValue))),
  ("target",.text record.target)]

def Record.json (stamp : String) (record : Record) : String :=
  Json.compact (record.toValue stamp) ++ "\n"

end LedgerSettings.Logging
