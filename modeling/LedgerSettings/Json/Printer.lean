import LedgerSettings.Decimal
import LedgerSettings.Value

namespace LedgerSettings.Json

def hexDigit (n : Nat) : Char :=
  if n < 10 then Char.ofNat ('0'.toNat + n) else Char.ofNat ('a'.toNat + (n - 10))

def escape (c : Char) : List Char :=
  match c with
  | '"' => ['\\','"']
  | '\\' => ['\\','\\']
  | '\x08' => ['\\','b']
  | '\x0c' => ['\\','f']
  | '\n' => ['\\','n']
  | '\r' => ['\\','r']
  | '\t' => ['\\','t']
  | c =>
    if c.toNat < 0x20 then ['\\','u','0','0',hexDigit (c.toNat / 16),hexDigit (c.toNat % 16)]
    else [c]

def quote (text : String) : List Char := '"' :: (text.toList.flatMap escape ++ ['"'])

-- A real without a value has no JSON form; null stands in for it.
def printScalar : Scalar → List Char
  | .null => ['n','u','l','l']
  | .flag true => ['t','r','u','e']
  | .flag false => ['f','a','l','s','e']
  | .integer value => (toString value).toList
  | .real value =>
    if value.isFinite then (Decimal.Spelling.json.write value).toList else ['n','u','l','l']
  | .text value => quote value

structure Spacing where
  spread : Bool

def Spacing.pretty : Spacing := ⟨true⟩
def Spacing.compact : Spacing := ⟨false⟩

def Spacing.newline (spacing : Spacing) (level : Nat) : List Char :=
  if spacing.spread then '\n' :: List.replicate (2 * level) ' ' else []

def Spacing.colon (spacing : Spacing) : List Char := if spacing.spread then [':',' '] else [':']

mutual
def print (spacing : Spacing) : Nat → Value → List Char
  | _,.scalar content => printScalar content
  | _,.list [] => ['[',']']
  | level,.list (item :: rest) =>
    '[' :: (spacing.newline (level+1) ++ print spacing (level+1) item ++ printItems spacing (level+1) rest
      ++ spacing.newline level ++ [']'])
  | _,.table [] => ['\x7b','\x7d']
  | level,.table ((key,value) :: rest) =>
    '\x7b' :: (spacing.newline (level+1) ++ quote key ++ spacing.colon ++ print spacing (level+1) value
      ++ printRows spacing (level+1) rest ++ spacing.newline level ++ ['\x7d'])
def printItems (spacing : Spacing) : Nat → List Value → List Char
  | _,[] => []
  | level,item :: rest =>
    ',' :: (spacing.newline level ++ print spacing level item ++ printItems spacing level rest)
def printRows (spacing : Spacing) : Nat → List (String × Value) → List Char
  | _,[] => []
  | level,(key,value) :: rest =>
    ',' :: (spacing.newline level ++ quote key ++ spacing.colon ++ print spacing level value
      ++ printRows spacing level rest)
end

def pretty (value : Value) : String := String.ofList (print .pretty 0 value)
def compact (value : Value) : String := String.ofList (print .compact 0 value)

end LedgerSettings.Json
