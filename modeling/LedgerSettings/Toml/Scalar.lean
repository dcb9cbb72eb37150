import LedgerSettings.Text.Character
import LedgerSettings.Value

namespace LedgerSettings.Toml

-- Nothing tells one kind of malformed text from another.
abbrev Reader := StateT (List Char) Option

def isBlank (c : Char) : Bool := c = ' ' || c = '\t'

def isPlain (c : Char) : Bool := c = '\t' || (0x20 ≤ c.toNat && c.toNat ≠ 0x7f)

def take (accepts : Char → Bool) : Reader (List Char) :=
  fun text => some (text.takeWhile accepts,text.dropWhile accepts)

def skipBlanks : Reader Unit := fun text => some ((),text.dropWhile isBlank)

def found (expected : Char) : Reader Bool
  | head :: rest => some (if head = expected then (true,rest) else (false,head :: rest))
  | [] => some (false,[])

def expect (expected : Char) : Reader Unit
  | head :: rest => if head = expected then some ((),rest) else none
  | [] => none

def oneOf (expected : List Char) : Reader Char
  | head :: rest => if head ∈ expected then some (head,rest) else none
  | [] => none

def endLine : Reader Unit
  | [] => some ((),[])
  | '\n' :: rest | '\r' :: '\n' :: rest => some ((),rest)
  | _ => none

def closeLine : Reader Unit := do
  skipBlanks
  if ← found '#' then let _ ← take isPlain
  endLine

def skipSpaceFrom : Bool → List Char → Option (List Char)
  | _,[] => some []
  | _,'\n' :: rest | _,'\r' :: '\n' :: rest => skipSpaceFrom false rest
  | true,head :: rest => if isPlain head then skipSpaceFrom true rest else none
  | false,head :: rest =>
    if isBlank head then skipSpaceFrom false rest
    else if head = '#' then skipSpaceFrom true rest
    else some (head :: rest)

def skipSpace : Reader Unit := fun text => (skipSpaceFrom false text).map fun rest => ((),rest)

def digitsFrom (isDigit : Char → Bool) : List Char → List Char × List Char
  | '_' :: head :: rest =>
    if isDigit head then
      let (digits,stop) := digitsFrom isDigit rest
      (head :: digits,stop)
    else ([],'_' :: head :: rest)
  | head :: rest =>
    if isDigit head then
      let (digits,stop) := digitsFrom isDigit rest
      (head :: digits,stop)
    else ([],head :: rest)
  | [] => ([],[])

def readDigits (isDigit : Char → Bool) : Reader (List Char)
  | head :: rest =>
    if isDigit head then
      let (digits,stop) := digitsFrom isDigit rest
      some (head :: digits,stop)
    else none
  | [] => none

def numberOf (base : Nat) (digits : List Char) : Nat :=
  digits.foldl (fun number digit => number * base + (Text.Hexadecimal.valueOf digit).getD 0) 0

def readSign : Reader Bool
  | '-' :: rest => some (true,rest)
  | '+' :: rest => some (false,rest)
  | text => some (false,text)

def readWhole : Reader (List Char)
  | '0' :: rest => some (['0'],rest)
  | text => readDigits Char.isDigit text

def signed (negative : Bool) (magnitude : Nat) : Option Scalar :=
  let value : Int := if negative then -magnitude else magnitude
  if -9223372036854775808 ≤ value ∧ value ≤ 9223372036854775807 then some (.integer value) else none

def isHex (c : Char) : Bool := (Text.Hexadecimal.valueOf c).isSome
def isOctal (c : Char) : Bool := '0' ≤ c && c ≤ '7'
def isBinary (c : Char) : Bool := c = '0' || c = '1'

def readInBase (base : Nat) (isDigit : Char → Bool) : Reader Scalar := do
  signed false (numberOf base (← readDigits isDigit))

def readInteger : Reader Scalar
  | '0' :: 'x' :: rest => readInBase 16 isHex rest
  | '0' :: 'o' :: rest => readInBase 8 isOctal rest
  | '0' :: 'b' :: rest => readInBase 2 isBinary rest
  | text => (do
    let negative ← readSign
    signed negative (numberOf 10 (← readWhole)) : Reader Scalar) text

-- Powers that leave every digit beyond the reals or below them are not worked out.
def realOf (digits : List Char) (exponent : Int) : Float :=
  let significand := numberOf 10 digits
  let size : Int := digits.length + exponent
  if significand = 0 then 0.0
  else if size < -400 then 0.0
  else if 400 < exponent then 1.0 / 0.0
  else if 0 ≤ exponent then Float.ofScientific significand false exponent.natAbs
  else Float.ofScientific significand true exponent.natAbs

def readExponent : Reader Int := do
  let down ← readSign
  let magnitude := numberOf 10 (← readDigits Char.isDigit)
  return if down then -magnitude else magnitude

def readReal : Reader Scalar := do
  let negative ← readSign
  let whole ← readWhole
  let fraction ← if ← found '.' then readDigits Char.isDigit else pure []
  let exponent ← match ← get with
    | 'e' :: rest | 'E' :: rest => do
      set rest
      readExponent
    | _ => if fraction.isEmpty then failure else pure 0
  let magnitude := realOf (whole ++ fraction) (exponent - fraction.length)
  let value := if negative then -magnitude else magnitude
  if value.isInf && !negative then failure
  else return .real value

def readSpecial : Reader Scalar := do
  let negative ← readSign
  let magnitude : Float ← match ← get with
    | 'i' :: 'n' :: 'f' :: rest => do
      set rest
      pure (1.0 / 0.0)
    | 'n' :: 'a' :: 'n' :: rest => do
      set rest
      pure (0.0 / 0.0)
    | _ => failure
  return .real (if negative then -magnitude else magnitude)

structure Date where
  year : Nat
  month : Nat
  day : Nat
  deriving DecidableEq

structure Time where
  hour : Nat
  minute : Nat
  second : Nat
  nanosecond : Nat
  deriving DecidableEq

inductive Offset where
  | none
  | reference
  | ahead (minutes : Nat)
  | behind (minutes : Nat)
  deriving DecidableEq

inductive Moment where
  | date (day : Date)
  | time (clock : Time)
  | both (day : Date) (clock : Time) (offset : Offset)
  deriving DecidableEq

def readField (count low high : Nat) : Reader Nat := fun text =>
  let digits := (text.take count).takeWhile Char.isDigit
  let number := numberOf 10 digits
  if digits.length = count ∧ low ≤ number ∧ number ≤ high then some (number,text.drop count)
  else none

def isLeap (year : Nat) : Bool := year % 4 = 0 && (year % 100 ≠ 0 || year % 400 = 0)

def daysIn (year month : Nat) : Nat :=
  if month = 2 then (if isLeap year then 29 else 28)
  else if month ∈ [4,6,9,11] then 30
  else 31

def readDate : Reader Date := do
  let year ← readField 4 0 9999
  expect '-'
  let month ← readField 2 1 12
  expect '-'
  let day ← readField 2 1 (daysIn year month)
  return ⟨year,month,day⟩

-- Digits past the ninth are cut off, not rounded.
def nanoseconds (fraction : List Char) : Nat :=
  numberOf 10 ((fraction ++ List.replicate 9 '0').take 9)

def readTime : Reader Time := do
  let hour ← readField 2 0 23
  expect ':'
  let minute ← readField 2 0 59
  expect ':'
  let second ← readField 2 0 60
  let fraction ← if ← found '.' then take Char.isDigit else pure ['0']
  if fraction.isEmpty then failure
  else return ⟨hour,minute,second,nanoseconds fraction⟩

def readOffset : Reader Offset
  | 'Z' :: rest | 'z' :: rest => some (.reference,rest)
  | '+' :: rest => (do
    let hour ← readField 2 0 23
    expect ':'
    return .ahead (60 * hour + (← readField 2 0 59)) : Reader Offset) rest
  | '-' :: rest => (do
    let hour ← readField 2 0 23
    expect ':'
    return .behind (60 * hour + (← readField 2 0 59)) : Reader Offset) rest
  | text => some (.none,text)

-- A blank between date and time is theirs only if a time follows it.
def readMoment : Reader Moment := fun text =>
  match readDate text with
  | none => (readTime text).map fun (time,rest) => (.time time,rest)
  | some (date,rest) =>
    match (do let _ ← oneOf ['T','t',' ']; readTime : Reader Time) rest with
    | none => some (.date date,rest)
    | some (time,rest) => (readOffset rest).map fun (offset,rest) => (.both date time offset,rest)

def padded (width number : Nat) : String :=
  let digits := Nat.toDigits 10 number
  String.ofList (List.replicate (width - digits.length) '0' ++ digits)

def Date.describe (date : Date) : String :=
  s!"{padded 4 date.year}-{padded 2 date.month}-{padded 2 date.day}"

def Time.describe (time : Time) : String :=
  let fraction := ((padded 9 time.nanosecond).toList.reverse.dropWhile fun c => c = '0').reverse
  s!"{padded 2 time.hour}:{padded 2 time.minute}:{padded 2 time.second}"
    ++ (if fraction.isEmpty then "" else "." ++ String.ofList fraction)

def Offset.describe : Offset → String
  | .none => ""
  | .reference => "Z"
  | .ahead minutes => s!"+{padded 2 (minutes / 60)}:{padded 2 (minutes % 60)}"
  | .behind minutes =>
    (if minutes = 0 then "+" else "-") ++ s!"{padded 2 (minutes / 60)}:{padded 2 (minutes % 60)}"

def Moment.describe : Moment → String
  | .date day => day.describe
  | .time clock => clock.describe
  | .both day clock offset => day.describe ++ "T" ++ clock.describe ++ offset.describe

-- Documents have no moments of their own: one reads as a table with a single row that no record has.
def momentKey : String := "$__toml_private_datetime"

def Moment.toValue (moment : Moment) : Value := .table [(momentKey,.text moment.describe)]

open Text.Hexadecimal (characterOf)

def escapeLetter : Char → Option Char
  | 'b' => some '\x08'
  | 't' => some '\t'
  | 'n' => some '\n'
  | 'f' => some '\x0c'
  | 'r' => some '\r'
  | '"' => some '"'
  | '\\' => some '\\'
  | _ => none

def push (c : Char) (text : Option (List Char × List Char)) : Option (List Char × List Char) :=
  text.map fun (read,rest) => (c :: read,rest)

def basicLine : List Char → Option (List Char × List Char)
  | [] => none
  | '"' :: rest => some ([],rest)
  | '\\' :: 'u' :: a :: b :: c :: d :: rest => do
    push (← characterOf [a,b,c,d]) (basicLine rest)
  | '\\' :: 'U' :: a :: b :: c :: d :: e :: f :: g :: h :: rest => do
    push (← characterOf [a,b,c,d,e,f,g,h]) (basicLine rest)
  | '\\' :: letter :: rest => do push (← escapeLetter letter) (basicLine rest)
  | head :: rest => if isPlain head then push head (basicLine rest) else none

def verbatimLine : List Char → Option (List Char × List Char)
  | [] => none
  | '\'' :: rest => some ([],rest)
  | head :: rest => if isPlain head then push head (verbatimLine rest) else none

def joinsLines (rest : List Char) : Bool :=
  match rest.dropWhile isBlank with
  | '\n' :: _ | '\r' :: '\n' :: _ => true
  | _ => false

-- Three quotes in a row close it; up to two more just before them belong to the text. While lines are
-- joined, blanks and line ends are dropped.
def basicBlock : Bool → List Char → Option (List Char × List Char)
  | _,[] => none
  | _,'"' :: '"' :: '"' :: '"' :: '"' :: rest => some (['"','"'],rest)
  | _,'"' :: '"' :: '"' :: '"' :: rest => some (['"'],rest)
  | _,'"' :: '"' :: '"' :: rest => some ([],rest)
  | joining,'\n' :: rest | joining,'\r' :: '\n' :: rest =>
    if joining then basicBlock true rest else push '\n' (basicBlock false rest)
  | _,'\\' :: 'u' :: a :: b :: c :: d :: rest => do
    push (← characterOf [a,b,c,d]) (basicBlock false rest)
  | _,'\\' :: 'U' :: a :: b :: c :: d :: e :: f :: g :: h :: rest => do
    push (← characterOf [a,b,c,d,e,f,g,h]) (basicBlock false rest)
  | _,'\\' :: letter :: rest =>
    if joinsLines (letter :: rest) then basicBlock true (letter :: rest)
    else do push (← escapeLetter letter) (basicBlock false rest)
  | joining,head :: rest =>
    if joining && isBlank head then basicBlock true rest
    else if isPlain head then push head (basicBlock false rest)
    else none

def verbatimBlock : List Char → Option (List Char × List Char)
  | [] => none
  | '\'' :: '\'' :: '\'' :: '\'' :: '\'' :: rest => some (['\'','\''],rest)
  | '\'' :: '\'' :: '\'' :: '\'' :: rest => some (['\''],rest)
  | '\'' :: '\'' :: '\'' :: rest => some ([],rest)
  | '\n' :: rest | '\r' :: '\n' :: rest => push '\n' (verbatimBlock rest)
  | head :: rest => if isPlain head then push head (verbatimBlock rest) else none

def openBlock : List Char → List Char
  | '\n' :: rest | '\r' :: '\n' :: rest => rest
  | rest => rest

def textOf (read : Option (List Char × List Char)) : Option (String × List Char) :=
  read.map fun (content,rest) => (String.ofList content,rest)

def readText : Reader String
  | '"' :: '"' :: '"' :: rest => textOf (basicBlock false (openBlock rest))
  | '"' :: rest => textOf (basicLine rest)
  | '\'' :: '\'' :: '\'' :: rest => textOf (verbatimBlock (openBlock rest))
  | '\'' :: rest => textOf (verbatimLine rest)
  | _ => none

def isBare (c : Char) : Bool := c.isAlphanum || c = '-' || c = '_'

def readKeyPart : Reader String
  | '"' :: rest => textOf (basicLine rest)
  | '\'' :: rest => textOf (verbatimLine rest)
  | text =>
    match text.takeWhile isBare with
    | [] => none
    | name => some (String.ofList name,text.dropWhile isBare)

def nestingLimit : Nat := 80

def readKeyParts : Nat → Reader (List String)
  | 0 => failure
  | parts+1 => do
    skipBlanks
    let first ← readKeyPart
    skipBlanks
    if ← found '.' then return first :: (← readKeyParts parts)
    else return [first]

def readKey : Reader (List String × String) := do
  let parts ← readKeyParts (nestingLimit - 1)
  match parts.getLast? with
  | some last => return (parts.dropLast,last)
  | none => failure

end LedgerSettings.Toml
