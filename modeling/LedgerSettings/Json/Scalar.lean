import LedgerSettings.Json.Cursor
import LedgerSettings.Text.Character
import LedgerSettings.Value

namespace LedgerSettings.Json

-- Digits that no longer fit are dropped: those before the point still count as powers of ten, those
-- after it not at all.
structure Digits where
  significand : Nat
  exponent : Int
  full : Bool
  deriving DecidableEq

def digitValue (c : Char) : Nat := c.toNat - '0'.toNat

def wordLimit : Nat := 18446744073709551616

def Digits.before (digits : Digits) (c : Char) : Digits :=
  let grown := digits.significand * 10 + digitValue c
  if digits.full || wordLimit ≤ grown then {digits with exponent := digits.exponent + 1,full := true}
  else {digits with significand := grown}

def Digits.after (digits : Digits) (c : Char) : Digits :=
  let grown := digits.significand * 10 + digitValue c
  if digits.full || wordLimit ≤ grown then {digits with full := true}
  else {digits with significand := grown,exponent := digits.exponent - 1}

-- The power of ten is itself rounded; far below the smallest one the significand is brought up in
-- steps of 308.
def scaled : Nat → Float → Int → Option Float
  | 0,value,_ => some value
  | steps+1,value,exponent =>
    if exponent.natAbs ≤ 308 then
      let power := Float.ofScientific 1 false exponent.natAbs
      if 0 ≤ exponent then
        let product := value * power
        if product.isInf then none else some product
      else some (value / power)
    else if value == 0 then some value
    else if 0 ≤ exponent then none
    else scaled steps (value / Float.ofScientific 1 false 308) (exponent + 308)

def Digits.real (digits : Digits) (negative : Bool) (here : Cursor) : Except Break (Scalar × Cursor) :=
  match scaled 4 (Float.ofNat digits.significand) digits.exponent with
  | some value => .ok (.real (if negative then -value else value),here)
  | none => .error (here.fail .numberOutOfRange)

-- Minus zero and everything outside the 64-bit range are reals.
def Digits.whole (digits : Digits) (negative : Bool) (here : Cursor) : Except Break (Scalar × Cursor) :=
  if digits.full then digits.real negative here
  else if negative then
    if 1 ≤ digits.significand ∧ digits.significand ≤ 9223372036854775808 then
      .ok (.integer (-(digits.significand : Int)),here)
    else .ok (.real (-(Float.ofNat digits.significand)),here)
  else .ok (.integer digits.significand,here)

def spanDigits (here : Cursor) : List Char × Cursor :=
  let taken := here.rest.takeWhile Char.isDigit
  (taken,⟨here.rest.drop taken.length,here.offset + taken.length⟩)

def exponentLimit : Nat := 2147483647

-- An exponent stops being read at the digit that takes it out of its range.
def exponentFrom (here : Cursor) (value : Nat) : List Char → Nat × Bool × Cursor
  | [] => (value,true,⟨[],here.offset⟩)
  | head :: rest =>
    if head.isDigit then
      let grown := value * 10 + digitValue head
      if exponentLimit < grown then (value,false,⟨rest,here.offset + 1⟩)
      else exponentFrom ⟨rest,here.offset + 1⟩ grown rest
    else (value,true,⟨head :: rest,here.offset⟩)

def readExponent (digits : Digits) (negative : Bool) (here : Cursor) :
    Except Break (Scalar × Cursor) :=
  let (down,start) := match here.rest with
    | '+' :: _ => (false,here.next)
    | '-' :: _ => (true,here.next)
    | _ => (false,here)
  match start.rest with
  | [] => .error (start.fail .unfinishedValue)
  | head :: _ =>
    if head.isDigit then
      match exponentFrom start 0 start.rest with
      | (value,true,stop) =>
        let shift : Int := if down then -value else value
        {digits with exponent := digits.exponent + shift}.real negative stop
      | (_,false,stop) =>
        if digits.significand ≠ 0 ∧ !down then .error (stop.fail .numberOutOfRange)
        else .ok (.real (if negative then -0.0 else 0.0),(spanDigits stop).2)
    else .error ⟨.invalidNumber,start.offset + 1⟩

def readFractionEnd (digits : Digits) (negative : Bool) (here : Cursor) :
    Except Break (Scalar × Cursor) :=
  match here.rest with
  | 'e' :: _ | 'E' :: _ => readExponent digits negative here.next
  | _ => digits.real negative here

def readNumberEnd (digits : Digits) (negative : Bool) (here : Cursor) :
    Except Break (Scalar × Cursor) :=
  match here.rest with
  | '.' :: _ =>
    let (fraction,stop) := spanDigits here.next
    match fraction with
    | [] => .error (stop.failNext (if stop.rest.isEmpty then .unfinishedValue else .invalidNumber))
    | _ => readFractionEnd (fraction.foldl Digits.after {digits with full := false}) negative stop
  | 'e' :: _ | 'E' :: _ => readExponent digits negative here.next
  | _ => digits.whole negative here

def readNumber (negative : Bool) (here : Cursor) : Except Break (Scalar × Cursor) :=
  match here.rest with
  | [] => .error (here.fail .unfinishedValue)
  | '0' :: rest =>
    match rest with
    | head :: _ =>
      if head.isDigit then .error (here.next.failNext .invalidNumber)
      else readNumberEnd ⟨0,0,false⟩ negative here.next
    | [] => readNumberEnd ⟨0,0,false⟩ negative here.next
  | head :: _ =>
    if head.isDigit then
      let (digits,stop) := spanDigits here
      readNumberEnd (digits.foldl Digits.before ⟨0,0,false⟩) negative stop
    else .error ⟨.invalidNumber,here.offset + 1⟩

open Text.Hexadecimal (valueOf)

def byteCount (text : List Char) : Nat := text.foldr (fun c rest => c.utf8Size + rest) 0

def fourHex (a b c d : Char) : Option Nat := do
  let a ← valueOf a
  let b ← valueOf b
  let c ← valueOf c
  let d ← valueOf d
  return ((a * 16 + b) * 16 + c) * 16 + d

-- Four bytes are taken before they are judged, or all that is left when fewer.
def readUnit (here : Cursor) : Except Break (Nat × Cursor) :=
  let short : Break :=
    if byteCount here.rest < 4 then ⟨.unfinishedText,here.offset + byteCount here.rest⟩
    else ⟨.invalidEscape,here.offset + 4⟩
  match here.rest with
  | a :: b :: c :: d :: rest =>
    match fourHex a b c d with
    | some unit => .ok (unit,⟨rest,here.offset + 4⟩)
    | none => .error short
  | _ => .error short

def isLeading (unit : Nat) : Bool := 0xD800 ≤ unit && unit ≤ 0xDBFF
def isTrailing (unit : Nat) : Bool := 0xDC00 ≤ unit && unit ≤ 0xDFFF

def joinSurrogates (leading trailing : Nat) : Char :=
  Char.ofNat (0x10000 + (leading - 0xD800) * 0x400 + (trailing - 0xDC00))

def readTrailing (leading : Nat) (here : Cursor) : Except Break (Char × Cursor) :=
  match here.rest with
  | [] => .error (here.fail .unfinishedText)
  | '\\' :: rest =>
    match rest with
    | [] => .error (here.next.fail .unfinishedText)
    | 'u' :: _ => do
      let (trailing,stop) ← readUnit here.next.next
      if isTrailing trailing then return (joinSurrogates leading trailing,stop)
      else .error (stop.fail .loneSurrogate)
    | _ => .error ⟨.unfinishedSurrogatePair,here.offset + 2⟩
  | _ => .error ⟨.unfinishedSurrogatePair,here.offset + 1⟩

def readEscape (here : Cursor) : Except Break (Char × Cursor) :=
  match here.rest with
  | [] => .error (here.fail .unfinishedText)
  | head :: _ =>
    let plain (c : Char) : Except Break (Char × Cursor) := .ok (c,here.next)
    match head with
    | '"' => plain '"'
    | '\\' => plain '\\'
    | '/' => plain '/'
    | 'b' => plain '\x08'
    | 'f' => plain '\x0c'
    | 'n' => plain '\n'
    | 'r' => plain '\r'
    | 't' => plain '\t'
    | 'u' => do
      let (unit,stop) ← readUnit here.next
      if isTrailing unit then .error (stop.fail .loneSurrogate)
      else if isLeading unit then readTrailing unit stop
      else return (Char.ofNat unit,stop)
    | _ => .error ⟨.invalidEscape,here.offset + 1⟩

-- The text left is its own measure: each round consumes a character of it.
def readTextFrom : List Char → Cursor → List Char → Except Break (String × Cursor)
  | [],here,_ => .error (here.fail .unfinishedText)
  | _ :: measure,here,read =>
    match here.rest with
    | [] => .error (here.fail .unfinishedText)
    | '"' :: _ => .ok (String.ofList read.reverse,here.next)
    | '\\' :: _ => do
      let (c,stop) ← readEscape here.next
      readTextFrom measure stop (c :: read)
    | head :: _ =>
      if head.toNat < 0x20 then .error ⟨.controlCharacter,here.offset + 1⟩
      else readTextFrom measure here.next (head :: read)

def readText (here : Cursor) : Except Break (String × Cursor) := readTextFrom here.rest here []

end LedgerSettings.Json
