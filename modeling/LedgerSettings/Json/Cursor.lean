namespace LedgerSettings.Json

inductive Fault where
  | unfinishedValue
  | unfinishedText
  | unfinishedList
  | unfinishedTable
  | expectedValue
  | expectedWord
  | expectedColon
  | expectedCommaOrBrace
  | expectedCommaOrBracket
  | keyMustBeText
  | trailingComma
  | trailingCharacters
  | invalidNumber
  | numberOutOfRange
  | invalidEscape
  | loneSurrogate
  | unfinishedSurrogatePair
  | controlCharacter
  | nestedTooDeep
  deriving DecidableEq

def Fault.message : Fault → String
  | .unfinishedValue => "EOF while parsing a value"
  | .unfinishedText => "EOF while parsing a string"
  | .unfinishedList => "EOF while parsing a list"
  | .unfinishedTable => "EOF while parsing an object"
  | .expectedValue => "expected value"
  | .expectedWord => "expected ident"
  | .expectedColon => "expected `:`"
  | .expectedCommaOrBrace => "expected `,` or `\x7d`"
  | .expectedCommaOrBracket => "expected `,` or `]`"
  | .keyMustBeText => "key must be a string"
  | .trailingComma => "trailing comma"
  | .trailingCharacters => "trailing characters"
  | .invalidNumber => "invalid number"
  | .numberOutOfRange => "number out of range"
  | .invalidEscape => "invalid escape"
  | .loneSurrogate => "lone leading surrogate in hex escape"
  | .unfinishedSurrogatePair => "unexpected end of hex escape"
  | .controlCharacter => "control character (\\u0000-\\u001F) found while parsing a string"
  | .nestedTooDeep => "recursion limit exceeded"

structure Break where
  fault : Fault
  offset : Nat
  deriving DecidableEq

structure Place where
  line : Nat
  column : Nat
  deriving DecidableEq

def Place.behind (place : Place) : Nat → List Char → Place
  | 0,_ => place
  | _,[] => place
  | offset@(_+1),'\n' :: rest => Place.behind ⟨place.line + 1,0⟩ (offset - 1) rest
  | offset@(_+1),head :: rest =>
    let size := min head.utf8Size offset
    Place.behind ⟨place.line,place.column + size⟩ (offset - size) rest

def Place.ofOffset (text : String) (offset : Nat) : Place :=
  Place.behind ⟨1,0⟩ offset text.toList

def Place.describe (place : Place) : String := s!" at line {place.line} column {place.column}"

structure Cursor where
  rest : List Char
  offset : Nat
  deriving DecidableEq

def Cursor.ofText (text : String) : Cursor := ⟨text.toList,0⟩

namespace Cursor

def fail (here : Cursor) (fault : Fault) : Break := ⟨fault,here.offset⟩

-- A fault in the next byte, which counts as consumed if there is one.
def failNext (here : Cursor) (fault : Fault) : Break :=
  match here.rest with
  | [] => ⟨fault,here.offset⟩
  | _ => ⟨fault,here.offset + 1⟩

def next (here : Cursor) : Cursor :=
  match here.rest with
  | [] => here
  | head :: rest => ⟨rest,here.offset + head.utf8Size⟩

def isBlank (c : Char) : Bool := c = ' ' || c = '\n' || c = '\t' || c = '\r'

def skipBlanksFrom (offset : Nat) : List Char → Cursor
  | [] => ⟨[],offset⟩
  | head :: rest => if isBlank head then skipBlanksFrom (offset + 1) rest else ⟨head :: rest,offset⟩

def skipBlanks (here : Cursor) : Cursor := skipBlanksFrom here.offset here.rest

-- A word is checked character by character: the one that differs is consumed.
def word (here : Cursor) : List Char → Except Break Cursor
  | [] => .ok here
  | expected :: more =>
    match here.rest with
    | [] => .error (here.fail .unfinishedValue)
    | head :: rest =>
      if head = expected then word ⟨rest,here.offset + 1⟩ more
      else .error ⟨.expectedWord,here.offset + 1⟩

end Cursor

end LedgerSettings.Json
