import LedgerSettings.Text.Character
import LedgerSettings.Text.Word

namespace LedgerSettings.Logging.Pattern

structure Manner where
  caseless : Bool
  unicode : Bool
  spaced : Bool
  deriving DecidableEq

namespace Manner

def standard : Manner := ⟨false,true,false⟩

def skipFrom : Bool → List Char → List Char
  | _,[] => []
  | true,head :: rest => skipFrom (head ≠ '\n') rest
  | false,head :: rest =>
    if Text.isSpace head then skipFrom false rest
    else if head = '#' then skipFrom true rest
    else head :: rest

def skip (manner : Manner) (text : List Char) : List Char :=
  if manner.spaced then skipFrom false text else text

-- It passes over blanks and the sign of a remark, but not over the remark itself.
def upcoming (manner : Manner) (text : List Char) : Option Char :=
  if manner.spaced then
    match text.dropWhile Text.isSpace with
    | '#' :: rest => (rest.dropWhile Text.isSpace).head?
    | rest => rest.head?
  else text.head?

def set (manner : Manner) (flag : Char) (value : Bool) : Option Manner :=
  match flag with
  | 'i' => some {manner with caseless := value}
  | 'u' => some {manner with unicode := value}
  | 'x' => some {manner with spaced := value}
  | 'm' | 's' | 'R' | 'U' => some manner
  | _ => none

-- Behind a dash flags are taken back, and there is something to take back.
def readFlags (seen : List Char) (manner : Manner) : List Char → Option (Manner × Char × List Char)
  | [] => none
  | head :: rest =>
    if head = ':' || head = ')' then
      if seen.head? = some '-' || (head = ')' && seen.isEmpty) then none else some (manner,head,rest)
    else if head ∈ seen then none
    else if head = '-' then readFlags (head :: seen) manner rest
    else
      match manner.set head (!seen.contains '-') with
      | some manner => readFlags (head :: seen) manner rest
      | none => none

end Manner

inductive Sign where
  | literal (c : Char) (byByte : Bool)
  | kind (negated : Bool)
  | any
  | edge
  | wordEdge
  deriving DecidableEq

namespace Sign

def readDigits (manner : Manner) : Nat → List Char → Option (List Char × List Char)
  | 0,text => some ([],text)
  | count+1,text =>
    match manner.skip text with
    | head :: rest => (readDigits manner count rest).map fun (digits,rest) => (head :: digits,rest)
    | [] => none

def readNumbered (manner : Manner) (count : Nat) (text : List Char) : Option (Sign × List Char) := do
  let (digits,rest) ← readDigits manner count text
  let c ← Text.Hexadecimal.characterOf digits
  return (.literal c (count = 2),rest)

def escapeLetter : Char → Option Char
  | 'a' => some '\x07'
  | 't' => some '\t'
  | 'n' => some '\n'
  | 'v' => some '\x0b'
  | 'f' => some '\x0c'
  | 'r' => some '\r'
  | _ => none

-- Every other sign of ASCII may be written that way, but letters and digits only where that means
-- something.
def readEscape (manner : Manner) : List Char → Option (Sign × List Char)
  | [] => none
  | head :: rest =>
    match head with
    | 'x' => readNumbered manner 2 rest
    | 'u' => readNumbered manner 4 rest
    | 'U' => readNumbered manner 8 rest
    | 'd' | 's' | 'w' => some (.kind false,rest)
    | 'D' | 'S' | 'W' => some (.kind true,rest)
    | 'A' | 'z' => some (.edge,rest)
    | 'b' | 'B' | '<' | '>' => some (.wordEdge,rest)
    | _ =>
      if head.toNat < 0x80 && !head.isAlphanum then some (.literal head false,rest)
      else (escapeLetter head).map fun c => (.literal c false,rest)

def read (manner : Manner) : List Char → Option (Sign × List Char)
  | [] => none
  | '\\' :: rest => readEscape manner rest
  | '.' :: rest => some (.any,rest)
  | '^' :: rest | '$' :: rest => some (.edge,rest)
  | head :: rest => some (.literal head false,rest)

def readInside (manner : Manner) : List Char → Option (Sign × List Char)
  | [] => none
  | '\\' :: rest => readEscape manner rest
  | head :: rest => some (.literal head false,rest)

end Sign

-- Letter case and the kinds of characters are known for ASCII alone: nobody can ask for them among
-- all.
def Manner.admits (manner : Manner) : Sign → Bool
  | .literal c byByte => if manner.unicode then !manner.caseless else !byByte || c.toNat < 0x80
  | .kind negated => !manner.unicode && !negated
  | .any => manner.unicode
  | .edge => true
  | .wordEdge => !manner.unicode

def Manner.gathers (manner : Manner) : Sign → Bool
  | .literal c _ => if manner.unicode then !manner.caseless else c.toNat < 0x80
  | .kind negated => !manner.unicode && !negated
  | _ => false

def gathered : List Nat → Nat
  | [] => 0
  | [depth] => depth
  | depths => depths.foldl max 0 + 1

structure Bracket where
  left : Option Nat
  members : List Nat
  fresh : Bool
  deriving DecidableEq

namespace Bracket

def start : Bracket := ⟨none,[],true⟩

def add (bracket : Bracket) (depth : Nat) : Bracket :=
  {bracket with members := depth :: bracket.members,fresh := false}

def depth (bracket : Bracket) : Nat :=
  match bracket.left with
  | none => gathered bracket.members
  | some left => max left (gathered bracket.members) + 1

def operate (bracket : Bracket) : Bracket := ⟨some bracket.depth,[],false⟩

end Bracket

def namedSets : List String :=
  ["alnum","alpha","ascii","blank","cntrl","digit","graph","lower","print","punct","space","upper",
    "word","xdigit"]

def readNamed : List Char → Option (Bool × List Char)
  | ':' :: text =>
    let negated := text.head? = some '^'
    let text := if negated then text.tail else text
    match text.dropWhile (· ≠ ':') with
    | ':' :: ']' :: rest =>
      if String.ofList (text.takeWhile (· ≠ ':')) ∈ namedSets then some (negated,rest) else none
    | _ => none
  | _ => none

def Manner.gathersNamed (manner : Manner) (negated : Bool) : Bool :=
  if manner.unicode then !manner.caseless else !negated

-- Among bytes nothing can be negated, for what is left over then are bytes that are no characters.
def readOpened (manner : Manner) (text : List Char) : Option (List Char) :=
  match manner.skip text with
  | '^' :: rest => if manner.unicode then some rest else none
  | rest => some rest

-- A dash before a closing bracket or another dash makes no range.
def readMember (manner : Manner) (text : List Char) : Option (List Char) := do
  let (first,rest) ← Sign.readInside manner text
  guard (manner.gathers first)
  match manner.skip rest with
  | '-' :: beyond =>
    if manner.upcoming beyond = some ']' || manner.upcoming beyond = some '-' then return '-' :: beyond
    let (last,rest) ← Sign.readInside manner (manner.skip beyond)
    match first,last with
    | .literal low _,.literal high _ =>
      guard (manner.gathers last && low ≤ high)
      return rest
    | _,_ => none
  | rest => return rest

def readSet (manner : Manner) : List Char → Bracket → List Bracket → List Char → Option (Nat × List Char)
  | [],_,_,_ => none
  | _ :: measure,inner,outer,text =>
    match manner.skip text with
    | [] => none
    | head :: rest =>
      if inner.fresh && (head = '-' || (head = ']' && inner.members.isEmpty)) then do
        guard (manner.gathers (.literal head false))
        readSet manner measure {inner.add 0 with fresh := head = '-'} outer rest
      else if head = '[' then
        match readNamed rest with
        | some (negated,rest) => do
          guard (manner.gathersNamed negated)
          readSet manner measure (inner.add 0) outer rest
        | none => do
          readSet manner measure .start ({inner with fresh := false} :: outer) (← readOpened manner rest)
      else if head = ']' then
        match outer with
        | [] => some (inner.depth + 1,rest)
        | next :: outer => readSet manner measure (next.add (inner.depth + 1)) outer rest
      else if rest.head? = some head && (head = '&' || head = '-' || head = '~') then
        readSet manner measure inner.operate outer rest.tail
      else do
        readSet manner measure (inner.add 0) outer (← readMember manner (head :: rest))

inductive Piece where
  | flags
  | element (depth : Nat)
  deriving DecidableEq

def Piece.depth : Piece → Nat
  | .flags => 0
  | .element depth => depth

structure Group where
  before : Manner
  branches : List Nat
  pieces : List Piece
  deriving DecidableEq

namespace Group

def add (group : Group) (piece : Piece) : Group := {group with pieces := piece :: group.pieces}

def branchDepth (group : Group) : Nat := gathered (group.pieces.map Piece.depth)

def depth (group : Group) : Nat := gathered (group.branchDepth :: group.branches)

def branch (group : Group) : Group :=
  {group with branches := group.branchDepth :: group.branches,pieces := []}

def repeated (group : Group) : Option Group :=
  match group.pieces with
  | .element depth :: pieces => some {group with pieces := .element (depth + 1) :: pieces}
  | _ => none

end Group

structure Reading where
  manner : Manner
  names : List (List Char)
  inner : Group
  outer : List Group

namespace Reading

def start : Reading := ⟨.standard,[],⟨.standard,[],[]⟩,[]⟩

def add (reading : Reading) (piece : Piece) : Reading := {reading with inner := reading.inner.add piece}

def enter (reading : Reading) (manner : Manner) : Reading :=
  {reading with manner := manner,inner := ⟨reading.manner,[],[]⟩,outer := reading.inner :: reading.outer}

def leave (reading : Reading) : Option Reading :=
  match reading.outer with
  | [] => none
  | group :: outer =>
    some {reading with
      manner := reading.inner.before,
      inner := group.add (.element (reading.inner.depth + 1)),
      outer := outer}

def opensName (c : Char) : Bool := c = '_' || Text.isAlphabetic c

def continuesName (c : Char) : Bool :=
  c = '_' || c = '.' || c = '[' || c = ']' || Text.isAlphanumeric c

def enterNamed (reading : Reading) (text : List Char) : Option (Reading × List Char) :=
  let name := text.takeWhile (· ≠ '>')
  match text.dropWhile (· ≠ '>') with
  | [] => none
  | _ :: rest =>
    if name.head?.any opensName && name.all continuesName && !reading.names.contains name then
      some ({reading with names := name :: reading.names}.enter reading.manner,rest)
    else none

def openGroup (reading : Reading) (text : List Char) : Option (Reading × List Char) :=
  match reading.manner.skip text with
  | '?' :: 'P' :: '<' :: rest | '?' :: '<' :: rest => reading.enterNamed rest
  | '?' :: rest =>
    (reading.manner.readFlags [] rest).map fun (manner,stop,rest) =>
      if stop = ':' then (reading.enter manner,rest)
      else ({reading with manner := manner}.add .flags,rest)
  | rest => some (reading.enter reading.manner,rest)

def closeRepetition : List Char → List Char
  | '?' :: rest => rest
  | rest => rest

def step (reading : Reading) (head : Char) (rest : List Char) : Option (Reading × List Char) :=
  match head with
  | '(' => reading.openGroup rest
  | ')' => reading.leave.map fun reading => (reading,rest)
  | '|' => some ({reading with inner := reading.inner.branch},rest)
  | '[' => do
    let opened ← readOpened reading.manner rest
    let (depth,rest) ← readSet reading.manner rest .start [] opened
    return (reading.add (.element depth),rest)
  | '?' | '*' | '+' =>
    reading.inner.repeated.map fun group => ({reading with inner := group},closeRepetition rest)
  | '\x7b' => none
  | _ => do
    let (sign,rest) ← Sign.read reading.manner (head :: rest)
    guard (reading.manner.admits sign)
    return (reading.add (.element 0),rest)

def run : List Char → Reading → List Char → Option Reading
  | measure,reading,text =>
    match reading.manner.skip text,measure with
    | [],_ => some reading
    | _,[] => none
    | head :: rest,_ :: measure => do
      let (reading,rest) ← reading.step head rest
      run measure reading rest

end Reading

def nestingLimit : Nat := 250

def isWellFormed (text : List Char) : Bool :=
  (Reading.run text .start text).any fun reading =>
    reading.outer.isEmpty && reading.inner.depth ≤ nestingLimit

end LedgerSettings.Logging.Pattern
