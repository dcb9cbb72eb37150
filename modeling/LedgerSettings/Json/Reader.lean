import LedgerSettings.Json.Cursor
import LedgerSettings.Json.Scalar
import LedgerSettings.Node
import LedgerSettings.Shape.Decode

namespace LedgerSettings.Json

structure Reading (α : Type) where
  value : α
  stop : Option Cursor

def torn (start : Nat) (cause : Break) : Reading Node := ⟨.torn start cause,none⟩

def scalarFrom (start : Nat) : Except Break (Scalar × Cursor) → Reading Node
  | .ok (content,stop) => ⟨.scalar ⟨start,stop.offset⟩ content,some stop⟩
  | .error cause => torn start cause

def wordFrom (here : Cursor) (rest : String) (content : Scalar) : Reading Node :=
  scalarFrom here.offset ((here.next.word rest.toList).map fun stop => (content,stop))

-- A row that cannot go on is noticed behind the blanks that follow its key, and behind a closing brace
-- standing there.
def behindKey (stop : Cursor) : Nat :=
  let stop := stop.skipBlanks
  match stop.rest with
  | '\x7d' :: _ => stop.offset + 1
  | _ => stop.offset

def readColon (stop : Cursor) : Except Break Cursor :=
  let stop := stop.skipBlanks
  match stop.rest with
  | [] => .error (stop.fail .unfinishedTable)
  | ':' :: _ => .ok stop.next
  | _ => .error (stop.failNext .expectedColon)

structure Rows (α : Type) where
  rows : List α
  broken : Option Break
  stop : Option Cursor

def Rows.cut (cause : Break) : Rows α := ⟨[],some cause,none⟩
def Rows.closed (stop : Cursor) : Rows α := ⟨[],none,some stop⟩
def Rows.cons (row : α) (rows : Rows α) : Rows α := {rows with rows := row :: rows.rows}

def deepest : Nat := 127

mutual
-- Every call consumes a character or passes to one that does: twice the length of the text is fuel
-- enough.
def readNode : Nat → Nat → Cursor → Reading Node
  | 0,_,here => torn here.offset (here.fail .unfinishedValue)
  | fuel+1,depth,here =>
    let here := here.skipBlanks
    let start := here.offset
    match here.rest with
    | [] => torn start (here.fail .unfinishedValue)
    | 'n' :: _ => wordFrom here "ull" .null
    | 't' :: _ => wordFrom here "rue" (.flag true)
    | 'f' :: _ => wordFrom here "alse" (.flag false)
    | '"' :: _ =>
      scalarFrom start ((readText here.next).map fun (value,stop) => (.text value,stop))
    | '-' :: _ => scalarFrom start (readNumber true here.next)
    | '[' :: _ =>
      let items : Rows Node := match depth with
        | 0 => .cut (here.failNext .nestedTooDeep)
        | depth+1 => readItems fuel depth true here.next
      ⟨.list ⟨start,(items.stop.getD here).offset⟩ items.rows items.broken,items.stop⟩
    | '\x7b' :: _ =>
      let rows : Rows (String × Nat × Node) := match depth with
        | 0 => .cut (here.failNext .nestedTooDeep)
        | depth+1 => readRows fuel depth true here.next
      ⟨.table ⟨start,(rows.stop.getD here).offset⟩ rows.rows rows.broken,rows.stop⟩
    | head :: _ =>
      if head.isDigit then scalarFrom start (readNumber false here)
      else torn start (here.failNext .expectedValue)
def readItems : Nat → Nat → Bool → Cursor → Rows Node
  | 0,_,_,here => .cut (here.fail .unfinishedList)
  | fuel+1,depth,first,here =>
    let here := here.skipBlanks
    match here.rest with
    | [] => .cut (here.fail .unfinishedList)
    | ']' :: _ => .closed here.next
    | head :: _ =>
      if first then readItem fuel depth here
      else if head = ',' then
        let here := here.next.skipBlanks
        match here.rest with
        | [] => .cut (here.fail .unfinishedValue)
        | ']' :: _ => .cut (here.failNext .trailingComma)
        | _ => readItem fuel depth here
      else .cut (here.failNext .expectedCommaOrBracket)
def readItem : Nat → Nat → Cursor → Rows Node
  | 0,_,here => .cut (here.fail .unfinishedList)
  | fuel+1,depth,here =>
    let item := readNode fuel depth here
    match item.stop with
    | none => ⟨[item.value],none,none⟩
    | some stop => .cons item.value (readItems fuel depth false stop)
def readRows : Nat → Nat → Bool → Cursor → Rows (String × Nat × Node)
  | 0,_,_,here => .cut (here.fail .unfinishedTable)
  | fuel+1,depth,first,here =>
    let here := here.skipBlanks
    match here.rest with
    | [] => .cut (here.fail .unfinishedTable)
    | '\x7d' :: _ => .closed here.next
    | head :: _ =>
      if first then readRow fuel depth here
      else if head = ',' then readRow fuel depth here.next.skipBlanks
      else .cut (here.failNext .expectedCommaOrBrace)
def readRow : Nat → Nat → Cursor → Rows (String × Nat × Node)
  | 0,_,here => .cut (here.fail .unfinishedTable)
  | fuel+1,depth,here =>
    match here.rest with
    | [] => .cut (here.fail .unfinishedValue)
    | '\x7d' :: _ => .cut (here.failNext .trailingComma)
    | '"' :: _ =>
      match readText here.next with
      | .error cause => .cut cause
      | .ok (key,stop) =>
        match readColon stop with
        | .error cause => ⟨[(key,behindKey stop,.torn stop.offset cause)],none,none⟩
        | .ok value =>
          let item := readNode fuel depth value
          match item.stop with
          | none => ⟨[(key,behindKey stop,item.value)],none,none⟩
          | some next => .cons (key,behindKey stop,item.value) (readRows fuel depth false next)
    | _ => .cut (here.failNext .keyMustBeText)
end

structure Document where
  root : Node
  trailing : Option Break

def readDocument (text : String) : Document :=
  let start := Cursor.ofText text
  let reading := readNode (3 * text.length + 3) deepest start
  let trailing := reading.stop.bind fun stop =>
    let stop := stop.skipBlanks
    match stop.rest with
    | [] => none
    | _ => some (stop.failNext .trailingCharacters)
  ⟨reading.value,trailing⟩

structure Problem where
  cause : Fault ⊕ Mismatch
  place : Place

def Problem.message (problem : Problem) : String :=
  let cause := match problem.cause with
    | .inl fault => fault.message
    | .inr mismatch => mismatch.message Decimal.Spelling.json
  cause ++ problem.place.describe

def Problem.ofRefusal (text : String) : Refusal → Problem
  | .broken cause => ⟨.inl cause.fault,.ofOffset text cause.offset⟩
  | .mismatch what offset => ⟨.inr what,.ofOffset text offset⟩

-- What follows the document is looked at only once the document itself fits.
def Document.decode (document : Document) (shape : Shape) : Except Refusal shape.Content := do
  let content ← shape.decode .json document.root
  match document.trailing with
  | none => return content
  | some cause => .error (.broken cause)

def decodeText (shape : Shape) (text : String) : Except Problem shape.Content :=
  ((readDocument text).decode shape).mapError (Problem.ofRefusal text)

end LedgerSettings.Json
