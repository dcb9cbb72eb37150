import LedgerSettings.Shape.Decode
import LedgerSettings.Toml.Scalar
import LedgerSettings.Value

namespace LedgerSettings.Toml

-- How a table came about decides who may still add to it.
inductive Origin where
  | header
  | passage
  | dotted
  deriving DecidableEq

inductive Entry where
  | value (content : Value)
  | table (origin : Origin) (rows : List (String × Entry))
  | tables (elements : List (List (String × Entry)))

structure Table where
  origin : Origin
  rows : List (String × Entry)

namespace Table

def fresh (origin : Origin) : Table := ⟨origin,[]⟩

def find? (table : Table) (key : String) : Option Entry :=
  (table.rows.find? fun row => row.1 == key).map Prod.snd

def append (table : Table) (key : String) (entry : Entry) : Table :=
  {table with rows := table.rows ++ [(key,entry)]}

def replace (table : Table) (key : String) (entry : Entry) : Table :=
  {table with rows := table.rows.map fun row => if row.1 = key then (key,entry) else row}

def without (table : Table) (key : String) : Table :=
  {table with rows := table.rows.filter fun row => row.1 ≠ key}

end Table

def Entry.ofTable (table : Table) : Entry := .table table.origin table.rows

-- A list of tables is passed through its last one. A dotted path may not pass a table that has a
-- header of its own.
def descend (dotted : Bool) (change : Table → Option Table) : List String → Table → Option Table
  | [],table => change table
  | key :: path,table =>
    match table.find? key with
    | none => do
      let inner ← descend dotted change path (.fresh (if dotted then .dotted else .passage))
      return table.append key (.ofTable inner)
    | some (.value _) => none
    | some (.table origin rows) =>
      if dotted && origin = .header then none
      else do
        let inner ← descend dotted change path ⟨origin,rows⟩
        return table.replace key (.ofTable inner)
    | some (.tables elements) =>
      match elements.getLast? with
      | none => none
      | some last => do
        let inner ← descend dotted change path ⟨.header,last⟩
        return table.replace key (.tables (elements.dropLast ++ [inner.rows]))

def insert (path : List String) (key : String) (content : Value) : Table → Option Table :=
  descend true (fun table =>
    if path ≠ [] ∧ table.origin ≠ .dotted then none
    else match table.find? key with
      | some _ => none
      | none => some (table.append key (.value content))) path

-- A table that was only passed so far counts from here on, behind all that was written before it.
def openTable (path : List String) (key : String) : Table → Option Table :=
  descend false (fun table =>
    match table.find? key with
    | none => some (table.append key (.table .header []))
    | some (.table .passage rows) => some ((table.without key).append key (.table .header rows))
    | some _ => none) path

def openElement (path : List String) (key : String) : Table → Option Table :=
  descend false (fun table =>
    match table.find? key with
    | none => some (table.append key (.tables [[]]))
    | some (.tables elements) => some (table.replace key (.tables (elements ++ [[]])))
    | some _ => none) path

mutual
def Entry.toValue : Entry → Value
  | .value content => content
  | .table _ rows => .table (rowValues rows)
  | .tables elements => .list (elementValues elements)
def rowValues : List (String × Entry) → List (String × Value)
  | [] => []
  | row :: rest => (row.1,row.2.toValue) :: rowValues rest
def elementValues : List (List (String × Entry)) → List Value
  | [] => []
  | element :: rest => .table (rowValues element) :: elementValues rest
end

def Table.toValue (table : Table) : Value := .table (rowValues table.rows)

-- The first reading that fits is the right one, since what is left must close the value.
def readNumeric : Reader Value := fun text =>
  match readMoment text with
  | some (moment,rest) => some (moment.toValue,rest)
  | none => (readReal <|> readSpecial <|> readInteger : Reader Scalar) text
    |>.map fun (content,rest) => (.scalar content,rest)

def readSimple : Reader Value := fun text =>
  match text with
  | '"' :: _ | '\'' :: _ => (readText text).map fun (content,rest) => (.text content,rest)
  | 't' :: 'r' :: 'u' :: 'e' :: rest => some (.flag true,rest)
  | 'f' :: 'a' :: 'l' :: 's' :: 'e' :: rest => some (.flag false,rest)
  | _ => readNumeric text

def readItems (item : Reader Value) : List Char → Reader (List Value)
  | [] => failure
  | _ :: measure => do
    skipSpace
    if ← found ']' then return []
    let first ← item
    skipSpace
    if ← found ',' then return first :: (← readItems item measure)
    expect ']'
    return [first]

def readEntry (item : Reader Value) : Reader (List String × String × Value) := do
  let (path,key) ← readKey
  expect '='
  skipBlanks
  return (path,key,← item)

def readRows (item : Reader Value) : List Char → Table → Reader Table
  | [],_ => failure
  | _ :: measure,table => do
    let (path,key,content) ← readEntry item
    let table ← insert path key content table
    skipBlanks
    if ← found ',' then readRows item measure table
    else do
      expect '\x7d'
      return table

def readInline (item : Reader Value) (measure : List Char) : Reader Value := do
  skipBlanks
  if ← found '\x7d' then return .table []
  return (← readRows item measure (.fresh .header)).toValue

def readValue : Nat → Reader Value
  | 0 => readSimple
  | depth+1 => fun text =>
    match text with
    | '[' :: rest =>
      (readItems (readValue depth) text rest).map fun (items,rest) => (.list items,rest)
    | '\x7b' :: rest => readInline (readValue depth) text rest
    | _ => readSimple text

structure Draft where
  root : Table
  header : List String

def Draft.blank : Draft := ⟨.fresh .header,[]⟩

def Draft.addRow (draft : Draft) (path : List String) (key : String) (content : Value) : Option Draft := do
  let root ← descend false (insert path key content) draft.header draft.root
  return {draft with root := root}

def readHeader (draft : Draft) : Reader Draft := do
  let (path,key) ← readKey
  expect ']'
  closeLine
  return ⟨← openTable path key draft.root,path ++ [key]⟩

def readElementHeader (draft : Draft) : Reader Draft := do
  let (path,key) ← readKey
  expect ']'
  expect ']'
  closeLine
  return ⟨← openElement path key draft.root,path ++ [key]⟩

def readRow (draft : Draft) : Reader Draft := do
  let (path,key,content) ← readEntry (readValue (nestingLimit - 1))
  closeLine
  draft.addRow path key content

def readLine (draft : Draft) : Reader Draft := fun text =>
  match text with
  | '[' :: '[' :: rest => readElementHeader draft rest
  | '[' :: rest => readHeader draft rest
  | '#' :: _ | '\n' :: _ | '\r' :: _ => (closeLine text).map fun (_,rest) => (draft,rest)
  | _ => readRow draft text

def readLines : List Char → Draft → List Char → Option Draft
  | [],draft,text => if text.isEmpty then some draft else none
  | _ :: measure,draft,text =>
    match text.dropWhile isBlank with
    | [] => some draft
    | rest => do
      let (draft,rest) ← readLine draft rest
      readLines measure draft rest

def withoutMark : List Char → List Char
  | '\ufeff' :: rest => rest
  | text => text

def readDocument (text : String) : Option Value := do
  let content := withoutMark text.toList
  let draft ← readLines content .blank content
  return draft.root.toValue

inductive Problem where
  | malformed
  | mismatch (what : Mismatch)
  deriving DecidableEq

-- The words are the decoder's, which shows the line at fault among them.
class Wording where
  render : String → Problem → String

@[reducible] def Wording.bare : Wording where
  render
    | _,.malformed => "TOML parse error"
    | _,.mismatch what => what.message Decimal.Spelling.plainReal

def decodeText (shape : Shape) (text : String) : Except Problem shape.Content :=
  match readDocument text with
  | none => .error .malformed
  | some value =>
    (shape.decode .toml (Node.ofValue value)).mapError fun refusal =>
      match refusal with
      | .mismatch what _ => .mismatch what
      | .broken _ => .malformed

end LedgerSettings.Toml
