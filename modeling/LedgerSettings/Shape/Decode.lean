import LedgerSettings.Decimal
import LedgerSettings.Node
import LedgerSettings.Shape
import LedgerSettings.Text.Character

namespace LedgerSettings

inductive Found where
  | scalar (content : Scalar)
  | list
  | table
  deriving DecidableEq

inductive Mismatch where
  | wrongType (found : Found) (wanted : String)
  | outOfRange (value : Int) (wanted : String)
  | unknownField (name : String) (known : List String)
  | duplicateField (name : String)
  | missingField (name : String)
  | wrongLength (length : Nat) (record : String) (size : Nat)
  deriving DecidableEq

inductive DocumentFormat where
  | json
  | toml
  deriving DecidableEq

inductive Refusal where
  | broken (cause : Json.Break)
  | mismatch (what : Mismatch) (offset : Nat)
  deriving DecidableEq

def Scalar.describe (reals : Decimal.Spelling) : Scalar → String
  | .null => "null"
  | .flag value => s!"boolean `{value}`"
  | .integer value => s!"integer `{value}`"
  | .real value => s!"floating point `{reals.write value}`"
  | .text value => s!"string {Text.quoted value}"

def Found.describe (reals : Decimal.Spelling) : Found → String
  | .scalar content => content.describe reals
  | .list => "sequence"
  | .table => "map"

def fieldChoice : List String → String
  | [] => "there are no fields"
  | [only] => s!"expected `{only}`"
  | [first,second] => s!"expected `{first}` or `{second}`"
  | names => "expected one of " ++ String.intercalate ", " (names.map fun name => s!"`{name}`")

def Mismatch.message (reals : Decimal.Spelling) : Mismatch → String
  | .wrongType found wanted => s!"invalid type: {found.describe reals}, expected {wanted}"
  | .outOfRange value wanted => s!"invalid value: integer `{value}`, expected {wanted}"
  | .unknownField name known => s!"unknown field `{name}`, {fieldChoice known}"
  | .duplicateField name => s!"duplicate field `{name}`"
  | .missingField name => s!"missing field `{name}`"
  | .wrongLength length record size =>
    s!"invalid length {length}, expected struct {record} with {size} elements"

namespace Node

-- A scalar is refused once it is read, a list or table before it is entered.
def refuse (wanted : String) : Node → Refusal
  | .scalar span content => .mismatch (.wrongType (.scalar content) wanted) span.stop
  | .list span .. => .mismatch (.wrongType .list wanted) span.start
  | .table span .. => .mismatch (.wrongType .table wanted) span.start
  | .torn _ cause => .broken cause

def asInteger (kind : IntegerKind) : Node → Except Refusal kind.Content
  | .scalar span (.integer value) =>
    match kind.store value with
    | some content => .ok content
    | none => .error (.mismatch (.outOfRange value kind.name) span.stop)
  | other => .error (other.refuse kind.name)

-- Whole numbers are also reals, rounded to the nearest one; never the reverse.
def asReal : Node → Except Refusal Float
  | .scalar _ (.real value) => .ok value
  | .scalar _ (.integer value) => .ok (Float.ofInt value)
  | other => .error (other.refuse "f64")

def asFlag : Node → Except Refusal Bool
  | .scalar _ (.flag value) => .ok value
  | other => .error (other.refuse "a boolean")

def asText (wanted : String) : Node → Except Refusal String
  | .scalar _ (.text value) => .ok value
  | other => .error (other.refuse wanted)

def whole (broken : Option Json.Break) : Except Refusal Unit :=
  (unbroken broken).mapError .broken

def asCounts : Node → Except Refusal (Keyed Int64)
  | .table _ rows broken => do
    let rows ← rows.mapM fun (key,_,node) => do
      let count ← asInteger .signed64 node
      return (key,(count : Int64))
    whole broken
    return .ofRows rows
  | other => .error (other.refuse "a map")

def asMetadata : Node → Except Refusal Metadata
  | .table _ rows broken => do
    let rows ← (rowValues rows).mapError .broken
    whole broken
    return .ofRows rows
  | other => .error (other.refuse "a map")

end Node

-- A break there is told as the end of the list sees it: whatever is not the closing bracket is
-- surplus, save that the text ran out or a comma was left dangling.
def surplus (format : DocumentFormat) (items : List Node) (broken : Option Json.Break) :
    Except Refusal Unit :=
  match format with
  | .toml => .ok ()
  | .json =>
    match items with
    | item :: _ => .error (.broken ⟨.trailingCharacters,item.start + 1⟩)
    | [] =>
      match broken with
      | none => .ok ()
      | some cause =>
        match cause.fault with
        | .unfinishedList | .trailingComma => .error (.broken cause)
        | _ => .error (.broken ⟨.trailingCharacters,cause.offset⟩)

-- By name, every row must name a field and no field twice; by position, fields left out at the end
-- take their blanks and a required one may not be left out.
mutual
def Shape.decode (format : DocumentFormat) : (shape : Shape) → Node → Except Refusal shape.Content
  | .integer kind,node => node.asInteger kind
  | .real,node => node.asReal
  | .flag,node => node.asFlag
  | .text,node => node.asText "a string"
  | .path,node => node.asText "path string"
  | .optional inner,node =>
    match node with
    | .scalar _ .null => .ok none
    | other => (inner.decode format other).map some
  | .list inner,node =>
    match node with
    | .list _ items broken => do
      let contents ← items.mapM (inner.decode format)
      Node.whole broken
      return contents
    | other => .error (other.refuse "a sequence")
  | .counts,node => node.asCounts
  | .metadata,node => node.asMetadata
  | .record name layout,node =>
    match node with
    | .list span items broken =>
      layout.decodeItems format (fun index => .mismatch (.wrongLength index name layout.size) span.stop)
        broken 0 items
    | .table span rows broken => do
      let slots ← rows.foldlM (fun slots (key,offset,node) =>
        layout.decodeField format (.mismatch (.unknownField key layout.names) offset)
          key offset node slots) layout.unfilled
      Node.whole broken
      (layout.complete slots).mapError fun missing => .mismatch (.missingField missing) span.stop
    | other => .error (other.refuse s!"struct {name}")
def Layout.decodeField (format : DocumentFormat) (unknown : Refusal) (key : String) (offset : Nat)
    (node : Node) : (layout : Layout) → layout.Slots → Except Refusal layout.Slots
  | .nil,() => .error unknown
  | .cons name _ shape rest,(slot,slots) =>
    if key = name then
      match slot with
      | some _ => .error (.mismatch (.duplicateField name) offset)
      | none => (shape.decode format node).map fun content => (some content,slots)
    else (rest.decodeField format unknown key offset node slots).map fun slots => (slot,slots)
def Layout.decodeItems (format : DocumentFormat) (short : Nat → Refusal) (broken : Option Json.Break) :
    (layout : Layout) → Nat → List Node → Except Refusal layout.Content
  | .nil,_,items => surplus format items broken
  | .cons _ required shape rest,index,items =>
    match items with
    | [] => do
      Node.whole broken
      if required then .error (short index)
      else do
        let others ← rest.decodeItems format short broken (index+1) []
        return (shape.blank,others)
    | item :: items => do
      let first ← shape.decode format item
      let others ← rest.decodeItems format short broken (index+1) items
      return (first,others)
end

end LedgerSettings
