import LedgerSettings.Metadata

namespace LedgerSettings

inductive IntegerKind where
  | word64
  | word16
  | size
  | signed64
  | signed32
  deriving DecidableEq

namespace IntegerKind

def Content : IntegerKind → Type
  | .word64 | .size => UInt64
  | .word16 => UInt16
  | .signed64 => Int64
  | .signed32 => Int32

def low : IntegerKind → Int
  | .word64 | .size | .word16 => 0
  | .signed64 => -9223372036854775808
  | .signed32 => -2147483648

def high : IntegerKind → Int
  | .word64 | .size => 18446744073709551615
  | .word16 => 65535
  | .signed64 => 9223372036854775807
  | .signed32 => 2147483647

def ofInt : (kind : IntegerKind) → Int → kind.Content
  | .word64,value | .size,value => UInt64.ofInt value
  | .word16,value => UInt16.ofInt value
  | .signed64,value => Int64.ofInt value
  | .signed32,value => Int32.ofInt value

def toInt : (kind : IntegerKind) → kind.Content → Int
  | .word64,(content : UInt64) | .size,(content : UInt64) => content.toNat
  | .word16,(content : UInt16) => content.toNat
  | .signed64,(content : Int64) => content.toInt
  | .signed32,(content : Int32) => content.toInt

def store (kind : IntegerKind) (value : Int) : Option kind.Content :=
  if kind.low ≤ value ∧ value ≤ kind.high then some (kind.ofInt value) else none

def name : IntegerKind → String
  | .word64 => "u64"
  | .word16 => "u16"
  | .size => "usize"
  | .signed64 => "i64"
  | .signed32 => "i32"

end IntegerKind

mutual
inductive Shape where
  | integer (kind : IntegerKind)
  | real
  | flag
  | text
  | path
  | optional (inner : Shape)
  | list (inner : Shape)
  | counts
  | metadata
  | record (name : String) (layout : Layout)
inductive Layout where
  | nil
  | cons (name : String) (required : Bool) (shape : Shape) (rest : Layout)
end

mutual
def Shape.Content : Shape → Type
  | .integer kind => kind.Content
  | .real => Float
  | .flag => Bool
  | .text => String
  | .path => String
  | .optional inner => Option inner.Content
  | .list inner => List inner.Content
  | .counts => Keyed Int64
  | .metadata => Metadata
  | .record _ layout => layout.Content
def Layout.Content : Layout → Type
  | .nil => Unit
  | .cons _ _ shape rest => shape.Content × rest.Content
end

mutual
def Shape.blank : (shape : Shape) → shape.Content
  | .integer kind => kind.ofInt 0
  | .real => (0 : Float)
  | .flag => false
  | .text => ""
  | .path => ""
  | .optional _ => none
  | .list _ => []
  | .counts => Keyed.empty
  | .metadata => Metadata.ofRows []
  | .record _ layout => layout.blank
def Layout.blank : (layout : Layout) → layout.Content
  | .nil => ()
  | .cons _ _ shape rest => (shape.blank,rest.blank)
end

namespace Layout

def names : Layout → List String
  | .nil => []
  | .cons name _ _ rest => name :: rest.names

def size (layout : Layout) : Nat := layout.names.length

def Slots : Layout → Type
  | .nil => Unit
  | .cons _ _ shape rest => Option shape.Content × rest.Slots

def unfilled : (layout : Layout) → layout.Slots
  | .nil => ()
  | .cons _ _ _ rest => (none,rest.unfilled)

def complete : (layout : Layout) → layout.Slots → Except String layout.Content
  | .nil,() => .ok ()
  | .cons name required shape rest,(slot,slots) => do
    let first ← match slot with
      | some content => .ok content
      | none => if required then .error name else .ok shape.blank
    let others ← rest.complete slots
    return (first,others)

end Layout

def Layout.needs (name : String) (shape : Shape) (rest : Layout) : Layout :=
  .cons name true shape rest
def Layout.may (name : String) (shape : Shape) (rest : Layout) : Layout :=
  .cons name false shape rest

end LedgerSettings
