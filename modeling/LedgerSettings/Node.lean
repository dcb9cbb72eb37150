import LedgerSettings.Json.Cursor
import LedgerSettings.Value

namespace LedgerSettings

structure Span where
  start : Nat
  stop : Nat
  deriving DecidableEq

def Span.unknown : Span := ⟨0,0⟩

-- A text that breaks off is still a node: the break stands where reading stopped, so a decoder that
-- walks the node in written order meets its own objection or the break, whichever comes first.
inductive Node where
  | scalar (span : Span) (content : Scalar)
  | list (span : Span) (items : List Node) (broken : Option Json.Break)
  | table (span : Span) (rows : List (String × Nat × Node)) (broken : Option Json.Break)
  | torn (start : Nat) (cause : Json.Break)

namespace Node

def start : Node → Nat
  | .scalar span _ => span.start
  | .list span _ _ => span.start
  | .table span _ _ => span.start
  | .torn start _ => start

mutual
def ofValue : Value → Node
  | .scalar content => .scalar .unknown content
  | .list items => .list .unknown (ofItems items) none
  | .table rows => .table .unknown (ofRows rows) none
def ofItems : List Value → List Node
  | [] => []
  | item :: rest => ofValue item :: ofItems rest
def ofRows : List (String × Value) → List (String × Nat × Node)
  | [] => []
  | row :: rest => (row.1,0,ofValue row.2) :: ofRows rest
end

def unbroken : Option Json.Break → Except Json.Break Unit
  | none => .ok ()
  | some cause => .error cause

mutual
def value : Node → Except Json.Break Value
  | .scalar _ content => .ok (.scalar content)
  | .list _ items broken => do
    let items ← values items
    unbroken broken
    return .list items
  | .table _ rows broken => do
    let rows ← rowValues rows
    unbroken broken
    return .table rows
  | .torn _ cause => .error cause
def values : List Node → Except Json.Break (List Value)
  | [] => .ok []
  | item :: rest => do
    let first ← value item
    let others ← values rest
    return first :: others
def rowValues : List (String × Nat × Node) → Except Json.Break (List (String × Value))
  | [] => .ok []
  | (key,_,node) :: rest => do
    let first ← value node
    let others ← rowValues rest
    return (key,first) :: others
end

mutual
theorem value_ofValue : (tree : Value) → value (ofValue tree) = .ok tree
  | .scalar _ => by simp only [ofValue,value]
  | .list items => by
    simp only [ofValue,value,values_ofItems items,unbroken]; rfl
  | .table rows => by
    simp only [ofValue,value,rowValues_ofRows rows,unbroken]; rfl
theorem values_ofItems : (items : List Value) → values (ofItems items) = .ok items
  | [] => by simp only [ofItems,values]
  | item :: rest => by
    simp only [ofItems,values,value_ofValue item,values_ofItems rest]; rfl
theorem rowValues_ofRows : (rows : List (String × Value)) → rowValues (ofRows rows) = .ok rows
  | [] => by simp only [ofRows,rowValues]
  | (_,tree) :: rest => by
    simp only [ofRows,rowValues,value_ofValue tree,rowValues_ofRows rest]; rfl
end

end Node

end LedgerSettings
