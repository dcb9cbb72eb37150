import LedgerSettings.Value
import LedgerSettings.Keyed

namespace LedgerSettings

-- An integer beyond the range becomes the nearest real, a real without a value null.
def Scalar.Settled : Scalar → Prop
  | .integer value => -9223372036854775808 ≤ value ∧ value ≤ 18446744073709551615
  | .real value => value.isFinite = true
  | _ => True

def settleReal (value : Float) : Scalar := if value.isFinite then .real value else .null

def Scalar.settle : Scalar → Scalar
  | .integer value =>
    if -9223372036854775808 ≤ value ∧ value ≤ 18446744073709551615 then .integer value
    else settleReal (Float.ofInt value)
  | .real value => settleReal value
  | other => other

theorem settleReal_settled (value : Float) : (settleReal value).Settled := by
  unfold settleReal
  split
  · assumption
  · trivial

theorem Scalar.settle_settled (content : Scalar) : content.settle.Settled := by
  cases content with
  | integer value =>
    simp only [settle]
    split
    · assumption
    · exact settleReal_settled _
  | real value => exact settleReal_settled _
  | _ => trivial

mutual
def Value.Settled : Value → Prop
  | .scalar content => content.Settled
  | .list items => Value.ItemsSettled items
  | .table rows => Ascending rows ∧ Value.RowsSettled rows
def Value.ItemsSettled : List Value → Prop
  | [] => True
  | item :: rest => item.Settled ∧ Value.ItemsSettled rest
def Value.RowsSettled : List (String × Value) → Prop
  | [] => True
  | row :: rest => row.2.Settled ∧ Value.RowsSettled rest
end

mutual
def Value.settle : Value → Value
  | .scalar content => .scalar content.settle
  | .list items => .list (Value.settleItems items)
  | .table rows => .table (collect (Value.settleRows rows))
def Value.settleItems : List Value → List Value
  | [] => []
  | item :: rest => item.settle :: Value.settleItems rest
def Value.settleRows : List (String × Value) → List (String × Value)
  | [] => []
  | row :: rest => (row.1,row.2.settle) :: Value.settleRows rest
end

theorem Value.rowsSettled_exact (rows : List (String × Value)) :
    RowsSettled rows ↔ ∀ row ∈ rows,row.2.Settled := by
  induction rows with
  | nil => simp [RowsSettled]
  | cons row rest ih => simp only [RowsSettled,ih,List.forall_mem_cons]

theorem Value.collect_settled (rows : List (String × Value)) (settled : RowsSettled rows) :
    RowsSettled (collect rows) :=
  (rowsSettled_exact _).mpr fun row member =>
    (rowsSettled_exact rows).mp settled row (collect_member rows row member)

mutual
theorem Value.settle_settled : (value : Value) → value.settle.Settled
  | .scalar content => by simpa only [settle,Settled] using content.settle_settled
  | .list items => by simpa only [settle,Settled] using settleItems_settled items
  | .table rows => by
    simp only [settle,Settled]
    exact ⟨collect_ascending _,collect_settled _ (settleRows_settled rows)⟩
theorem Value.settleItems_settled : (items : List Value) → ItemsSettled (settleItems items)
  | [] => by simp only [settleItems,ItemsSettled]
  | item :: rest => by
    simp only [settleItems,ItemsSettled]
    exact ⟨settle_settled item,settleItems_settled rest⟩
theorem Value.settleRows_settled : (rows : List (String × Value)) → RowsSettled (settleRows rows)
  | [] => by simp only [settleRows,RowsSettled]
  | (key,value) :: rest => by
    simp only [settleRows,RowsSettled]
    exact ⟨settle_settled value,settleRows_settled rest⟩
end

structure Metadata where
  rows : List (String × Value)
  settled : (Value.table rows).Settled

namespace Metadata

def ofRows (rows : List (String × Value)) : Metadata :=
  ⟨collect (Value.settleRows rows),by
    simpa only [Value.settle] using Value.settle_settled (.table rows)⟩

def toValue (metadata : Metadata) : Value := .table metadata.rows

theorem same_rows (left right : Metadata) (same : left.rows = right.rows) : left = right := by
  cases left; cases right; cases same; rfl

instance : BEq Metadata := ⟨fun left right => left.toValue == right.toValue⟩

end Metadata

end LedgerSettings
