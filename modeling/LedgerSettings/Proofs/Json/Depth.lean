import LedgerSettings.Json.Reader
import LedgerSettings.Proofs.Node

namespace LedgerSettings.Json

theorem scalarFrom_height (start : Nat) (result : Except Break (Scalar × Cursor)) :
    (scalarFrom start result).value.height = 0 := by
  cases result with
  | error cause => simp only [scalarFrom,torn,Node.height]
  | ok read => simp only [scalarFrom,Node.height]

theorem cut_itemsHeight (cause : Break) : Node.itemsHeight (Rows.cut cause).rows = 0 := by
  simp only [Rows.cut,Node.itemsHeight]

theorem cut_rowsHeight (cause : Break) : Node.rowsHeight (Rows.cut cause).rows = 0 := by
  simp only [Rows.cut,Node.rowsHeight]

theorem list_height (within : Node.itemsHeight items ≤ depth) (span : Span) (broken : Option Break) :
    (Node.list span items broken).height ≤ depth + 1 := by
  cases broken <;> simp only [Node.height] <;> omega

theorem table_height (within : Node.rowsHeight rows ≤ depth) (span : Span) (broken : Option Break) :
    (Node.table span rows broken).height ≤ depth + 1 := by
  cases broken <;> simp only [Node.height] <;> omega

-- Nothing is read deeper than allowed: what holds of every part of the reader at
-- one measure of fuel.
structure Shallow (fuel : Nat) : Prop where
  node : ∀ depth here,(readNode fuel depth here).value.height ≤ depth
  items : ∀ depth first here,Node.itemsHeight (readItems fuel depth first here).rows ≤ depth
  item : ∀ depth here,Node.itemsHeight (readItem fuel depth here).rows ≤ depth
  rows : ∀ depth first here,Node.rowsHeight (readRows fuel depth first here).rows ≤ depth
  row : ∀ depth here,Node.rowsHeight (readRow fuel depth here).rows ≤ depth

namespace Shallow

theorem node_next (shallow : Shallow fuel) (depth : Nat) (here : Cursor) :
    (readNode (fuel + 1) depth here).value.height ≤ depth := by
  rw [readNode.eq_def]
  dsimp only
  split
  case h_1 => simp only [torn,Node.height,Nat.zero_le]
  case h_7 =>
    cases depth with
    | zero => simp only [Rows.cut,Node.height,Node.itemsHeight,Nat.le_refl]
    | succ depth =>
      apply list_height
      exact shallow.items depth true _
  case h_8 =>
    cases depth with
    | zero => simp only [Rows.cut,Node.height,Node.rowsHeight,Nat.le_refl]
    | succ depth =>
      apply table_height
      exact shallow.rows depth true _
  case h_9 =>
    split
    · simp only [scalarFrom_height,Nat.zero_le]
    · simp only [torn,Node.height,Nat.zero_le]
  all_goals simp only [wordFrom,scalarFrom_height,Nat.zero_le]

theorem items_next (shallow : Shallow fuel) (depth : Nat) (first : Bool) (here : Cursor) :
    Node.itemsHeight (readItems (fuel + 1) depth first here).rows ≤ depth := by
  rw [readItems]
  dsimp only
  split
  case h_1 => simp only [cut_itemsHeight,Nat.zero_le]
  case h_2 => simp only [Rows.closed,Node.itemsHeight,Nat.zero_le]
  case h_3 =>
    split
    · exact shallow.item depth _
    · split
      · split
        · simp only [cut_itemsHeight,Nat.zero_le]
        · simp only [cut_itemsHeight,Nat.zero_le]
        · exact shallow.item depth _
      · simp only [cut_itemsHeight,Nat.zero_le]

theorem item_next (shallow : Shallow fuel) (depth : Nat) (here : Cursor) :
    Node.itemsHeight (readItem (fuel + 1) depth here).rows ≤ depth := by
  have first := shallow.node depth here
  rw [readItem]
  split
  · simp only [Node.itemsHeight]
    omega
  · have others := shallow.items depth false
    simp only [Rows.cons,Node.itemsHeight,Nat.max_le]
    exact ⟨first,others _⟩

theorem rows_next (shallow : Shallow fuel) (depth : Nat) (first : Bool) (here : Cursor) :
    Node.rowsHeight (readRows (fuel + 1) depth first here).rows ≤ depth := by
  rw [readRows]
  split
  case h_1 => simp only [cut_rowsHeight,Nat.zero_le]
  case h_2 => simp only [Rows.closed,Node.rowsHeight,Nat.zero_le]
  case h_3 =>
    split
    · exact shallow.row depth _
    · split
      · exact shallow.row depth _
      · simp only [cut_rowsHeight,Nat.zero_le]

theorem row_next (shallow : Shallow fuel) (depth : Nat) (here : Cursor) :
    Node.rowsHeight (readRow (fuel + 1) depth here).rows ≤ depth := by
  rw [readRow]
  split
  case h_1 => simp only [cut_rowsHeight,Nat.zero_le]
  case h_2 => simp only [cut_rowsHeight,Nat.zero_le]
  case h_4 => simp only [cut_rowsHeight,Nat.zero_le]
  case h_3 =>
    split
    · simp only [cut_rowsHeight,Nat.zero_le]
    · split
      · simp only [Node.rowsHeight,Node.height,Nat.zero_le,Nat.max_self]
      · rename_i there _
        have first := shallow.node depth there
        dsimp only
        split
        · simp only [Node.rowsHeight]
          omega
        · have others := shallow.rows depth false
          simp only [Rows.cons,Node.rowsHeight,Nat.max_le]
          exact ⟨first,others _⟩

end Shallow

theorem shallow (fuel : Nat) : Shallow fuel := by
  induction fuel with
  | zero =>
    constructor <;> simp only [readNode,readItems,readItem,readRows,readRow,torn,Rows.cut,Node.height,
      Node.itemsHeight,Node.rowsHeight,Nat.zero_le,implies_true]
  | succ fuel ih => exact ⟨ih.node_next,ih.items_next,ih.item_next,ih.rows_next,ih.row_next⟩

theorem readDocument_height (text : String) : (readDocument text).root.height ≤ deepest := by
  apply (shallow _).node

end LedgerSettings.Json
