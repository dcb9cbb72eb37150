import LedgerSettings.Proofs.Json.Depth

namespace LedgerSettings.Json

-- What is read unbroken at one depth is read alike wherever there is room for it.
structure Roomy (fuel : Nat) : Prop where
  node : ∀ {depth room here tree},(readNode fuel depth here).value.value = .ok tree →
    (readNode fuel depth here).value.height ≤ room → readNode fuel room here = readNode fuel depth here
  items : ∀ {depth room first here trees},(readItems fuel depth first here).broken = none →
    Node.values (readItems fuel depth first here).rows = .ok trees →
    Node.itemsHeight (readItems fuel depth first here).rows ≤ room →
    readItems fuel room first here = readItems fuel depth first here
  item : ∀ {depth room here trees},(readItem fuel depth here).broken = none →
    Node.values (readItem fuel depth here).rows = .ok trees →
    Node.itemsHeight (readItem fuel depth here).rows ≤ room →
    readItem fuel room here = readItem fuel depth here
  rows : ∀ {depth room first here trees},(readRows fuel depth first here).broken = none →
    Node.rowValues (readRows fuel depth first here).rows = .ok trees →
    Node.rowsHeight (readRows fuel depth first here).rows ≤ room →
    readRows fuel room first here = readRows fuel depth first here
  row : ∀ {depth room here trees},(readRow fuel depth here).broken = none →
    Node.rowValues (readRow fuel depth here).rows = .ok trees →
    Node.rowsHeight (readRow fuel depth here).rows ≤ room →
    readRow fuel room here = readRow fuel depth here

namespace Roomy

theorem node_next (roomy : Roomy fuel) (read : (readNode (fuel+1) depth here).value.value = .ok tree)
    (within : (readNode (fuel+1) depth here).value.height ≤ room) :
    readNode (fuel+1) room here = readNode (fuel+1) depth here := by
  rw [readNode.eq_def] at read within
  rw [readNode.eq_def,readNode.eq_def (fuel+1) depth]
  dsimp only at read within ⊢
  split
  case h_7 opened =>
    rw [opened] at read within
    cases depth with
    | zero =>
      obtain ⟨_,-,broken,-⟩ := Node.value_list.mp read
      cases broken
    | succ depth =>
      obtain ⟨trees,found,whole,-⟩ := Node.value_list.mp read
      dsimp only at whole found within
      simp only [whole,Node.height] at within
      cases room with
      | zero => cases within
      | succ room => simp only [roomy.items whole found (Nat.le_of_succ_le_succ within)]
  case h_8 opened =>
    rw [opened] at read within
    cases depth with
    | zero =>
      obtain ⟨_,-,broken,-⟩ := Node.value_table.mp read
      cases broken
    | succ depth =>
      obtain ⟨trees,found,whole,-⟩ := Node.value_table.mp read
      dsimp only at whole found within
      simp only [whole,Node.height] at within
      cases room with
      | zero => cases within
      | succ room => simp only [roomy.rows whole found (Nat.le_of_succ_le_succ within)]
  all_goals rfl

theorem items_next (roomy : Roomy fuel) (whole : (readItems (fuel+1) depth first here).broken = none)
    (read : Node.values (readItems (fuel+1) depth first here).rows = .ok trees)
    (within : Node.itemsHeight (readItems (fuel+1) depth first here).rows ≤ room) :
    readItems (fuel+1) room first here = readItems (fuel+1) depth first here := by
  revert whole read within
  rw [readItems,readItems]
  dsimp only
  split
  case h_1 | h_2 =>
    intros
    rfl
  case h_3 =>
    split
    · intro whole read within
      exact roomy.item whole read within
    · split
      · split
        case h_1 | h_2 =>
          intros
          rfl
        case h_3 =>
          intro whole read within
          exact roomy.item whole read within
      · intros
        rfl

theorem item_next (roomy : Roomy fuel) (whole : (readItem (fuel+1) depth here).broken = none)
    (read : Node.values (readItem (fuel+1) depth here).rows = .ok trees)
    (within : Node.itemsHeight (readItem (fuel+1) depth here).rows ≤ room) :
    readItem (fuel+1) room here = readItem (fuel+1) depth here := by
  revert whole read within
  rw [readItem,readItem]
  cases stop : (readNode fuel depth here).stop with
  | none =>
    intro whole read within
    obtain ⟨first,others,found,-,-⟩ := Node.values_cons.mp read
    simp only [Node.itemsHeight,Nat.max_le] at within
    rw [roomy.node found within.1,stop]
  | some stop' =>
    intro whole read within
    obtain ⟨first,others,found,behind,-⟩ := Node.values_cons.mp read
    simp only [Rows.cons,Node.itemsHeight,Nat.max_le] at within
    simp only [roomy.node found within.1,stop,roomy.items whole behind within.2]

theorem rows_next (roomy : Roomy fuel) (whole : (readRows (fuel+1) depth first here).broken = none)
    (read : Node.rowValues (readRows (fuel+1) depth first here).rows = .ok trees)
    (within : Node.rowsHeight (readRows (fuel+1) depth first here).rows ≤ room) :
    readRows (fuel+1) room first here = readRows (fuel+1) depth first here := by
  revert whole read within
  rw [readRows,readRows]
  split
  case h_1 | h_2 =>
    intros
    rfl
  case h_3 =>
    split
    · intro whole read within
      exact roomy.row whole read within
    · split
      · intro whole read within
        exact roomy.row whole read within
      · intros
        rfl

theorem row_next (roomy : Roomy fuel) (whole : (readRow (fuel+1) depth here).broken = none)
    (read : Node.rowValues (readRow (fuel+1) depth here).rows = .ok trees)
    (within : Node.rowsHeight (readRow (fuel+1) depth here).rows ≤ room) :
    readRow (fuel+1) room here = readRow (fuel+1) depth here := by
  revert whole read within
  rw [readRow,readRow]
  split
  case h_1 | h_2 | h_4 =>
    intros
    rfl
  case h_3 =>
    split
    · intros
      rfl
    · split
      · intros
        rfl
      · rename_i there _
        dsimp only
        cases stop : (readNode fuel depth there).stop with
        | none =>
          intro whole read within
          obtain ⟨first,others,found,-,-⟩ := Node.rowValues_cons.mp read
          simp only [Node.rowsHeight,Nat.max_le] at within
          rw [roomy.node found within.1,stop]
        | some stop' =>
          intro whole read within
          obtain ⟨first,others,found,behind,-⟩ := Node.rowValues_cons.mp read
          simp only [Rows.cons,Node.rowsHeight,Nat.max_le] at within
          simp only [roomy.node found within.1,stop,roomy.rows whole behind within.2]

end Roomy

theorem roomy (fuel : Nat) : Roomy fuel := by
  induction fuel with
  | zero =>
    constructor
    all_goals
      intros
      simp only [readNode,readItems,readItem,readRows,readRow]
  | succ fuel ih => exact ⟨ih.node_next,ih.items_next,ih.item_next,ih.rows_next,ih.row_next⟩

def readWithin (depth : Nat) (text : String) : Document :=
  let start := Cursor.ofText text
  let reading := readNode (3 * text.length + 3) depth start
  let trailing := reading.stop.bind fun stop =>
    let stop := stop.skipBlanks
    match stop.rest with
    | [] => none
    | _ => some (stop.failNext .trailingCharacters)
  ⟨reading.value,trailing⟩

theorem readDocument_within (text : String) : readDocument text = readWithin deepest text := rfl

theorem readWithin_roomy (read : (readWithin depth text).root.value = .ok tree) (within : tree.height ≤ room) :
    readWithin room text = readWithin depth text := by
  have fits : (readWithin depth text).root.height ≤ room := Node.value_height _ read ▸ within
  unfold readWithin
  dsimp only
  rw [(roomy _).node read fits]

theorem readWithin_height (read : (readWithin depth text).root.value = .ok tree) : tree.height ≤ depth := by
  rw [Node.value_height _ read]
  apply (shallow _).node

-- A text in which a tree is written, however deep it goes, and nothing after it.
def Spells (text : String) (tree : Value) : Prop :=
  ∃ depth,(readWithin depth text).root.value = .ok tree ∧ (readWithin depth text).trailing = none

theorem spells_same (spells : Spells text tree) (other : Spells text tree') : tree = tree' := by
  obtain ⟨depth,read,-⟩ := spells
  obtain ⟨depth',read',-⟩ := other
  have roomy := readWithin_roomy read (Nat.le_trans (readWithin_height read) (Nat.le_max_left depth depth'))
  have roomy' := readWithin_roomy read' (Nat.le_trans (readWithin_height read') (Nat.le_max_right depth depth'))
  rw [← roomy] at read
  rw [← roomy',read] at read'
  exact Except.ok.inj read'

theorem reads_spelled (spells : Spells text tree) :
    (readDocument text).root.value = .ok tree ∧ (readDocument text).trailing = none ↔ tree.height ≤ deepest := by
  constructor
  · intro reads
    exact readWithin_height reads.1
  · intro within
    obtain ⟨depth,read,closed⟩ := spells
    rw [readDocument_within,readWithin_roomy read within]
    exact ⟨read,closed⟩

end LedgerSettings.Json
