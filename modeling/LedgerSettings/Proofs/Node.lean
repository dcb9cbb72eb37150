import LedgerSettings.Node
import LedgerSettings.Proofs.Value

namespace LedgerSettings.Node

-- How deep the lists and tables of a node are nested. One that breaks off does not
-- count itself: the one that may not be entered any more is such a one.
mutual
def height : Node → Nat
  | .scalar .. => 0
  | .list _ items none => itemsHeight items + 1
  | .list _ items (some _) => itemsHeight items
  | .table _ rows none => rowsHeight rows + 1
  | .table _ rows (some _) => rowsHeight rows
  | .torn .. => 0
def itemsHeight : List Node → Nat
  | [] => 0
  | item :: rest => max item.height (itemsHeight rest)
def rowsHeight : List (String × Nat × Node) → Nat
  | [] => 0
  | (_,_,node) :: rest => max node.height (rowsHeight rest)
end

theorem itemsHeight_exact (items : List Node) (bound : Nat) :
    itemsHeight items ≤ bound ↔ ∀ item ∈ items,item.height ≤ bound := by
  induction items with
  | nil => simp [itemsHeight]
  | cons item rest ih => simp only [itemsHeight,Nat.max_le,ih,List.forall_mem_cons]

theorem rowsHeight_exact (rows : List (String × Nat × Node)) (bound : Nat) :
    rowsHeight rows ≤ bound ↔ ∀ row ∈ rows,row.2.2.height ≤ bound := by
  induction rows with
  | nil => simp [rowsHeight]
  | cons row rest ih => simp only [rowsHeight,Nat.max_le,ih,List.forall_mem_cons]

theorem value_scalar : (Node.scalar span content).value = .ok tree ↔ .scalar content = tree := by
  simp [Node.value]

theorem value_list : (Node.list span items broken).value = .ok tree ↔
    ∃ contents,values items = .ok contents ∧ broken = none ∧ .list contents = tree := by
  simp only [Node.value]
  cases values items <;> cases broken <;> simp [bind,Except.bind,pure,Except.pure,unbroken]

theorem value_table : (Node.table span rows broken).value = .ok tree ↔
    ∃ contents,rowValues rows = .ok contents ∧ broken = none ∧ .table contents = tree := by
  simp only [Node.value]
  cases rowValues rows <;> cases broken <;> simp [bind,Except.bind,pure,Except.pure,unbroken]

theorem value_torn : (Node.torn offset cause).value ≠ .ok tree := by simp [Node.value]

theorem values_cons : values (item :: items) = .ok contents ↔
    ∃ first others,item.value = .ok first ∧ values items = .ok others ∧ first :: others = contents := by
  simp only [values]
  cases item.value <;> cases values items <;> simp [bind,Except.bind,pure,Except.pure]

theorem rowValues_cons : rowValues ((key,offset,node) :: rows) = .ok contents ↔
    ∃ first others,node.value = .ok first ∧ rowValues rows = .ok others ∧ (key,first) :: others = contents := by
  simp only [rowValues]
  cases node.value <;> cases rowValues rows <;> simp [bind,Except.bind,pure,Except.pure]

theorem rowValues_names (read : rowValues rows = .ok contents) : rows.map Prod.fst = contents.map Prod.fst := by
  induction rows generalizing contents with
  | nil =>
    cases read
    rfl
  | cons row rows ih =>
    obtain ⟨first,others,-,rest,rfl⟩ := rowValues_cons.mp read
    rw [List.map_cons,List.map_cons,ih rest]

theorem of_scalar {node : Node} (read : node.value = .ok (.scalar content)) :
    ∃ span,node = .scalar span content := by
  cases node with
  | scalar span content' =>
    cases value_scalar.mp read
    exact ⟨span,rfl⟩
  | list span items broken =>
    obtain ⟨_,-,-,same⟩ := value_list.mp read
    cases same
  | table span rows broken =>
    obtain ⟨_,-,-,same⟩ := value_table.mp read
    cases same
  | torn start cause => exact absurd read value_torn

theorem of_list {node : Node} (read : node.value = .ok (.list contents)) :
    ∃ span items,node = .list span items none ∧ values items = .ok contents := by
  cases node with
  | scalar span content => cases value_scalar.mp read
  | list span items broken =>
    obtain ⟨_,found,rfl,same⟩ := value_list.mp read
    cases same
    exact ⟨span,items,rfl,found⟩
  | table span rows broken =>
    obtain ⟨_,-,-,same⟩ := value_table.mp read
    cases same
  | torn start cause => exact absurd read value_torn

theorem of_table {node : Node} (read : node.value = .ok (.table contents)) :
    ∃ span rows,node = .table span rows none ∧ rowValues rows = .ok contents := by
  cases node with
  | scalar span content => cases value_scalar.mp read
  | list span items broken =>
    obtain ⟨_,-,-,same⟩ := value_list.mp read
    cases same
  | table span rows broken =>
    obtain ⟨_,found,rfl,same⟩ := value_table.mp read
    cases same
    exact ⟨span,rows,rfl,found⟩
  | torn start cause => exact absurd read value_torn

mutual
theorem value_height : (node : Node) → ∀ {tree},node.value = .ok tree → tree.height = node.height
  | .scalar _ _,_,read => by
    cases value_scalar.mp read
    simp only [Value.height,height]
  | .list _ items _,_,read => by
    obtain ⟨contents,found,rfl,rfl⟩ := value_list.mp read
    simp only [Value.height,height,values_height items found]
  | .table _ rows _,_,read => by
    obtain ⟨contents,found,rfl,rfl⟩ := value_table.mp read
    simp only [Value.height,height,rowValues_height rows found]
  | .torn _ _,_,read => absurd read value_torn
theorem values_height : (items : List Node) → ∀ {trees},values items = .ok trees →
    Value.itemsHeight trees = itemsHeight items
  | [],_,read => by
    cases read
    simp only [Value.itemsHeight,itemsHeight]
  | item :: rest,_,read => by
    obtain ⟨first,others,found,behind,rfl⟩ := values_cons.mp read
    simp only [Value.itemsHeight,itemsHeight,value_height item found,values_height rest behind]
theorem rowValues_height : (rows : List (String × Nat × Node)) → ∀ {pairs},rowValues rows = .ok pairs →
    Value.rowsHeight pairs = rowsHeight rows
  | [],_,read => by
    cases read
    simp only [Value.rowsHeight,rowsHeight]
  | (_,_,node) :: rest,_,read => by
    obtain ⟨first,others,found,behind,rfl⟩ := rowValues_cons.mp read
    simp only [Value.rowsHeight,rowsHeight,value_height node found,rowValues_height rest behind]
end

theorem ofItems_map (items : List Value) : ofItems items = items.map ofValue := by
  induction items with
  | nil => rfl
  | cons item items ih => rw [ofItems,ih,List.map_cons]

theorem ofRows_map (rows : List (String × Value)) :
    ofRows rows = rows.map fun row => (row.1,0,ofValue row.2) := by
  induction rows with
  | nil => rfl
  | cons row rows ih => rw [ofRows,ih,List.map_cons]

theorem ofItems_append (items others : List Value) : ofItems (items ++ others) = ofItems items ++ ofItems others := by
  simp only [ofItems_map,List.map_append]

theorem ofRows_append (rows others : List (String × Value)) : ofRows (rows ++ others) = ofRows rows ++ ofRows others := by
  simp only [ofRows_map,List.map_append]

theorem ofItems_at {items : List Value} {index : Nat} (there : items[index]? = some tree) :
    (ofItems items)[index]? = some (ofValue tree) := by
  rw [ofItems_map,List.getElem?_map,there]
  rfl

theorem ofRows_mem {rows : List (String × Value)} (there : (key,tree) ∈ rows) :
    (key,0,ofValue tree) ∈ ofRows rows := by
  rw [ofRows_map]
  exact List.mem_map.mpr ⟨(key,tree),there,rfl⟩

theorem ofRows_names (rows : List (String × Value)) : (ofRows rows).map Prod.fst = rows.map Prod.fst := by
  rw [ofRows_map,List.map_map]
  rfl

end LedgerSettings.Node
