import LedgerSettings.Proofs.Shape.Depth

namespace LedgerSettings

namespace Node

def Unbroken (node : Node) : Prop := ∃ tree,node.value = .ok tree

theorem unbroken_scalar (span : Span) (content : Scalar) : (Node.scalar span content).Unbroken := ⟨.scalar content,rfl⟩

theorem values_unbroken {items : List Node} (all : ∀ item ∈ items,item.Unbroken) : ∃ trees,values items = .ok trees := by
  induction items with
  | nil => exact ⟨[],rfl⟩
  | cons item items ih =>
    obtain ⟨⟨tree,here⟩,behind⟩ := List.forall_mem_cons.mp all
    obtain ⟨trees,others⟩ := ih behind
    exact ⟨tree :: trees,values_cons.mpr ⟨tree,trees,here,others,rfl⟩⟩

theorem rowValues_unbroken {rows : List (String × Nat × Node)} (all : ∀ row ∈ rows,row.2.2.Unbroken) :
    ∃ pairs,rowValues rows = .ok pairs := by
  induction rows with
  | nil => exact ⟨[],rfl⟩
  | cons row rows ih =>
    obtain ⟨⟨tree,here⟩,behind⟩ := List.forall_mem_cons.mp all
    obtain ⟨pairs,others⟩ := ih behind
    exact ⟨(row.1,tree) :: pairs,rowValues_cons.mpr ⟨tree,pairs,here,others,rfl⟩⟩

theorem unbroken_list (span : Span) (all : ∀ item ∈ items,Node.Unbroken item) : (Node.list span items none).Unbroken := by
  obtain ⟨trees,read⟩ := values_unbroken all
  exact ⟨.list trees,value_list.mpr ⟨trees,read,rfl,rfl⟩⟩

theorem unbroken_table {rows : List (String × Nat × Node)} (span : Span) (all : ∀ row ∈ rows,row.2.2.Unbroken) :
    (Node.table span rows none).Unbroken := by
  obtain ⟨pairs,read⟩ := rowValues_unbroken all
  exact ⟨.table pairs,value_table.mpr ⟨pairs,read,rfl,rfl⟩⟩

theorem asInteger_unbroken {kind : IntegerKind} {content : kind.Content} {node : Node}
    (read : node.asInteger kind = .ok content) : node.Unbroken := by
  obtain ⟨span,value,rfl,-⟩ := asInteger_ok.mp read
  exact unbroken_scalar span _

end Node

theorem Layout.fold_unbroken (layout : Layout) {unknown : String → Nat → Refusal}
    (step : ∀ {node : Node} {slots filled : layout.Slots} {unknown : Refusal} {key : String} {offset : Nat},
      layout.decodeField .json unknown key offset node slots = .ok filled → node.Unbroken)
    (rows : List (String × Nat × Node)) {slots filled : layout.Slots}
    (folded : rows.foldlM (layout.fill .json unknown) slots = .ok filled) : ∀ row ∈ rows,row.2.2.Unbroken := by
  induction rows generalizing slots with
  | nil => simp
  | cons row rows ih =>
    obtain ⟨next,first,left⟩ := bind_ok.mp folded
    exact List.forall_mem_cons.mpr ⟨step first,ih left⟩

-- What the strict notation is decoded from was read without a break.
mutual
theorem Shape.decode_unbroken : (shape : Shape) → ∀ {node : Node} {content : shape.Content},
    shape.decode .json node = .ok content → node.Unbroken
  | .integer _,_,_,read => Node.asInteger_unbroken read
  | .real,_,_,read => by
    obtain ⟨span,rfl | ⟨value,rfl,-⟩⟩ := Node.asReal_ok.mp read
    · exact Node.unbroken_scalar span _
    · exact Node.unbroken_scalar span _
  | .flag,_,_,read => by
    obtain ⟨span,rfl⟩ := Node.asFlag_ok.mp read
    exact Node.unbroken_scalar span _
  | .text,_,_,read | .path,_,_,read => by
    obtain ⟨span,rfl⟩ := Node.asText_ok.mp read
    exact Node.unbroken_scalar span _
  | .optional inner,node,_,read => by
    cases node with
    | scalar span content => exact Node.unbroken_scalar span content
    | list | table | torn =>
      obtain ⟨held,found,-⟩ := map_ok.mp read
      exact inner.decode_unbroken found
  | .list inner,_,_,read => by
    obtain ⟨span,items,rfl,inside⟩ := inner.decode_list .json read
    apply Node.unbroken_list
    intro item member
    obtain ⟨held,-,found⟩ := forall₂_right (mapM_ok.mp inside).flip item member
    exact inner.decode_unbroken found
  | .counts,_,_,read => by
    obtain ⟨span,rows,entries,rfl,counted,-⟩ := Node.asCounts_ok.mp read
    apply Node.unbroken_table
    intro row member
    obtain ⟨entry,-,found⟩ := forall₂_right (mapM_ok.mp counted).flip row member
    exact Node.asInteger_unbroken (Node.count_ok.mp found).2
  | .metadata,_,_,read => by
    obtain ⟨pairs,found,-⟩ := Node.asMetadata_ok.mp read
    exact ⟨_,found⟩
  | .record name layout,_,_,read => by
    rcases layout.decode_record name read with ⟨span,items,short,rfl,inside⟩ | ⟨span,rows,unknown,slots,rfl,filled,-⟩
    · exact Node.unbroken_list span (layout.decodeItems_unbroken inside)
    · exact Node.unbroken_table span (layout.fold_unbroken (fun first => layout.decodeField_unbroken first) rows filled)
theorem Layout.decodeField_unbroken : (layout : Layout) → ∀ {node : Node} {slots filled : layout.Slots}
    {unknown : Refusal} {key : String} {offset : Nat},
    layout.decodeField .json unknown key offset node slots = .ok filled → node.Unbroken
  | .nil,_,_,_,_,_,_,read => by cases read
  | .cons _ _ shape rest,_,(_,_),_,_,_,_,read => by
    rcases Layout.decodeField_ok.mp read with ⟨-,-,content,found,-⟩ | ⟨-,after,found,-⟩
    · exact shape.decode_unbroken found
    · exact rest.decodeField_unbroken found
theorem Layout.decodeItems_unbroken : (layout : Layout) → ∀ {index : Nat} {items : List Node}
    {content : layout.Content} {short : Nat → Refusal} {broken : Option Json.Break},
    layout.decodeItems .json short broken index items = .ok content → ∀ item ∈ items,item.Unbroken
  | .nil,_,items,_,_,_,read => by
    rw [(surplus_whole read).1]
    simp
  | .cons name required shape rest,_,items,_,_,_,read => by
    cases items with
    | nil => simp
    | cons item items =>
      obtain ⟨first,others,found,behind,-⟩ := Layout.items_ok.mp read
      exact List.forall_mem_cons.mpr ⟨shape.decode_unbroken found,rest.decodeItems_unbroken behind⟩
end

end LedgerSettings
