import LedgerSettings.Metadata

namespace LedgerSettings

-- Rows that are in order already are kept as they are.
theorem put_last (key : String) (value : α) (rows : List (String × α)) (below : ∀ row ∈ rows,row.1 < key) :
    put key value rows = rows ++ [(key,value)] := by
  induction rows with
  | nil => rfl
  | cons row rest ih =>
    obtain ⟨first,others⟩ := List.forall_mem_cons.mp below
    have notBefore : ¬key < row.1 := String.lt_asymm first
    have notSame : key ≠ row.1 := fun same => String.lt_irrefl _ (same ▸ first)
    simp [put,notBefore,notSame,ih others]

theorem collect_ordered (rows : List (String × α)) (ascending : Ascending rows) : collect rows = rows := by
  have general : ∀ rest kept : List (String × α),Ascending (kept ++ rest) →
      rest.foldl (fun kept row => put row.1 row.2 kept) kept = kept ++ rest := by
    intro rest
    induction rest with
    | nil => simp
    | cons row rest ih =>
      intro kept ordered
      have below : ∀ earlier ∈ kept,earlier.1 < row.1 := fun earlier member =>
        (List.pairwise_append.mp ordered).2.2 earlier member row List.mem_cons_self
      rw [List.foldl_cons,put_last row.1 row.2 kept below,ih _ (by simpa using ordered)]
      simp
  exact general rows [] ascending

namespace Value

mutual
theorem settle_same : (value : Value) → value.Settled → value.settle = value
  | .scalar content,settled => by
    simp only [Settled] at settled
    cases content with
    | integer value =>
      have within : -9223372036854775808 ≤ value ∧ value ≤ 18446744073709551615 := settled
      simp only [settle,Scalar.settle,if_pos within]
    | real value =>
      have finite : value.isFinite = true := settled
      simp only [settle,Scalar.settle,settleReal,if_pos finite]
    | _ => rfl
  | .list items,settled => by
    simp only [Settled] at settled
    simp only [settle,settleItems_same items settled]
  | .table rows,settled => by
    simp only [Settled] at settled
    simp only [settle,settleRows_same rows settled.2,collect_ordered rows settled.1]
theorem settleItems_same : (items : List Value) → ItemsSettled items → settleItems items = items
  | [],_ => rfl
  | item :: rest,settled => by
    simp only [ItemsSettled] at settled
    simp only [settleItems,settle_same item settled.1,settleItems_same rest settled.2]
theorem settleRows_same : (rows : List (String × Value)) → RowsSettled rows → settleRows rows = rows
  | [],_ => rfl
  | (key,value) :: rest,settled => by
    simp only [RowsSettled] at settled
    simp only [settleRows,settle_same value settled.1,settleRows_same rest settled.2]
end

mutual
def height : Value → Nat
  | .scalar _ => 0
  | .list items => itemsHeight items + 1
  | .table rows => rowsHeight rows + 1
def itemsHeight : List Value → Nat
  | [] => 0
  | item :: rest => max item.height (itemsHeight rest)
def rowsHeight : List (String × Value) → Nat
  | [] => 0
  | row :: rest => max row.2.height (rowsHeight rest)
end

mutual
def scalars : Value → List Scalar
  | .scalar content => [content]
  | .list items => itemsScalars items
  | .table rows => rowsScalars rows
def itemsScalars : List Value → List Scalar
  | [] => []
  | item :: rest => item.scalars ++ itemsScalars rest
def rowsScalars : List (String × Value) → List Scalar
  | [] => []
  | row :: rest => row.2.scalars ++ rowsScalars rest
end

theorem rowsHeight_exact (rows : List (String × Value)) (bound : Nat) :
    rowsHeight rows ≤ bound ↔ ∀ row ∈ rows,row.2.height ≤ bound := by
  induction rows with
  | nil => simp [rowsHeight]
  | cons row rest ih => simp only [rowsHeight,Nat.max_le,ih,List.forall_mem_cons]

theorem itemsHeight_append (items others : List Value) :
    itemsHeight (items ++ others) = max (itemsHeight items) (itemsHeight others) := by
  induction items with
  | nil => simp only [List.nil_append,itemsHeight,Nat.zero_max]
  | cons item items ih => simp only [List.cons_append,itemsHeight,ih,Nat.max_assoc]

theorem rowsHeight_append (rows others : List (String × Value)) :
    rowsHeight (rows ++ others) = max (rowsHeight rows) (rowsHeight others) := by
  induction rows with
  | nil => simp only [List.nil_append,rowsHeight,Nat.zero_max]
  | cons row rows ih => simp only [List.cons_append,rowsHeight,ih,Nat.max_assoc]

mutual
theorem settle_height : (value : Value) → value.settle.height ≤ value.height
  | .scalar content => by simp only [settle,height,Nat.le_refl]
  | .list items => by
    simp only [settle,height]
    exact Nat.succ_le_succ (settleItems_height items)
  | .table rows => by
    simp only [settle,height]
    refine Nat.succ_le_succ ((rowsHeight_exact _ _).mpr fun row member => ?_)
    exact (rowsHeight_exact _ _).mp (settleRows_height rows) row (collect_member _ row member)
theorem settleItems_height : (items : List Value) → itemsHeight (settleItems items) ≤ itemsHeight items
  | [] => by simp only [settleItems,Nat.le_refl]
  | item :: rest => by
    have first := settle_height item
    have others := settleItems_height rest
    simp only [settleItems,itemsHeight]
    omega
theorem settleRows_height : (rows : List (String × Value)) → rowsHeight (settleRows rows) ≤ rowsHeight rows
  | [] => by simp only [settleRows,Nat.le_refl]
  | (key,value) :: rest => by
    have first := settle_height value
    have others := settleRows_height rest
    simp only [settleRows,rowsHeight]
    omega
end

mutual
theorem settled_scalars : (value : Value) → value.Settled → ∀ content ∈ value.scalars,content.Settled
  | .scalar content,settled => by
    simp only [Settled] at settled
    simp only [scalars,List.mem_singleton,forall_eq]
    exact settled
  | .list items,settled => by
    simp only [Settled] at settled
    simpa only [scalars] using settled_itemsScalars items settled
  | .table rows,settled => by
    simp only [Settled] at settled
    simpa only [scalars] using settled_rowsScalars rows settled.2
theorem settled_itemsScalars : (items : List Value) → ItemsSettled items →
    ∀ content ∈ itemsScalars items,content.Settled
  | [],_ => by simp only [itemsScalars,List.not_mem_nil,false_implies,implies_true]
  | item :: rest,settled => by
    simp only [ItemsSettled] at settled
    simp only [itemsScalars,List.forall_mem_append]
    exact ⟨settled_scalars item settled.1,settled_itemsScalars rest settled.2⟩
theorem settled_rowsScalars : (rows : List (String × Value)) → RowsSettled rows →
    ∀ content ∈ rowsScalars rows,content.Settled
  | [],_ => by simp only [rowsScalars,List.not_mem_nil,false_implies,implies_true]
  | (key,value) :: rest,settled => by
    simp only [RowsSettled] at settled
    simp only [rowsScalars,List.forall_mem_append]
    exact ⟨settled_scalars value settled.1,settled_rowsScalars rest settled.2⟩
end

end Value

theorem Metadata.ofRows_rows (metadata : Metadata) : ofRows metadata.rows = metadata := by
  have same := Value.settle_same _ metadata.settled
  simp only [Value.settle,Value.table.injEq] at same
  exact same_rows _ _ same

theorem Keyed.ofRows_rows (entries : Keyed α) : ofRows entries.rows = entries :=
  same_rows _ _ (collect_ordered entries.rows entries.ascending)

end LedgerSettings
