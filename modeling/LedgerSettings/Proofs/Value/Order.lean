import LedgerSettings.Proofs.Value
import Mathlib.Data.List.Forall2
import Mathlib.Data.List.Perm.Basic

namespace LedgerSettings

theorem put_perm (key : String) (value : α) (rows : List (String × α)) (fresh : key ∉ rows.map Prod.fst) :
    (put key value rows).Perm ((key,value) :: rows) := by
  induction rows with
  | nil => exact .refl _
  | cons row rest ih =>
    obtain ⟨different,later⟩ := not_or.mp (mt List.mem_cons.mpr fresh)
    simp only [put,if_neg different]
    split
    · exact .refl _
    · exact ((ih later).cons row).trans (.swap ..)

theorem collect_keeps (rows : List (String × α)) (distinct : (rows.map Prod.fst).Nodup) :
    (collect rows).Perm rows := by
  have general : ∀ rest kept : List (String × α),((rest ++ kept).map Prod.fst).Nodup →
      (rest.foldl (fun kept row => put row.1 row.2 kept) kept).Perm (rest ++ kept) := by
    intro rest
    induction rest with
    | nil => exact fun kept _ => .refl kept
    | cons row rest ih =>
      intro kept distinct
      simp only [List.cons_append,List.map_cons,List.nodup_cons,List.map_append,List.mem_append,not_or] at distinct
      have added := put_perm row.1 row.2 kept distinct.1.2
      have moved : (rest ++ put row.1 row.2 kept).Perm (row :: (rest ++ kept)) :=
        (added.append_left rest).trans List.perm_middle
      refine (ih _ ((moved.map Prod.fst).nodup_iff.mpr ?_)).trans moved
      simpa only [List.map_cons,List.nodup_cons,List.map_append,List.mem_append,not_or] using distinct
  have kept := general rows []
  rw [List.append_nil] at kept
  exact kept distinct

theorem ascending_distinct {rows : List (String × α)} (ascending : Ascending rows) : (rows.map Prod.fst).Nodup :=
  List.pairwise_map.mpr (ascending.imp fun before => Std.ne_of_lt before)

-- Tables that are kept by key forget the order they were written in.
theorem collect_perm {rows others : List (String × α)} (distinct : (rows.map Prod.fst).Nodup)
    (moved : rows.Perm others) : collect rows = collect others := by
  have distinct' := (moved.map Prod.fst).nodup_iff.mp distinct
  have same : (collect rows).Perm (collect others) :=
    (collect_keeps rows distinct).trans (moved.trans (collect_keeps others distinct').symm)
  exact same.eq_of_pairwise (fun first second _ _ below above => absurd above (String.lt_asymm below))
    (collect_ascending rows) (collect_ascending others)

namespace Value

-- Rows in another order, where no key stands twice.
def Moved (rows others : List (String × Value)) : Prop :=
  rows = others ∨ ((rows.map Prod.fst).Nodup ∧ rows.Perm others)

-- Two trees that differ in the order of rows alone, at whatever depth.
mutual
def Reordered : Value → Value → Prop
  | .scalar content,other => other = .scalar content
  | .list items,other => ∃ others,other = .list others ∧ ItemsReordered items others
  | .table rows,other => ∃ between others,other = .table others ∧ RowsReordered rows between ∧ Moved between others
def ItemsReordered : List Value → List Value → Prop
  | [],others => others = []
  | item :: rest,others => ∃ first more,others = first :: more ∧ item.Reordered first ∧ ItemsReordered rest more
def RowsReordered : List (String × Value) → List (String × Value) → Prop
  | [],others => others = []
  | (key,value) :: rest,others =>
    ∃ first more,others = (key,first) :: more ∧ value.Reordered first ∧ RowsReordered rest more
end

mutual
theorem reordered_refl : (value : Value) → value.Reordered value
  | .scalar _ => by simp only [Reordered]
  | .list items => by
    simp only [Reordered]
    exact ⟨items,rfl,itemsReordered_refl items⟩
  | .table rows => by
    simp only [Reordered]
    exact ⟨rows,rows,rfl,rowsReordered_refl rows,.inl rfl⟩
theorem itemsReordered_refl : (items : List Value) → ItemsReordered items items
  | [] => by simp only [ItemsReordered]
  | item :: rest => by
    simp only [ItemsReordered]
    exact ⟨item,rest,rfl,reordered_refl item,itemsReordered_refl rest⟩
theorem rowsReordered_refl : (rows : List (String × Value)) → RowsReordered rows rows
  | [] => by simp only [RowsReordered]
  | (key,value) :: rest => by
    simp only [RowsReordered]
    exact ⟨value,rest,rfl,reordered_refl value,rowsReordered_refl rest⟩
end

theorem reordered_present {left right : Value} (same : left.Reordered right) (present : left ≠ .null) :
    right ≠ .null := by
  rintro rfl
  cases left with
  | scalar content =>
    simp only [Reordered] at same
    exact present same.symm
  | list items =>
    simp only [Reordered] at same
    obtain ⟨others,⟨⟩,-⟩ := same
  | table rows =>
    simp only [Reordered] at same
    obtain ⟨between,others,⟨⟩,-⟩ := same

theorem rowsReordered_forall {rows others : List (String × Value)} : RowsReordered rows others ↔
    List.Forall₂ (fun (row other : String × Value) => row.1 = other.1 ∧ row.2.Reordered other.2) rows others := by
  induction rows generalizing others with
  | nil => cases others <;> simp [RowsReordered]
  | cons row rest ih =>
    obtain ⟨key,value⟩ := row
    simp only [RowsReordered]
    constructor
    · rintro ⟨first,more,rfl,here,behind⟩
      exact .cons ⟨rfl,here⟩ (ih.mp behind)
    · intro all
      cases all with
      | @cons _ other _ more here behind =>
        obtain ⟨rfl,here⟩ := here
        exact ⟨other.2,more,rfl,here,ih.mpr behind⟩

theorem rowsReordered_names {rows others : List (String × Value)} (same : RowsReordered rows others) :
    rows.map Prod.fst = others.map Prod.fst := by
  have all := rowsReordered_forall.mp same
  clear same
  induction all with
  | nil => rfl
  | cons here _ ih => rw [List.map_cons,List.map_cons,here.1,ih]

-- Rows that were moved after they were reordered inside may be moved first.
theorem moved_before {rows between others : List (String × Value)} (same : RowsReordered between rows)
    (moved : Moved between others) : ∃ first,RowsReordered others first ∧ Moved first rows := by
  rcases moved with rfl | ⟨distinct,moved⟩
  · exact ⟨rows,same,.inl rfl⟩
  · obtain ⟨first,all,order⟩ := List.perm_comp_forall₂ moved.symm (rowsReordered_forall.mp same)
    have same' := rowsReordered_forall.mpr all
    refine ⟨first,same',.inr ⟨?_,order⟩⟩
    rw [← rowsReordered_names same']
    exact (moved.map Prod.fst).nodup_iff.mp distinct

mutual
theorem reordered_symm : (left : Value) → ∀ {right},left.Reordered right → right.Reordered left
  | .scalar _,_,same => by
    simp only [Reordered] at same
    subst same
    simp only [Reordered]
  | .list items,_,same => by
    simp only [Reordered] at same
    obtain ⟨others,rfl,inside⟩ := same
    simp only [Reordered]
    exact ⟨items,rfl,itemsReordered_symm items inside⟩
  | .table rows,_,same => by
    simp only [Reordered] at same
    obtain ⟨between,others,rfl,inside,moved⟩ := same
    obtain ⟨first,inside,moved⟩ := moved_before (rowsReordered_symm rows inside) moved
    simp only [Reordered]
    exact ⟨first,rows,rfl,inside,moved⟩
theorem itemsReordered_symm : (items : List Value) → ∀ {others},ItemsReordered items others →
    ItemsReordered others items
  | [],_,same => by
    simp only [ItemsReordered] at same
    subst same
    simp only [ItemsReordered]
  | item :: rest,_,same => by
    simp only [ItemsReordered] at same
    obtain ⟨first,more,rfl,here,behind⟩ := same
    simp only [ItemsReordered]
    exact ⟨item,rest,rfl,reordered_symm item here,itemsReordered_symm rest behind⟩
theorem rowsReordered_symm : (rows : List (String × Value)) → ∀ {others},RowsReordered rows others →
    RowsReordered others rows
  | [],_,same => by
    simp only [RowsReordered] at same
    subst same
    simp only [RowsReordered]
  | (key,value) :: rest,_,same => by
    simp only [RowsReordered] at same
    obtain ⟨first,more,rfl,here,behind⟩ := same
    simp only [RowsReordered]
    exact ⟨value,rest,rfl,reordered_symm value here,rowsReordered_symm rest behind⟩
end

theorem settleRows_map (rows : List (String × Value)) :
    settleRows rows = rows.map fun row => (row.1,row.2.settle) := by
  induction rows with
  | nil => simp only [settleRows,List.map_nil]
  | cons row rest ih => simp only [settleRows,ih,List.map_cons]

theorem settleRows_moved {rows others : List (String × Value)} (moved : Moved rows others) :
    collect (settleRows rows) = collect (settleRows others) := by
  rcases moved with rfl | ⟨distinct,moved⟩
  · rfl
  · rw [settleRows_map,settleRows_map]
    refine collect_perm ?_ (moved.map _)
    rw [List.map_map]
    exact distinct

mutual
theorem settle_reordered : (left : Value) → ∀ {right},left.Reordered right → left.settle = right.settle
  | .scalar _,_,same => by
    simp only [Reordered] at same
    rw [same]
  | .list items,_,same => by
    simp only [Reordered] at same
    obtain ⟨others,rfl,inside⟩ := same
    simp only [settle,settleItems_reordered items inside]
  | .table rows,_,same => by
    simp only [Reordered] at same
    obtain ⟨between,others,rfl,inside,moved⟩ := same
    simp only [settle,settleRows_reordered rows inside,settleRows_moved moved]
theorem settleItems_reordered : (items : List Value) → ∀ {others},ItemsReordered items others →
    settleItems items = settleItems others
  | [],_,same => by
    simp only [ItemsReordered] at same
    rw [same]
  | item :: rest,_,same => by
    simp only [ItemsReordered] at same
    obtain ⟨first,more,rfl,here,behind⟩ := same
    simp only [settleItems,settle_reordered item here,settleItems_reordered rest behind]
theorem settleRows_reordered : (rows : List (String × Value)) → ∀ {others},RowsReordered rows others →
    settleRows rows = settleRows others
  | [],_,same => by
    simp only [RowsReordered] at same
    rw [same]
  | (key,value) :: rest,_,same => by
    simp only [RowsReordered] at same
    obtain ⟨first,more,rfl,here,behind⟩ := same
    simp only [settleRows,settle_reordered value here,settleRows_reordered rest behind]
end

mutual
def Apart : Value → Prop
  | .scalar _ => True
  | .list items => ItemsApart items
  | .table rows => (rows.map Prod.fst).Nodup ∧ RowsApart rows
def ItemsApart : List Value → Prop
  | [] => True
  | item :: rest => item.Apart ∧ ItemsApart rest
def RowsApart : List (String × Value) → Prop
  | [] => True
  | row :: rest => row.2.Apart ∧ RowsApart rest
end

mutual
theorem settled_apart : (value : Value) → value.Settled → value.Apart
  | .scalar _,_ => by simp only [Apart]
  | .list items,settled => by
    simp only [Settled] at settled
    simp only [Apart]
    exact settled_itemsApart items settled
  | .table rows,settled => by
    simp only [Settled] at settled
    simp only [Apart]
    exact ⟨ascending_distinct settled.1,settled_rowsApart rows settled.2⟩
theorem settled_itemsApart : (items : List Value) → ItemsSettled items → ItemsApart items
  | [],_ => by simp only [ItemsApart]
  | item :: rest,settled => by
    simp only [ItemsSettled] at settled
    simp only [ItemsApart]
    exact ⟨settled_apart item settled.1,settled_itemsApart rest settled.2⟩
theorem settled_rowsApart : (rows : List (String × Value)) → RowsSettled rows → RowsApart rows
  | [],_ => by simp only [RowsApart]
  | (_,value) :: rest,settled => by
    simp only [RowsSettled] at settled
    simp only [RowsApart]
    exact ⟨settled_apart value settled.1,settled_rowsApart rest settled.2⟩
end

theorem settleRows_moved_self (rows : List (String × Value)) (distinct : (rows.map Prod.fst).Nodup) :
    Moved (settleRows rows) (collect (settleRows rows)) := by
  have distinct : ((settleRows rows).map Prod.fst).Nodup := by
    rw [settleRows_map,List.map_map]
    exact distinct
  exact .inr ⟨distinct,(collect_keeps _ distinct).symm⟩

-- Where every key stands once and every atom is settled, settling puts the rows in
-- order and does no more.
mutual
theorem reordered_settle : (value : Value) → value.Apart → (∀ atom ∈ value.scalars,atom.Settled) →
    value.Reordered value.settle
  | .scalar content,_,settled => by
    simp only [scalars,List.mem_singleton,forall_eq] at settled
    simp only [Reordered]
    exact settle_same (.scalar content) (by simpa only [Settled] using settled)
  | .list items,apart,settled => by
    simp only [Apart] at apart
    simp only [scalars] at settled
    simp only [settle,Reordered]
    exact ⟨_,rfl,itemsReordered_settle items apart settled⟩
  | .table rows,apart,settled => by
    simp only [Apart] at apart
    simp only [scalars] at settled
    simp only [settle,Reordered]
    exact ⟨settleRows rows,_,rfl,rowsReordered_settle rows apart.2 settled,settleRows_moved_self rows apart.1⟩
theorem itemsReordered_settle : (items : List Value) → ItemsApart items → (∀ atom ∈ itemsScalars items,atom.Settled) →
    ItemsReordered items (settleItems items)
  | [],_,_ => by simp only [settleItems,ItemsReordered]
  | item :: rest,apart,settled => by
    simp only [ItemsApart] at apart
    simp only [itemsScalars,List.forall_mem_append] at settled
    simp only [settleItems,ItemsReordered]
    exact ⟨_,_,rfl,reordered_settle item apart.1 settled.1,itemsReordered_settle rest apart.2 settled.2⟩
theorem rowsReordered_settle : (rows : List (String × Value)) → RowsApart rows →
    (∀ atom ∈ rowsScalars rows,atom.Settled) → RowsReordered rows (settleRows rows)
  | [],_,_ => by simp only [settleRows,RowsReordered]
  | (_,value) :: rest,apart,settled => by
    simp only [RowsApart] at apart
    simp only [rowsScalars,List.forall_mem_append] at settled
    simp only [settleRows,RowsReordered]
    exact ⟨_,_,rfl,reordered_settle value apart.1 settled.1,rowsReordered_settle rest apart.2 settled.2⟩
end

end Value

end LedgerSettings
