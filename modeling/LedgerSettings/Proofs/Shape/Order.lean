import LedgerSettings.Proofs.Shape.Depth
import LedgerSettings.Proofs.Value.Order

namespace LedgerSettings

namespace Node

theorem rowValues_forall : rowValues rows = .ok pairs ↔
    List.Forall₂ (fun (pair : String × Value) (row : String × Nat × Node) =>
      row.1 = pair.1 ∧ row.2.2.value = .ok pair.2) pairs rows := by
  induction rows generalizing pairs with
  | nil => cases pairs <;> simp [rowValues]
  | cons row rows ih =>
    obtain ⟨key,offset,node⟩ := row
    rw [rowValues_cons]
    constructor
    · rintro ⟨first,others,here,behind,rfl⟩
      exact .cons ⟨rfl,here⟩ (ih.mp behind)
    · intro all
      cases all with
      | @cons pair _ others _ here behind =>
        obtain ⟨rfl,here⟩ := here
        exact ⟨pair.2,others,here,ih.mpr behind,rfl⟩

theorem rowValues_moved (read : rowValues rows = .ok pairs) (moved : others.Perm pairs) :
    ∃ between,rowValues between = .ok others ∧ between.Perm rows := by
  obtain ⟨between,all,same⟩ := List.perm_comp_forall₂ moved (rowValues_forall.mp read)
  exact ⟨between,rowValues_forall.mpr all,same⟩

-- Two nodes whose values differ in the order of rows alone, wherever they were read.
def Alike (node other : Node) : Prop :=
  ∃ left right,node.value = .ok left ∧ other.value = .ok right ∧ left.Reordered right

def RowAlike (row other : String × Nat × Node) : Prop := row.1 = other.1 ∧ row.2.2.Alike other.2.2

theorem values_alike {contents trees : List Value} (items : List Node) {others : List Node}
    (same : Value.ItemsReordered contents trees) (written : values items = .ok contents)
    (read : values others = .ok trees) : List.Forall₂ Alike items others := by
  induction items generalizing contents trees others with
  | nil =>
    cases written
    simp only [Value.ItemsReordered] at same
    subst same
    cases others with
    | nil => exact .nil
    | cons other others =>
      obtain ⟨_,_,-,-,⟨⟩⟩ := values_cons.mp read
  | cons item items ih =>
    obtain ⟨first,rest,here,behind,rfl⟩ := values_cons.mp written
    simp only [Value.ItemsReordered] at same
    obtain ⟨second,more,rfl,alike,same⟩ := same
    cases others with
    | nil => cases read
    | cons other others =>
      obtain ⟨_,_,there,beyond,⟨⟩⟩ := values_cons.mp read
      exact .cons ⟨first,second,here,there,alike⟩ (ih same behind beyond)

theorem rowValues_alike {pairs moved : List (String × Value)} (rows : List (String × Nat × Node))
    {others : List (String × Nat × Node)} (same : Value.RowsReordered pairs moved)
    (written : rowValues rows = .ok pairs) (read : rowValues others = .ok moved) :
    List.Forall₂ RowAlike rows others := by
  induction rows generalizing pairs moved others with
  | nil =>
    cases written
    simp only [Value.RowsReordered] at same
    subst same
    cases others with
    | nil => exact .nil
    | cons row others =>
      obtain ⟨_,_,-,-,⟨⟩⟩ := rowValues_cons.mp read
  | cons row rows ih =>
    obtain ⟨key,offset,node⟩ := row
    obtain ⟨first,rest,here,behind,rfl⟩ := rowValues_cons.mp written
    simp only [Value.RowsReordered] at same
    obtain ⟨second,more,rfl,alike,same⟩ := same
    cases others with
    | nil => cases read
    | cons other others =>
      obtain ⟨name,place,other⟩ := other
      obtain ⟨_,_,there,beyond,⟨⟩⟩ := rowValues_cons.mp read
      exact .cons ⟨rfl,first,second,here,there,alike⟩ (ih same behind beyond)

theorem alike_scalar (alike : (Node.scalar span content).Alike other) : ∃ place,other = .scalar place content := by
  obtain ⟨_,right,written,read,same⟩ := alike
  cases value_scalar.mp written
  simp only [Value.Reordered] at same
  subst same
  exact of_scalar read

theorem alike_list (alike : (Node.list span items broken).Alike other) :
    broken = none ∧ ∃ place others,other = .list place others none ∧ List.Forall₂ Alike items others := by
  obtain ⟨_,right,written,read,same⟩ := alike
  obtain ⟨contents,inside,whole,rfl⟩ := value_list.mp written
  simp only [Value.Reordered] at same
  obtain ⟨trees,rfl,same⟩ := same
  obtain ⟨place,others,rfl,there⟩ := of_list read
  exact ⟨whole,place,others,rfl,values_alike items same inside there⟩

theorem alike_table (alike : (Node.table span rows broken).Alike other) :
    broken = none ∧ ∃ place between others,other = .table place others none ∧ List.Forall₂ RowAlike rows between ∧
      (between = others ∨ ((between.map Prod.fst).Nodup ∧ between.Perm others)) := by
  obtain ⟨_,right,written,read,same⟩ := alike
  obtain ⟨pairs,inside,whole,rfl⟩ := value_table.mp written
  simp only [Value.Reordered] at same
  obtain ⟨middle,moved,rfl,same,order⟩ := same
  obtain ⟨place,others,rfl,there⟩ := of_table read
  rcases order with rfl | ⟨distinct,order⟩
  · exact ⟨whole,place,others,others,rfl,rowValues_alike rows same inside there,.inl rfl⟩
  · obtain ⟨between,here,moved⟩ := rowValues_moved there order
    refine ⟨whole,place,between,others,rfl,rowValues_alike rows same inside here,.inr ⟨?_,moved⟩⟩
    rw [rowValues_names here]
    exact distinct

theorem asMetadata_alike {node other : Node} (alike : node.Alike other) (read : node.asMetadata = .ok metadata) :
    other.asMetadata = .ok metadata := by
  obtain ⟨pairs,written,rfl⟩ := asMetadata_ok.mp read
  obtain ⟨left,right,written',found,same⟩ := alike
  cases written.symm.trans written'
  have settled := Value.settle_reordered _ same
  simp only [Value.Reordered] at same
  obtain ⟨between,others,rfl,-⟩ := same
  simp only [Value.settle,Value.table.injEq] at settled
  exact asMetadata_ok.mpr ⟨others,found,Metadata.same_rows _ _ settled.symm⟩

theorem asInteger_alike {kind : IntegerKind} {content : kind.Content} {node other : Node} (alike : node.Alike other)
    (read : node.asInteger kind = .ok content) : other.asInteger kind = .ok content := by
  obtain ⟨span,value,rfl,stored⟩ := asInteger_ok.mp read
  obtain ⟨place,rfl⟩ := alike_scalar alike
  exact asInteger_ok.mpr ⟨place,value,rfl,stored⟩

theorem count_alike {row other : String × Nat × Node} (alike : RowAlike row other) (read : count row = .ok entry) :
    count other = .ok entry := by
  obtain ⟨named,stored⟩ := count_ok.mp read
  exact count_ok.mpr ⟨alike.1.symm.trans named,asInteger_alike alike.2 stored⟩

end Node

-- Fields of different names are filled in either order.
theorem Layout.decodeField_swap (format : DocumentFormat) {key name : String} (different : key ≠ name)
    {unknown missed : Refusal} {offset place : Nat} {node other : Node} : (layout : Layout) →
    ∀ {slots middle filled : layout.Slots},layout.decodeField format unknown key offset node slots = .ok middle →
      layout.decodeField format missed name place other middle = .ok filled →
      ∃ between,layout.decodeField format missed name place other slots = .ok between ∧
        layout.decodeField format unknown key offset node between = .ok filled
  | .nil,_,_,_,first,_ => by cases first
  | .cons field required shape rest,(slot,slots),_,_,first,second => by
    rcases decodeField_ok.mp first with ⟨rfl,rfl,content,read,rfl⟩ | ⟨behind,after,read,rfl⟩
    · rcases decodeField_ok.mp second with ⟨same,-⟩ | ⟨passed,after,found,rfl⟩
      · exact absurd same.symm different
      · exact ⟨(none,after),decodeField_ok.mpr (.inr ⟨passed,after,found,rfl⟩),
          decodeField_ok.mpr (.inl ⟨rfl,rfl,content,read,rfl⟩)⟩
    · rcases decodeField_ok.mp second with ⟨rfl,rfl,content,found,rfl⟩ | ⟨passed,last,found,rfl⟩
      · exact ⟨(some content,slots),decodeField_ok.mpr (.inl ⟨rfl,rfl,content,found,rfl⟩),
          decodeField_ok.mpr (.inr ⟨behind,after,read,rfl⟩)⟩
      · obtain ⟨between,found,read⟩ := rest.decodeField_swap format different read found
        exact ⟨(slot,between),decodeField_ok.mpr (.inr ⟨passed,between,found,rfl⟩),
          decodeField_ok.mpr (.inr ⟨behind,last,read,rfl⟩)⟩

theorem Layout.fill_moved (layout : Layout) (format : DocumentFormat) (unknown : String → Nat → Refusal)
    {rows others : List (String × Nat × Node)} (distinct : (rows.map Prod.fst).Nodup) (moved : rows.Perm others)
    {slots filled : layout.Slots} (read : rows.foldlM (layout.fill format unknown) slots = .ok filled) :
    others.foldlM (layout.fill format unknown) slots = .ok filled := by
  refine foldlM_moved (fun apart => Ne.symm apart) ?_ moved (List.pairwise_map.mp distinct) read
  intro first second slots middle filled apart
  exact layout.decodeField_swap format apart

theorem Node.asCounts_alike {node other : Node} (alike : node.Alike other) (read : node.asCounts = .ok counts) :
    other.asCounts = .ok counts := by
  obtain ⟨span,rows,entries,rfl,counted,rfl⟩ := asCounts_ok.mp read
  obtain ⟨-,place,between,others,rfl,all,order⟩ := alike_table alike
  have inPlace := mapM_alike all counted count_alike
  rcases order with rfl | ⟨distinct,moved⟩
  · exact asCounts_ok.mpr ⟨place,between,entries,rfl,inPlace,rfl⟩
  · obtain ⟨after,counted,same⟩ := mapM_moved moved inPlace
    have distinct : (entries.map Prod.fst).Nodup := by
      rw [← counts_names inPlace]
      exact distinct
    exact asCounts_ok.mpr ⟨place,others,after,rfl,counted,Keyed.same_rows _ _ (collect_perm distinct same).symm⟩

theorem surplus_alike {format : DocumentFormat} (all : List.Forall₂ Node.Alike items others)
    (passed : surplus format items none = .ok ()) : surplus format others none = .ok () := by
  cases format with
  | toml => rfl
  | json =>
    cases all with
    | nil => rfl
    | cons => cases passed

theorem Shape.optional_alike {inner : Shape} {format : DocumentFormat} {node other : Node}
    {content : Option inner.Content} (alike : node.Alike other)
    (each : ∀ {held : inner.Content},inner.decode format node = .ok held → inner.decode format other = .ok held)
    (read : Shape.decode format (.optional inner) node = .ok content) :
    Shape.decode format (.optional inner) other = .ok content := by
  by_cases empty : node.value = .ok .null
  · obtain ⟨span,rfl⟩ := Node.of_scalar empty
    obtain ⟨place,rfl⟩ := Node.alike_scalar alike
    exact read
  · obtain ⟨left,right,written,found,same⟩ := alike
    have present : left ≠ .null := by
      rintro rfl
      exact empty written
    rw [inner.decode_present format written present] at read
    rw [inner.decode_present format found (Value.reordered_present same present)]
    obtain ⟨held,inside,rfl⟩ := map_ok.mp read
    exact map_ok.mpr ⟨held,each inside,rfl⟩

mutual
theorem Shape.decode_alike (format : DocumentFormat) : (shape : Shape) → ∀ {node other : Node} {content : shape.Content},
    node.Alike other → shape.decode format node = .ok content → shape.decode format other = .ok content
  | .integer _,_,_,_,alike,read => Node.asInteger_alike alike read
  | .real,_,_,_,alike,read => by
    obtain ⟨span,rfl | ⟨value,rfl,rfl⟩⟩ := Node.asReal_ok.mp read
    · obtain ⟨place,rfl⟩ := Node.alike_scalar alike
      rfl
    · obtain ⟨place,rfl⟩ := Node.alike_scalar alike
      rfl
  | .flag,_,_,_,alike,read => by
    obtain ⟨span,rfl⟩ := Node.asFlag_ok.mp read
    obtain ⟨place,rfl⟩ := Node.alike_scalar alike
    rfl
  | .text,_,_,_,alike,read | .path,_,_,_,alike,read => by
    obtain ⟨span,rfl⟩ := Node.asText_ok.mp read
    obtain ⟨place,rfl⟩ := Node.alike_scalar alike
    rfl
  | .optional inner,_,_,_,alike,read => Shape.optional_alike alike (inner.decode_alike format alike) read
  | .list inner,_,_,_,alike,read => by
    obtain ⟨span,items,rfl,found⟩ := inner.decode_list format read
    obtain ⟨-,place,others,rfl,all⟩ := Node.alike_list alike
    exact inner.decode_items format place (mapM_alike all found fun alike read => inner.decode_alike format alike read)
  | .counts,_,_,_,alike,read => Node.asCounts_alike alike read
  | .metadata,_,_,_,alike,read => Node.asMetadata_alike alike read
  | .record name layout,node,_,_,alike,read => by
    cases node with
    | list span items broken =>
      obtain ⟨rfl,place,others,rfl,all⟩ := Node.alike_list alike
      exact layout.decodeItems_alike format all read
    | table span rows broken =>
      obtain ⟨rfl,place,between,others,rfl,all,order⟩ := Node.alike_table alike
      obtain ⟨slots,filled,complete⟩ := Layout.table_ok.mp read
      have inPlace : between.foldlM (layout.fill format fun key offset =>
          .mismatch (.unknownField key layout.names) offset) layout.unfilled = .ok slots :=
        foldlM_alike all filled fun alike read => layout.decodeField_alike format alike.1 alike.2 read
      refine Layout.table_ok.mpr ⟨slots,?_,complete⟩
      rcases order with rfl | ⟨distinct,moved⟩
      · exact inPlace
      · exact layout.fill_moved format _ distinct moved inPlace
    | scalar | torn => cases read
theorem Layout.decodeField_alike (format : DocumentFormat) {key name : String} (same : key = name) :
    (layout : Layout) → ∀ {unknown missed : Refusal} {offset place : Nat} {node other : Node}
      {slots filled : layout.Slots},node.Alike other →
      layout.decodeField format unknown key offset node slots = .ok filled →
      layout.decodeField format missed name place other slots = .ok filled
  | .nil,_,_,_,_,_,_,_,_,_,read => by cases read
  | .cons _ _ shape rest,_,_,_,_,_,_,(slot,slots),_,alike,read => by
    subst same
    rcases Layout.decodeField_ok.mp read with ⟨rfl,rfl,content,found,rfl⟩ | ⟨passed,after,found,rfl⟩
    · exact Layout.decodeField_ok.mpr (.inl ⟨rfl,rfl,content,shape.decode_alike format alike found,rfl⟩)
    · exact Layout.decodeField_ok.mpr (.inr ⟨passed,after,rest.decodeField_alike format rfl alike found,rfl⟩)
theorem Layout.decodeItems_alike (format : DocumentFormat) : (layout : Layout) →
    ∀ {short missed : Nat → Refusal} {index : Nat} {items others : List Node} {content : layout.Content},
      List.Forall₂ Node.Alike items others →
      layout.decodeItems format short none index items = .ok content →
      layout.decodeItems format missed none index others = .ok content
  | .nil,_,_,_,_,_,_,all,read => surplus_alike all read
  | .cons _ required shape rest,_,_,_,_,_,_,all,read => by
    cases all with
    | nil =>
      obtain ⟨whole,free,others,left,same⟩ := Layout.items_left_out.mp read
      exact Layout.items_left_out.mpr ⟨whole,free,others,rest.decodeItems_alike format .nil left,same⟩
    | cons here behind =>
      obtain ⟨first,others,found,left,same⟩ := Layout.items_ok.mp read
      exact Layout.items_ok.mpr ⟨first,others,shape.decode_alike format here found,
        rest.decodeItems_alike format behind left,same⟩
end

-- A node is decoded as the value it stands for.
theorem Shape.decode_value {shape : Shape} {format : DocumentFormat} {node : Node} {content : shape.Content}
    (read : node.value = .ok tree) :
    shape.decode format node = .ok content ↔ shape.decode format (Node.ofValue tree) = .ok content := by
  have itself := Node.value_ofValue tree
  have same := Value.reordered_refl tree
  constructor
  · exact shape.decode_alike format ⟨tree,tree,read,itself,same⟩
  · exact shape.decode_alike format ⟨tree,tree,itself,read,same⟩

theorem countsValue_apart (counts : Keyed Int64) : (countsValue counts).Apart := by
  simp only [countsValue,Value.Apart,List.map_map]
  refine ⟨ascending_distinct counts.ascending,?_⟩
  induction counts.rows with
  | nil => simp only [List.map_nil,Value.RowsApart]
  | cons row rows ih =>
    simp only [List.map_cons,Value.RowsApart,signedValue,Value.integer,Value.Apart,true_and]
    exact ih

theorem itemsApart_written {written : α → Value → Prop} {contents : List α}
    (all : List.Forall₂ written contents trees) (each : ∀ {content tree},written content tree → tree.Apart) :
    Value.ItemsApart trees := by
  induction all with
  | nil => simp only [Value.ItemsApart]
  | cons first _ ih =>
    simp only [Value.ItemsApart]
    exact ⟨each first,ih⟩

-- Written content has no key twice.
mutual
theorem Shape.written_apart : (shape : Shape) → shape.distinct = true → ∀ {content : shape.Content} {tree : Value},
    shape.Written content tree → tree.Apart
  | .optional inner,distinct,_,_,written => by
    simp only [Shape.distinct] at distinct
    simp only [Shape.Written] at written
    obtain ⟨held,-,written⟩ := written
    exact inner.written_apart distinct written
  | .list inner,distinct,_,_,written => by
    simp only [Shape.distinct] at distinct
    simp only [Shape.Written] at written
    obtain ⟨trees,rfl,all⟩ := written
    simp only [Value.Apart]
    exact itemsApart_written all fun written => inner.written_apart distinct written
  | .counts,_,content,_,written => by
    simp only [Shape.Written] at written
    subst written
    exact countsValue_apart content
  | .metadata,_,content,_,written => by
    simp only [Shape.Written] at written
    subst written
    exact Value.settled_apart _ (Metadata.settled content)
  | .record _ layout,distinct,_,_,written => by
    simp only [Shape.distinct,Bool.and_eq_true,decide_eq_true_eq] at distinct
    simp only [Shape.Written] at written
    obtain ⟨pairs,rfl,written⟩ := written
    simp only [Value.Apart]
    exact ⟨distinct.1.sublist (layout.written_sublist written),layout.written_apart distinct.2 written⟩
  | .integer _,_,_,_,written | .flag,_,_,_,written | .text,_,_,_,written | .path,_,_,_,written => by
    simp only [Shape.Written] at written
    simp only [written,Value.integer,Value.flag,Value.text,Value.Apart]
  | .real,_,_,_,written => by
    simp only [Shape.Written] at written
    simp only [written.2,Value.real,Value.Apart]
theorem Layout.written_apart : (layout : Layout) → layout.distinct = true → ∀ {content : layout.Content}
    {pairs : List (String × Value)},layout.Written content pairs → Value.RowsApart pairs
  | .nil,_,_,_,written => by
    simp only [Layout.Written] at written
    simp only [written,Value.RowsApart]
  | .cons _ _ shape rest,distinct,(first,others),_,written => by
    simp only [Layout.distinct,Bool.and_eq_true] at distinct
    simp only [Layout.Written] at written
    rcases written with ⟨tree,more,rfl,here,written⟩ | ⟨-,-,written⟩
    · simp only [Value.RowsApart]
      exact ⟨shape.written_apart distinct.1 here,rest.written_apart distinct.2 written⟩
    · exact rest.written_apart distinct.2 written
end

theorem Shape.written_reordered (shape : Shape) (distinct : shape.distinct = true) {content : shape.Content}
    (written : shape.Written content tree) : tree.Reordered tree.settle :=
  tree.reordered_settle (shape.written_apart distinct written) (shape.written_settled written)

end LedgerSettings
