import LedgerSettings.Proofs.Shape.Reading

namespace LedgerSettings

-- How deep content is nested whatever it is. Only free-form tables go deeper.
mutual
def Shape.depth : Shape → Nat
  | .optional inner => inner.depth
  | .list inner => inner.depth + 1
  | .counts | .metadata => 1
  | .record _ layout => layout.depth + 1
  | _ => 0
def Layout.depth : Layout → Nat
  | .nil => 0
  | .cons _ _ shape rest => max shape.depth rest.depth
end

-- Content whose free-form tables fit into a nesting bound.
mutual
def Shape.Fits : Nat → (shape : Shape) → shape.Content → Prop
  | bound,.optional inner,content => ∀ held : inner.Content,content = some held → Shape.Fits bound inner held
  | bound,.list inner,content => List.Forall (Shape.Fits (bound - 1) inner) content
  | bound,.metadata,content => (Metadata.toValue content).height ≤ max bound 1
  | bound,.record _ layout,content => Layout.Fits (bound - 1) layout content
  | _,_,_ => True
def Layout.Fits : Nat → (layout : Layout) → layout.Content → Prop
  | _,.nil,_ => True
  | bound,.cons _ _ shape rest,(first,others) => Shape.Fits bound shape first ∧ Layout.Fits bound rest others
end

theorem countsValue_height (counts : Keyed Int64) : (countsValue counts).height = 1 := by
  have flat : Value.rowsHeight (counts.rows.map fun row => (row.1,signedValue row.2)) ≤ 0 := by
    refine (Value.rowsHeight_exact _ _).mpr fun row member => ?_
    obtain ⟨entry,-,rfl⟩ := List.mem_map.mp member
    simp only [signedValue,Value.integer,Value.height,Nat.le_refl]
  simp only [countsValue,Value.height]
  omega

theorem itemsHeight_bounded {written : α → Value → Prop} {fits : α → Prop} {contents : List α}
    (all : List.Forall₂ written contents trees) (within : List.Forall fits contents)
    (each : ∀ {content tree},written content tree → fits content → tree.height ≤ bound) :
    Value.itemsHeight trees ≤ bound := by
  induction all with
  | nil => simp only [Value.itemsHeight,Nat.zero_le]
  | cons first _ ih =>
    obtain ⟨here,others⟩ := List.forall_cons .. |>.mp within
    simp only [Value.itemsHeight,Nat.max_le]
    exact ⟨each first here,ih others⟩

mutual
theorem Shape.written_height : (shape : Shape) → ∀ {bound : Nat} {content : shape.Content} {tree : Value},
    shape.Written content tree → shape.Fits bound content → tree.height ≤ max bound shape.depth
  | .optional inner,bound,_,_,written,fits => by
    simp only [Shape.Written] at written
    obtain ⟨held,rfl,written⟩ := written
    simp only [Shape.Fits] at fits
    simp only [Shape.depth]
    exact inner.written_height written (fits held rfl)
  | .list inner,bound,content,_,written,fits => by
    simp only [Shape.Written] at written
    obtain ⟨trees,rfl,all⟩ := written
    simp only [Shape.Fits] at fits
    have within := itemsHeight_bounded all fits fun written fits => inner.written_height written fits
    simp only [Value.height,Shape.depth]
    omega
  | .counts,_,content,_,written,_ => by
    simp only [Shape.Written] at written
    have flat := countsValue_height content
    simp only [written,Shape.depth]
    omega
  | .metadata,_,_,_,written,fits => by
    simp only [Shape.Written] at written
    simp only [Shape.Fits] at fits
    simpa only [written,Shape.depth] using fits
  | .record _ layout,_,_,_,written,fits => by
    simp only [Shape.Written] at written
    obtain ⟨pairs,rfl,written⟩ := written
    simp only [Shape.Fits] at fits
    have within := layout.written_height written fits
    simp only [Value.height,Shape.depth]
    omega
  | .integer _,_,_,_,written,_ | .flag,_,_,_,written,_ | .text,_,_,_,written,_ | .path,_,_,_,written,_ => by
    simp only [Shape.Written] at written
    simp only [written,Value.integer,Value.flag,Value.text,Value.height,Nat.zero_le]
  | .real,_,_,_,written,_ => by
    simp only [Shape.Written] at written
    simp only [written.2,Value.real,Value.height,Nat.zero_le]
theorem Layout.written_height : (layout : Layout) → ∀ {bound : Nat} {content : layout.Content}
    {pairs : List (String × Value)},layout.Written content pairs → layout.Fits bound content →
    Value.rowsHeight pairs ≤ max bound layout.depth
  | .nil,_,_,_,written,_ => by
    simp only [Layout.Written] at written
    simp only [written,Value.rowsHeight,Nat.zero_le]
  | .cons name required shape rest,_,(first,others),_,written,fits => by
    simp only [Layout.Written] at written
    simp only [Layout.Fits] at fits
    rcases written with ⟨tree,more,rfl,here,written⟩ | ⟨-,-,written⟩
    · have first := shape.written_height here fits.1
      have behind := rest.written_height written fits.2
      simp only [Value.rowsHeight,Layout.depth]
      omega
    · have behind := rest.written_height written fits.2
      simp only [Layout.depth]
      omega
end

mutual
theorem Shape.blank_fits (bound : Nat) : (shape : Shape) → shape.Fits bound shape.blank
  | .optional inner => by
    simp only [Shape.Fits]
    rintro held ⟨⟩
  | .list inner => by
    simp only [Shape.Fits]
    exact trivial
  | .metadata => by
    simp only [Shape.Fits]
    have flat : Value.height (Metadata.toValue Shape.metadata.blank) = 1 := rfl
    omega
  | .record _ layout => by
    simp only [Shape.Fits]
    exact layout.blank_fits (bound - 1)
  | .integer _ | .real | .flag | .text | .path | .counts => by simp only [Shape.Fits]
theorem Layout.blank_fits (bound : Nat) : (layout : Layout) → layout.Fits bound layout.blank
  | .nil => by simp only [Layout.Fits]
  | .cons _ _ shape rest => ⟨shape.blank_fits bound,rest.blank_fits bound⟩
end

def Layout.SlotsFit : Nat → (layout : Layout) → layout.Slots → Prop
  | _,.nil,_ => True
  | bound,.cons _ _ shape rest,(slot,slots) =>
    (∀ held : shape.Content,slot = some held → shape.Fits bound held) ∧ Layout.SlotsFit bound rest slots

theorem Layout.unfilled_fits (bound : Nat) : (layout : Layout) → layout.SlotsFit bound layout.unfilled
  | .nil => trivial
  | .cons _ _ shape rest => by
    refine ⟨?_,rest.unfilled_fits bound⟩
    rintro held ⟨⟩

theorem Layout.complete_fits (bound : Nat) : (layout : Layout) → ∀ {slots : layout.Slots} {content : layout.Content},
    layout.SlotsFit bound slots → layout.complete slots = .ok content → layout.Fits bound content
  | .nil,_,_,_,_ => trivial
  | .cons name required shape rest,(slot,slots),content,fits,complete => by
    obtain ⟨here,behind⟩ := fits
    obtain ⟨first,others,held,completed,rfl⟩ := complete_ok.mp complete
    refine ⟨?_,rest.complete_fits bound behind completed⟩
    rcases held with rfl | ⟨-,-,rfl⟩
    · exact here first rfl
    · exact shape.blank_fits bound

theorem surplus_whole {items : List Node} (passed : surplus .json items broken = .ok ()) :
    items = [] ∧ broken = none := by
  unfold surplus at passed
  cases items with
  | cons item items => cases passed
  | nil =>
    cases broken with
    | none => exact ⟨rfl,rfl⟩
    | some cause =>
      simp only at passed
      split at passed <;> cases passed

theorem Layout.items_whole : (layout : Layout) → ∀ {index : Nat} {items : List Node} {content : layout.Content},
    layout.decodeItems .json short broken index items = .ok content → broken = none
  | .nil,_,_,_,read => (surplus_whole read).2
  | .cons name required shape rest,index,items,content,read => by
    cases items with
    | nil => exact (items_left_out.mp read).1
    | cons item items =>
      obtain ⟨first,others,-,behind,-⟩ := items_ok.mp read
      exact rest.items_whole behind

theorem Metadata.ofRows_height (rows : List (String × Value)) :
    (Metadata.ofRows rows).toValue.height ≤ Value.rowsHeight rows + 1 := by
  have settled := Value.settle_height (.table rows)
  simpa only [Value.settle,Value.height,toValue,ofRows] using settled

theorem Node.asMetadata_height {node : Node} (read : node.asMetadata = .ok metadata) :
    metadata.toValue.height ≤ node.height := by
  obtain ⟨pairs,found,rfl⟩ := asMetadata_ok.mp read
  have within := Metadata.ofRows_height pairs
  rw [← node.value_height found]
  simpa only [Value.height] using within

theorem Shape.decode_optional (inner : Shape) (format : DocumentFormat) {node : Node}
    {content : (Shape.optional inner).Content} (read : Shape.decode format (.optional inner) node = .ok content) :
    content = none ∨ ∃ held : inner.Content,content = some held ∧ inner.decode format node = .ok held := by
  have given : (inner.decode format node).map some = .ok content →
      content = none ∨ ∃ held : inner.Content,content = some held ∧ inner.decode format node = .ok held := by
    intro mapped
    obtain ⟨held,found,same⟩ := map_ok.mp mapped
    exact .inr ⟨held,same.symm,found⟩
  cases node with
  | scalar span written =>
    cases written with
    | null =>
      cases read
      exact .inl rfl
    | _ => exact given read
  | _ => exact given read

theorem Shape.decode_list (inner : Shape) (format : DocumentFormat) {node : Node} {content : List inner.Content}
    (read : Shape.decode format (.list inner) node = .ok content) :
    ∃ span items,node = .list span items none ∧ items.mapM (inner.decode format) = .ok content := by
  cases node with
  | list span items broken =>
    obtain ⟨contents,found,left⟩ := bind_ok.mp read
    obtain ⟨⟨⟩,whole,same⟩ := bind_ok.mp left
    cases same
    exact ⟨span,items,by rw [whole_ok whole],found⟩
  | _ => cases read

theorem Layout.decode_record (layout : Layout) (name : String) {node : Node} {content : layout.Content}
    (read : Shape.decode .json (.record name layout) node = .ok content) :
    (∃ span items short,node = .list span items none ∧
      layout.decodeItems .json short none 0 items = .ok content) ∨
    ∃ span rows unknown slots,node = .table span rows none ∧
      rows.foldlM (layout.fill .json unknown) layout.unfilled = .ok slots ∧ layout.complete slots = .ok content := by
  cases node with
  | list span items broken =>
    have whole := layout.items_whole read
    subst whole
    exact .inl ⟨span,items,_,rfl,read⟩
  | table span rows broken =>
    obtain ⟨slots,filled,left⟩ := bind_ok.mp read
    obtain ⟨⟨⟩,whole,complete⟩ := bind_ok.mp left
    exact .inr ⟨span,rows,fun key offset => .mismatch (.unknownField key layout.names) offset,slots,
      by rw [whole_ok whole],filled,mapError_ok.mp complete⟩
  | scalar span written => cases read
  | torn offset cause => cases read

theorem Layout.fold_fits (layout : Layout) {unknown : String → Nat → Refusal}
    (step : ∀ {node : Node} {slots filled : layout.Slots} {unknown : Refusal} {key : String} {offset : Nat},
      layout.decodeField .json unknown key offset node slots = .ok filled → node.height ≤ bound →
      layout.SlotsFit bound slots → layout.SlotsFit bound filled)
    (rows : List (String × Nat × Node)) {slots filled : layout.Slots}
    (folded : rows.foldlM (layout.fill .json unknown) slots = .ok filled)
    (within : ∀ row ∈ rows,row.2.2.height ≤ bound) (fits : layout.SlotsFit bound slots) :
    layout.SlotsFit bound filled := by
  induction rows generalizing slots with
  | nil =>
    cases folded
    exact fits
  | cons row rows ih =>
    obtain ⟨here,others⟩ := List.forall_mem_cons.mp within
    rw [List.foldlM_cons] at folded
    obtain ⟨next,first,left⟩ := bind_ok.mp folded
    exact ih left others (step first here fits)

theorem forall₂_right {relation : α → β → Prop} (all : List.Forall₂ relation left right) :
    ∀ second ∈ right,∃ first ∈ left,relation first second := by
  induction all with
  | nil => simp
  | cons holds _ ih =>
    intro second member
    rcases List.mem_cons.mp member with rfl | later
    · exact ⟨_,List.mem_cons_self,holds⟩
    · obtain ⟨first,present,holds⟩ := ih second later
      exact ⟨first,List.mem_cons_of_mem _ present,holds⟩

mutual
theorem Shape.decode_fits : (shape : Shape) → ∀ {bound : Nat} {node : Node} {content : shape.Content},
    shape.decode .json node = .ok content → node.height ≤ bound → shape.Fits bound content
  | .optional inner,bound,node,content,read,within => by
    simp only [Shape.Fits]
    rintro held rfl
    rcases inner.decode_optional .json read with ⟨⟨⟩⟩ | ⟨_,same,read⟩
    cases same
    exact inner.decode_fits read within
  | .list inner,bound,node,content,read,within => by
    simp only [Shape.Fits]
    obtain ⟨span,items,rfl,inside⟩ := inner.decode_list .json read
    simp only [Node.height] at within
    refine List.forall_iff_forall_mem.mpr fun held member => ?_
    obtain ⟨item,present,found⟩ := forall₂_right (mapM_ok.mp inside) held member
    have within' := (Node.itemsHeight_exact items _).mp (Nat.le_sub_one_of_lt within) item present
    exact inner.decode_fits found within'
  | .metadata,bound,node,content,read,within => by
    simp only [Shape.Fits]
    have within' := Node.asMetadata_height read
    omega
  | .record name layout,bound,node,content,read,within => by
    simp only [Shape.Fits]
    rcases layout.decode_record name read with
      ⟨span,items,short,rfl,inside⟩ | ⟨span,rows,unknown,slots,rfl,filled,complete⟩
    · simp only [Node.height] at within
      exact layout.decodeItems_fits inside (Nat.le_sub_one_of_lt within)
    · simp only [Node.height] at within
      have rowsWithin := (Node.rowsHeight_exact rows _).mp (Nat.le_sub_one_of_lt within)
      refine layout.complete_fits (bound - 1) ?_ complete
      refine layout.fold_fits (fun read within fits => layout.decodeField_fits read within fits) rows filled rowsWithin
        (layout.unfilled_fits (bound - 1))
  | .integer _,_,_,_,_,_ | .real,_,_,_,_,_ | .flag,_,_,_,_,_ | .text,_,_,_,_,_ | .path,_,_,_,_,_
  | .counts,_,_,_,_,_ => by simp only [Shape.Fits]
theorem Layout.decodeField_fits : (layout : Layout) → ∀ {bound : Nat} {node : Node} {slots filled : layout.Slots}
    {unknown : Refusal} {key : String} {offset : Nat},
    layout.decodeField .json unknown key offset node slots = .ok filled → node.height ≤ bound →
    layout.SlotsFit bound slots → layout.SlotsFit bound filled
  | .nil,_,_,_,_,_,_,_,_,_,_ => trivial
  | .cons _ _ shape rest,_,_,(_,_),_,_,_,_,read,within,fits => by
    obtain ⟨here,behind⟩ := fits
    rcases Layout.decodeField_ok.mp read with ⟨-,rfl,content,found,rfl⟩ | ⟨-,after,found,rfl⟩
    · refine ⟨?_,behind⟩
      rintro held ⟨⟩
      exact shape.decode_fits found within
    · exact ⟨here,rest.decodeField_fits found within behind⟩
theorem Layout.decodeItems_fits : (layout : Layout) → ∀ {bound index : Nat} {items : List Node}
    {content : layout.Content} {short : Nat → Refusal} {broken : Option Json.Break},
    layout.decodeItems .json short broken index items = .ok content → Node.itemsHeight items ≤ bound →
    layout.Fits bound content
  | .nil,_,_,_,_,_,_,_,_ => trivial
  | .cons name required shape rest,bound,index,items,content,short,broken,read,within => by
    cases items with
    | nil =>
      obtain ⟨-,-,others,behind,rfl⟩ := Layout.items_left_out.mp read
      exact ⟨shape.blank_fits bound,rest.decodeItems_fits behind within⟩
    | cons item items =>
      obtain ⟨first,others,found,behind,rfl⟩ := Layout.items_ok.mp read
      simp only [Node.itemsHeight,Nat.max_le] at within
      exact ⟨shape.decode_fits found within.1,rest.decodeItems_fits behind within.2⟩
end

theorem items_fit {written : α → Value → Prop} {fits : α → Prop} {contents : List α}
    (all : List.Forall₂ written contents trees) (within : Value.itemsHeight trees ≤ bound)
    (each : ∀ {content tree},written content tree → tree.height ≤ bound → fits content) :
    List.Forall fits contents := by
  induction all with
  | nil => exact trivial
  | cons first _ ih =>
    simp only [Value.itemsHeight,Nat.max_le] at within
    exact List.forall_cons .. |>.mpr ⟨each first within.1,ih within.2⟩

mutual
theorem Shape.written_fits : (shape : Shape) → ∀ {bound : Nat} {content : shape.Content} {tree : Value},
    shape.Written content tree → tree.height ≤ bound → shape.Fits bound content
  | .optional inner,_,_,_,written,within => by
    simp only [Shape.Written] at written
    simp only [Shape.Fits]
    obtain ⟨held,rfl,written⟩ := written
    rintro _ ⟨⟩
    exact inner.written_fits written within
  | .list inner,_,_,_,written,within => by
    simp only [Shape.Written] at written
    obtain ⟨trees,rfl,all⟩ := written
    simp only [Value.height] at within
    simp only [Shape.Fits]
    exact items_fit all (Nat.le_sub_one_of_lt within) fun written within => inner.written_fits written within
  | .metadata,_,_,_,written,within => by
    simp only [Shape.Written] at written
    subst written
    simp only [Shape.Fits]
    omega
  | .record _ layout,_,_,_,written,within => by
    simp only [Shape.Written] at written
    obtain ⟨pairs,rfl,written⟩ := written
    simp only [Value.height] at within
    simp only [Shape.Fits]
    exact layout.written_fits written (Nat.le_sub_one_of_lt within)
  | .integer _,_,_,_,_,_ | .real,_,_,_,_,_ | .flag,_,_,_,_,_ | .text,_,_,_,_,_ | .path,_,_,_,_,_
  | .counts,_,_,_,_,_ => by simp only [Shape.Fits]
theorem Layout.written_fits : (layout : Layout) → ∀ {bound : Nat} {content : layout.Content}
    {pairs : List (String × Value)},layout.Written content pairs → Value.rowsHeight pairs ≤ bound →
    layout.Fits bound content
  | .nil,_,_,_,_,_ => trivial
  | .cons name required shape rest,bound,(first,others),_,written,within => by
    simp only [Layout.Written] at written
    rcases written with ⟨tree,more,rfl,here,written⟩ | ⟨-,rfl,written⟩
    · simp only [Value.rowsHeight,Nat.max_le] at within
      exact ⟨shape.written_fits here within.1,rest.written_fits written within.2⟩
    · exact ⟨shape.blank_fits bound,rest.written_fits written within⟩
end

mutual
def Shape.flat : Shape → Bool
  | .optional inner | .list inner => inner.flat
  | .metadata => false
  | .record _ layout => layout.flat
  | _ => true
def Layout.flat : Layout → Bool
  | .nil => true
  | .cons _ _ shape rest => shape.flat && rest.flat
end

mutual
theorem Shape.flat_fits : (shape : Shape) → shape.flat = true → ∀ (bound : Nat) (content : shape.Content),
    shape.Fits bound content
  | .optional inner,flat,bound,_ => by
    simp only [Shape.flat] at flat
    simp only [Shape.Fits]
    exact fun held _ => inner.flat_fits flat bound held
  | .list inner,flat,bound,content => by
    simp only [Shape.flat] at flat
    simp only [Shape.Fits]
    exact List.forall_iff_forall_mem.mpr fun held _ => inner.flat_fits flat (bound - 1) held
  | .record _ layout,flat,bound,content => by
    simp only [Shape.flat] at flat
    simp only [Shape.Fits]
    exact layout.flat_fits flat (bound - 1) content
  | .integer _,_,_,_ | .real,_,_,_ | .flag,_,_,_ | .text,_,_,_ | .path,_,_,_ | .counts,_,_,_ => by
    simp only [Shape.Fits]
theorem Layout.flat_fits : (layout : Layout) → layout.flat = true → ∀ (bound : Nat) (content : layout.Content),
    layout.Fits bound content
  | .nil,_,_,_ => trivial
  | .cons _ _ shape rest,flat,bound,(first,others) => by
    simp only [Layout.flat,Bool.and_eq_true] at flat
    exact ⟨shape.flat_fits flat.1 bound first,rest.flat_fits flat.2 bound others⟩
end

end LedgerSettings
