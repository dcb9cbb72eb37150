import LedgerSettings.Proofs.Outcome
import LedgerSettings.Proofs.Shape.Written

namespace LedgerSettings

theorem whole_ok {broken : Option Json.Break} (whole : Node.whole broken = .ok ()) : broken = none := by
  cases broken with
  | none => rfl
  | some cause => cases whole

namespace Node

theorem asInteger_ok {kind : IntegerKind} {content : kind.Content} {node : Node} : node.asInteger kind = .ok content ↔
    ∃ span value,node = .scalar span (.integer value) ∧ kind.store value = some content := by
  constructor
  · intro read
    unfold asInteger at read
    split at read
    · split at read
      · cases read
        exact ⟨_,_,rfl,‹_›⟩
      · cases read
    · cases read
  · rintro ⟨span,value,rfl,stored⟩
    rw [asInteger,stored]

theorem asReal_ok {node : Node} : node.asReal = .ok content ↔
    ∃ span,node = .scalar span (.real content) ∨
      ∃ value,node = .scalar span (.integer value) ∧ Float.ofInt value = content := by
  constructor
  · intro read
    unfold asReal at read
    split at read
    · cases read
      exact ⟨_,.inl rfl⟩
    · exact ⟨_,.inr ⟨_,rfl,Except.ok.inj read⟩⟩
    · cases read
  · rintro ⟨span,rfl | ⟨value,rfl,rfl⟩⟩ <;> rfl

theorem asFlag_ok {node : Node} : node.asFlag = .ok content ↔ ∃ span,node = .scalar span (.flag content) := by
  constructor
  · intro read
    unfold asFlag at read
    split at read
    · cases read
      exact ⟨_,rfl⟩
    · cases read
  · rintro ⟨span,rfl⟩
    rfl

theorem asText_ok {wanted : String} {node : Node} : node.asText wanted = .ok content ↔
    ∃ span,node = .scalar span (.text content) := by
  constructor
  · intro read
    unfold asText at read
    split at read
    · cases read
      exact ⟨_,rfl⟩
    · cases read
  · rintro ⟨span,rfl⟩
    rfl

theorem asMetadata_ok {node : Node} : node.asMetadata = .ok metadata ↔
    ∃ pairs,node.value = .ok (.table pairs) ∧ Metadata.ofRows pairs = metadata := by
  constructor
  · intro read
    unfold asMetadata at read
    split at read
    case h_2 => cases read
    case h_1 span rows broken =>
      obtain ⟨pairs,found,read⟩ := bind_ok.mp read
      obtain ⟨⟨⟩,whole,same⟩ := bind_ok.mp read
      exact ⟨pairs,value_table.mpr ⟨pairs,mapError_ok.mp found,whole_ok whole,rfl⟩,Except.ok.inj same⟩
  · rintro ⟨pairs,read,rfl⟩
    obtain ⟨span,rows,rfl,found⟩ := of_table read
    rw [asMetadata,found]
    rfl

theorem asCounts_ok {node : Node} : node.asCounts = .ok counts ↔
    ∃ span rows entries,node = .table span rows none ∧ rows.mapM count = .ok entries ∧
      Keyed.ofRows entries = counts := by
  constructor
  · intro read
    unfold asCounts at read
    split at read
    case h_2 => cases read
    case h_1 span rows broken =>
      obtain ⟨entries,found,read⟩ := bind_ok.mp read
      obtain ⟨⟨⟩,whole,same⟩ := bind_ok.mp read
      exact ⟨span,rows,entries,by rw [whole_ok whole],found,Except.ok.inj same⟩
  · rintro ⟨span,rows,entries,rfl,counted,rfl⟩
    show (rows.mapM count >>= fun rows => whole none >>= fun _ => pure (Keyed.ofRows rows)) = _
    rw [counted]
    rfl

theorem count_ok {row : String × Nat × Node} {entry : String × Int64} : count row = .ok entry ↔
    row.1 = entry.1 ∧ row.2.2.asInteger .signed64 = .ok entry.2 := by
  obtain ⟨key,offset,node⟩ := row
  obtain ⟨name,number⟩ := entry
  rw [count,bind_ok]
  constructor
  · rintro ⟨_,stored,⟨⟩⟩
    exact ⟨rfl,stored⟩
  · rintro ⟨rfl,stored⟩
    exact ⟨_,stored,rfl⟩

theorem asInteger_value {kind : IntegerKind} {content : kind.Content} (read : (ofValue tree).asInteger kind = .ok content) :
    tree = .integer (kind.toInt content) := by
  obtain ⟨span,value,same,stored⟩ := asInteger_ok.mp read
  rw [IntegerKind.store_ok.mp stored]
  cases tree with
  | scalar written =>
    cases same
    rfl
  | list | table => cases same

theorem asCounts_value {counts : Keyed Int64} (read : (ofValue tree).asCounts = .ok counts) :
    ∃ entries,tree = .table (entries.map fun entry => (entry.1,signedValue entry.2)) ∧
      Keyed.ofRows entries = counts := by
  obtain ⟨span,rows,entries,same,counted,kept⟩ := asCounts_ok.mp read
  refine ⟨entries,?_,kept⟩
  cases tree with
  | scalar | list => cases same
  | table pairs =>
    cases same
    rw [ofRows_map] at counted
    have all := List.forall₂_map_left_iff.mp (mapM_ok.mp counted)
    have same : pairs = entries.map fun entry => (entry.1,signedValue entry.2) := by
      clear read counted kept
      induction all with
      | nil => rfl
      | @cons pair entry _ _ here _ ih =>
        obtain ⟨named,stored⟩ := count_ok.mp here
        rw [List.map_cons,← ih]
        exact congrArg (· :: _) (Prod.ext named (asInteger_value stored))
    rw [same]

theorem counts_names {rows : List (String × Nat × Node)} {entries : List (String × Int64)}
    (read : rows.mapM count = .ok entries) : rows.map Prod.fst = entries.map Prod.fst := by
  have all := mapM_ok.mp read
  clear read
  induction all with
  | nil => rfl
  | cons here _ ih => rw [List.map_cons,List.map_cons,(count_ok.mp here).1,ih]

end Node

-- A row fills the first field of its name, and that one only once.
theorem Layout.decodeField_ok {format : DocumentFormat} {unknown : Refusal} {key name : String} {offset : Nat}
    {node : Node} {required : Bool} {shape : Shape} {rest : Layout} {slot : Option shape.Content}
    {slots : rest.Slots} {filled : (Layout.cons name required shape rest).Slots} :
    (Layout.cons name required shape rest).decodeField format unknown key offset node (slot,slots) = .ok filled ↔
      (key = name ∧ slot = none ∧ ∃ content,shape.decode format node = .ok content ∧ (some content,slots) = filled) ∨
      (key ≠ name ∧ ∃ after,rest.decodeField format unknown key offset node slots = .ok after ∧
        (slot,after) = filled) := by
  by_cases named : key = name
  · cases slot with
    | some held => simp [decodeField,named]
    | none =>
      simp only [decodeField,named,if_true,ne_eq,not_true_eq_false,true_and,false_and,or_false]
      exact map_ok
  · simp only [decodeField,named,if_false,ne_eq,not_false_eq_true,true_and,false_and,false_or]
    exact map_ok

theorem Shape.list_ok {inner : Shape} {format : DocumentFormat} {contents : List inner.Content} :
    Shape.decode format (.list inner) (.list span items none) = .ok contents ↔
      items.mapM (inner.decode format) = .ok contents := by
  constructor
  · intro read
    obtain ⟨found,inside,left⟩ := bind_ok.mp read
    obtain ⟨⟨⟩,-,⟨⟩⟩ := bind_ok.mp left
    exact inside
  · exact inner.decode_items format span

theorem Layout.table_ok {layout : Layout} {name : String} {format : DocumentFormat} {content : layout.Content} :
    Shape.decode format (.record name layout) (.table span rows none) = .ok content ↔
      ∃ slots,rows.foldlM (layout.fill format fun key offset =>
        .mismatch (.unknownField key layout.names) offset) layout.unfilled = .ok slots ∧
        layout.complete slots = .ok content := by
  constructor
  · intro read
    obtain ⟨slots,filled,left⟩ := bind_ok.mp read
    obtain ⟨⟨⟩,-,complete⟩ := bind_ok.mp left
    exact ⟨slots,filled,mapError_ok.mp complete⟩
  · rintro ⟨slots,filled,complete⟩
    exact Shape.decode_rows name layout format span filled complete

theorem Layout.complete_ok {name : String} {required : Bool} {shape : Shape} {rest : Layout}
    {slot : Option shape.Content} {slots : rest.Slots} {content : (Layout.cons name required shape rest).Content} :
    (Layout.cons name required shape rest).complete (slot,slots) = .ok content ↔
      ∃ first others,(slot = some first ∨ (slot = none ∧ required = false ∧ first = shape.blank)) ∧
        rest.complete slots = .ok others ∧ (first,others) = content := by
  cases slot with
  | some held =>
    constructor
    · intro read
      obtain ⟨_,⟨⟩,left⟩ := bind_ok.mp read
      obtain ⟨others,behind,same⟩ := bind_ok.mp left
      exact ⟨held,others,.inl rfl,behind,Except.ok.inj same⟩
    · rintro ⟨_,others,⟨⟨⟩⟩ | ⟨⟨⟩,-⟩,behind,same⟩
      exact bind_ok.mpr ⟨held,rfl,bind_ok.mpr ⟨others,behind,congrArg Except.ok same⟩⟩
  | none =>
    cases required with
    | true =>
      constructor
      · rintro ⟨⟩
      · rintro ⟨_,_,⟨⟨⟩⟩ | ⟨-,⟨⟩,-⟩,-⟩
    | false =>
      constructor
      · intro read
        obtain ⟨_,⟨⟩,left⟩ := bind_ok.mp read
        obtain ⟨others,behind,same⟩ := bind_ok.mp left
        exact ⟨shape.blank,others,.inr ⟨rfl,rfl,rfl⟩,behind,Except.ok.inj same⟩
      · rintro ⟨_,others,⟨⟨⟩⟩ | ⟨-,-,rfl⟩,behind,same⟩
        exact bind_ok.mpr ⟨shape.blank,rfl,bind_ok.mpr ⟨others,behind,congrArg Except.ok same⟩⟩

-- A record written as a list: an item a field, and then what may be left out.
theorem Layout.items_ok {format : DocumentFormat} {short : Nat → Refusal} {broken : Option Json.Break} {index : Nat}
    {name : String} {required : Bool} {shape : Shape} {rest : Layout} {item : Node} {items : List Node}
    {content : (Layout.cons name required shape rest).Content} :
    (Layout.cons name required shape rest).decodeItems format short broken index (item :: items) = .ok content ↔
      ∃ first others,shape.decode format item = .ok first ∧
        rest.decodeItems format short broken (index+1) items = .ok others ∧ (first,others) = content := by
  rw [decodeItems]
  constructor
  · intro read
    obtain ⟨first,here,left⟩ := bind_ok.mp read
    obtain ⟨others,behind,same⟩ := bind_ok.mp left
    exact ⟨first,others,here,behind,Except.ok.inj same⟩
  · rintro ⟨first,others,here,behind,same⟩
    exact bind_ok.mpr ⟨first,here,bind_ok.mpr ⟨others,behind,congrArg Except.ok same⟩⟩

theorem Layout.items_left_out {format : DocumentFormat} {short : Nat → Refusal} {broken : Option Json.Break}
    {index : Nat} {name : String} {required : Bool} {shape : Shape} {rest : Layout}
    {content : (Layout.cons name required shape rest).Content} :
    (Layout.cons name required shape rest).decodeItems format short broken index [] = .ok content ↔
      broken = none ∧ required = false ∧ ∃ others,
        rest.decodeItems format short broken (index+1) [] = .ok others ∧ (shape.blank,others) = content := by
  rw [decodeItems]
  constructor
  · intro read
    obtain ⟨⟨⟩,whole,read⟩ := bind_ok.mp read
    cases required with
    | true => cases read
    | false =>
      obtain ⟨others,left,same⟩ := bind_ok.mp read
      exact ⟨whole_ok whole,rfl,others,left,Except.ok.inj same⟩
  · rintro ⟨rfl,rfl,others,left,same⟩
    exact bind_ok.mpr ⟨(),rfl,bind_ok.mpr ⟨others,left,congrArg Except.ok same⟩⟩

end LedgerSettings
