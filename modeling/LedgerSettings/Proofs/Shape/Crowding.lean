import LedgerSettings.Proofs.Shape.Reading

namespace LedgerSettings

-- Whether a decoder comes upon a record that is written as a list with more items than
-- the record has fields.
mutual
def Shape.crowded : Shape → Value → Bool
  | .optional inner,tree => inner.crowded tree
  | .list inner,.list items => items.any inner.crowded
  | .record _ layout,.list items => decide (layout.size < items.length) || layout.crowdedItems items
  | .record _ layout,.table rows => rows.any fun row => layout.crowdedField row.1 row.2
  | _,_ => false
def Layout.crowdedField : Layout → String → Value → Bool
  | .nil,_,_ => false
  | .cons name _ shape rest,key,tree => if key = name then shape.crowded tree else rest.crowdedField key tree
def Layout.crowdedItems : Layout → List Value → Bool
  | .cons _ _ shape rest,item :: items => shape.crowded item || rest.crowdedItems items
  | _,_ => false
end

theorem Shape.scalar_uncrowded : (shape : Shape) → (content : Scalar) → shape.crowded (.scalar content) = false
  | .optional inner,content => by
    rw [crowded]
    exact inner.scalar_uncrowded content
  | .integer _,_ | .real,_ | .flag,_ | .text,_ | .path,_ | .list _,_ | .counts,_ | .metadata,_ | .record _ _,_ => by
    simp only [crowded]

theorem forall₂_unmarked {strict mild : α → β → Prop} {mark : α → Bool} {items : List α} {results : List β}
    (each : ∀ item result,strict item result ↔ mild item result ∧ mark item = false) :
    List.Forall₂ strict items results ↔ List.Forall₂ mild items results ∧ items.any mark = false := by
  induction items generalizing results with
  | nil => simp
  | cons item items ih =>
    simp only [List.forall₂_cons_left_iff,List.any_cons,Bool.or_eq_false_iff,each,ih]
    constructor
    · rintro ⟨result,rest,⟨here,plain⟩,⟨behind,others⟩,rfl⟩
      exact ⟨⟨result,rest,here,behind,rfl⟩,plain,others⟩
    · rintro ⟨⟨result,rest,here,behind,rfl⟩,plain,others⟩
      exact ⟨result,rest,⟨here,plain⟩,⟨behind,others⟩,rfl⟩

theorem foldlM_unmarked {strict mild : σ → α → Except ε σ} {mark : α → Bool} {items : List α} {state reached : σ}
    (each : ∀ state item next,strict state item = .ok next ↔ mild state item = .ok next ∧ mark item = false) :
    items.foldlM strict state = .ok reached ↔ items.foldlM mild state = .ok reached ∧ items.any mark = false := by
  induction items generalizing state with
  | nil => simp
  | cons item items ih =>
    simp only [List.foldlM_cons,bind_ok,List.any_cons,Bool.or_eq_false_iff,each,ih]
    constructor
    · rintro ⟨next,⟨here,plain⟩,behind,others⟩
      exact ⟨⟨next,here,behind⟩,plain,others⟩
    · rintro ⟨⟨next,here,behind⟩,plain,others⟩
      exact ⟨next,⟨here,plain⟩,behind,others⟩

theorem Shape.optional_uncrowded {inner : Shape} {tree : Value} {content : Option inner.Content}
    (each : ∀ {held : inner.Content},inner.decode .json (Node.ofValue tree) = .ok held ↔
      inner.decode .toml (Node.ofValue tree) = .ok held ∧ inner.crowded tree = false) :
    Shape.decode .json (.optional inner) (Node.ofValue tree) = .ok content ↔
      Shape.decode .toml (.optional inner) (Node.ofValue tree) = .ok content ∧
        (Shape.optional inner).crowded tree = false := by
  by_cases present : tree = .null
  · subst present
    have plain : (Shape.optional inner).crowded .null = false := Shape.scalar_uncrowded _ _
    rw [plain]
    exact (and_iff_left rfl).symm
  · rw [inner.decode_present .json (Node.value_ofValue tree) present,
      inner.decode_present .toml (Node.value_ofValue tree) present,Shape.crowded]
    constructor
    · intro mapped
      obtain ⟨held,read,same⟩ := map_ok.mp mapped
      obtain ⟨read,plain⟩ := each.mp read
      exact ⟨map_ok.mpr ⟨held,read,same⟩,plain⟩
    · rintro ⟨mapped,plain⟩
      obtain ⟨held,read,same⟩ := map_ok.mp mapped
      exact map_ok.mpr ⟨held,each.mpr ⟨read,plain⟩,same⟩

theorem Shape.list_uncrowded {inner : Shape} {items : List Value} {contents : List inner.Content}
    (each : ∀ {tree : Value} {held : inner.Content},inner.decode .json (Node.ofValue tree) = .ok held ↔
      inner.decode .toml (Node.ofValue tree) = .ok held ∧ inner.crowded tree = false) :
    Shape.decode .json (.list inner) (Node.ofValue (.list items)) = .ok contents ↔
      Shape.decode .toml (.list inner) (Node.ofValue (.list items)) = .ok contents ∧
        (Shape.list inner).crowded (.list items) = false := by
  rw [Node.ofValue,list_ok,list_ok,mapM_ok,mapM_ok,Node.ofItems_map,List.forall₂_map_left_iff,
    List.forall₂_map_left_iff,crowded]
  exact forall₂_unmarked fun _ _ => each

theorem Layout.table_uncrowded {layout : Layout} {name : String} {rows : List (String × Value)}
    {content : layout.Content}
    (each : ∀ {unknown : Refusal} {key : String} {offset : Nat} {tree : Value} {slots filled : layout.Slots},
      layout.decodeField .json unknown key offset (Node.ofValue tree) slots = .ok filled ↔
        layout.decodeField .toml unknown key offset (Node.ofValue tree) slots = .ok filled ∧
          layout.crowdedField key tree = false) :
    Shape.decode .json (.record name layout) (Node.ofValue (.table rows)) = .ok content ↔
      Shape.decode .toml (.record name layout) (Node.ofValue (.table rows)) = .ok content ∧
        (Shape.record name layout).crowded (.table rows) = false := by
  have fills : ∀ {slots},
      (Node.ofRows rows).foldlM (layout.fill .json fun key offset =>
        .mismatch (.unknownField key layout.names) offset) layout.unfilled = .ok slots ↔
      (Node.ofRows rows).foldlM (layout.fill .toml fun key offset =>
        .mismatch (.unknownField key layout.names) offset) layout.unfilled = .ok slots ∧
      (rows.any fun row => layout.crowdedField row.1 row.2) = false := by
    intro slots
    rw [Node.ofRows_map,List.foldlM_map,List.foldlM_map]
    exact foldlM_unmarked fun _ _ _ => each
  rw [Node.ofValue,table_ok,table_ok,Shape.crowded]
  constructor
  · rintro ⟨slots,filled,complete⟩
    obtain ⟨filled,plain⟩ := fills.mp filled
    exact ⟨⟨slots,filled,complete⟩,plain⟩
  · rintro ⟨⟨slots,filled,complete⟩,plain⟩
    exact ⟨slots,fills.mpr ⟨filled,plain⟩,complete⟩

mutual
theorem Shape.decode_uncrowded : (shape : Shape) → ∀ {tree : Value} {content : shape.Content},
    shape.decode .json (Node.ofValue tree) = .ok content ↔
      shape.decode .toml (Node.ofValue tree) = .ok content ∧ shape.crowded tree = false
  | .integer _,_,_ | .real,_,_ | .flag,_,_ | .text,_,_ | .path,_,_ | .counts,_,_ | .metadata,_,_
  | .list _,.scalar _,_ | .list _,.table _,_ | .record _ _,.scalar _,_ => (and_iff_left rfl).symm
  | .optional inner,_,_ => Shape.optional_uncrowded inner.decode_uncrowded
  | .list inner,.list _,_ => Shape.list_uncrowded inner.decode_uncrowded
  | .record name layout,.list items,content => by
    rw [Node.ofValue,Shape.crowded,Bool.or_eq_false_iff,decide_eq_false_iff_not,Nat.not_lt]
    exact layout.decodeItems_uncrowded items
  | .record _ layout,.table _,_ => Layout.table_uncrowded layout.decodeField_uncrowded
theorem Layout.decodeField_uncrowded : (layout : Layout) → ∀ {unknown : Refusal} {key : String} {offset : Nat}
    {tree : Value} {slots filled : layout.Slots},
    layout.decodeField .json unknown key offset (Node.ofValue tree) slots = .ok filled ↔
      layout.decodeField .toml unknown key offset (Node.ofValue tree) slots = .ok filled ∧
        layout.crowdedField key tree = false
  | .nil,_,_,_,_,_,_ => (and_iff_left rfl).symm
  | .cons name required shape rest,_,key,_,_,(slot,slots),filled => by
    rw [Layout.decodeField_ok,Layout.decodeField_ok,Layout.crowdedField]
    by_cases named : key = name
    · rw [if_pos named]
      constructor
      · rintro (⟨-,free,content,read,same⟩ | ⟨passed,-⟩)
        · obtain ⟨read,plain⟩ := shape.decode_uncrowded.mp read
          exact ⟨.inl ⟨named,free,content,read,same⟩,plain⟩
        · exact absurd named passed
      · rintro ⟨⟨-,free,content,read,same⟩ | ⟨passed,-⟩,plain⟩
        · exact .inl ⟨named,free,content,shape.decode_uncrowded.mpr ⟨read,plain⟩,same⟩
        · exact absurd named passed
    · rw [if_neg named]
      constructor
      · rintro (⟨here,-⟩ | ⟨passed,after,read,same⟩)
        · exact absurd here named
        · obtain ⟨read,plain⟩ := rest.decodeField_uncrowded.mp read
          exact ⟨.inr ⟨passed,after,read,same⟩,plain⟩
      · rintro ⟨⟨here,-⟩ | ⟨passed,after,read,same⟩,plain⟩
        · exact absurd here named
        · exact .inr ⟨passed,after,rest.decodeField_uncrowded.mpr ⟨read,plain⟩,same⟩
theorem Layout.decodeItems_uncrowded : (layout : Layout) → ∀ {short : Nat → Refusal} {index : Nat}
    (items : List Value) {content : layout.Content},
    layout.decodeItems .json short none index (Node.ofItems items) = .ok content ↔
      layout.decodeItems .toml short none index (Node.ofItems items) = .ok content ∧
        items.length ≤ layout.size ∧ layout.crowdedItems items = false
  | .nil,_,_,[],_ => (and_iff_left ⟨Nat.le_refl 0,rfl⟩).symm
  | .nil,_,_,_ :: _,_ => by
    constructor
    · rintro ⟨⟩
    · rintro ⟨-,long,-⟩
      exact absurd long (Nat.not_succ_le_zero _)
  | .cons _ _ _ rest,_,_,[],_ => by
    have empty : rest.crowdedItems [] = false := by cases rest <;> rfl
    rw [Node.ofItems,Layout.items_left_out,Layout.items_left_out]
    constructor
    · rintro ⟨whole,free,others,left,same⟩
      exact ⟨⟨whole,free,others,((rest.decodeItems_uncrowded []).mp left).1,same⟩,Nat.zero_le _,rfl⟩
    · rintro ⟨⟨whole,free,others,left,same⟩,-⟩
      exact ⟨whole,free,others,(rest.decodeItems_uncrowded []).mpr ⟨left,Nat.zero_le _,empty⟩,same⟩
  | .cons _ _ shape rest,_,_,item :: items,_ => by
    rw [Node.ofItems,Layout.items_ok,Layout.items_ok,Layout.crowdedItems,Bool.or_eq_false_iff]
    constructor
    · rintro ⟨first,others,here,behind,same⟩
      obtain ⟨here,plain⟩ := shape.decode_uncrowded.mp here
      obtain ⟨behind,short,others⟩ := (rest.decodeItems_uncrowded items).mp behind
      exact ⟨⟨first,_,here,behind,same⟩,Nat.succ_le_succ short,plain,others⟩
    · rintro ⟨⟨first,others,here,behind,same⟩,short,plain,unmarked⟩
      exact ⟨first,others,shape.decode_uncrowded.mpr ⟨here,plain⟩,
        (rest.decodeItems_uncrowded items).mpr ⟨behind,Nat.le_of_succ_le_succ short,unmarked⟩,same⟩
end

end LedgerSettings
