import LedgerSettings.Proofs.Shape.Sites

namespace LedgerSettings

theorem Shape.record_distinct {name : String} {layout : Layout} :
    (Shape.record name layout).distinct = true ↔ layout.names.Nodup ∧ layout.distinct = true := by
  simp only [Shape.distinct,Bool.and_eq_true,decide_eq_true_eq]

namespace Layout.Field

variable {layout : Layout} {name : String} {shape : Shape}

def set : {layout : Layout} → Field layout name shape → shape.Content → layout.Content → layout.Content
  | _,.here,content,(_,others) => (content,others)
  | _,.there entry,content,(first,others) => (first,entry.set content others)

def put : {layout : Layout} → Field layout name shape → Option shape.Content → layout.Slots → layout.Slots
  | _,.here,held,(_,slots) => (held,slots)
  | _,.there entry,held,(slot,slots) => (slot,entry.put held slots)

def required : {layout : Layout} → Field layout name shape → Bool
  | .cons _ required _ _,.here => required
  | _,.there entry => entry.required

theorem set_get (entry : Field layout name shape) (content : layout.Content) : entry.set (entry.get content) content = content := by
  induction entry with
  | here => rfl
  | there entry ih => exact congrArg (Prod.mk content.1) (ih content.2)

theorem set_set (entry : Field layout name shape) (first second : shape.Content) (content : layout.Content) :
    entry.set second (entry.set first content) = entry.set second content := by
  induction entry with
  | here => rfl
  | there entry ih => exact congrArg (Prod.mk content.1) (ih first second content.2)

theorem put_slot (entry : Field layout name shape) (slots : layout.Slots) : entry.put (entry.slot slots) slots = slots := by
  induction entry with
  | here => rfl
  | there entry ih => exact congrArg (Prod.mk slots.1) (ih slots.2)

theorem put_put (entry : Field layout name shape) (first second : Option shape.Content) (slots : layout.Slots) :
    entry.put second (entry.put first slots) = entry.put second slots := by
  induction entry with
  | here => rfl
  | there entry ih => exact congrArg (Prod.mk slots.1) (ih first second slots.2)

theorem slot_put (entry : Field layout name shape) (held : Option shape.Content) (slots : layout.Slots) :
    entry.slot (entry.put held slots) = held := by
  induction entry with
  | here => rfl
  | there entry ih => exact ih held slots.2

theorem unfilled_slot (entry : Field layout name shape) : entry.slot layout.unfilled = none := by
  induction entry with
  | here => rfl
  | there entry ih => exact ih

theorem decodeField_exact (entry : Field layout name shape) (distinct : layout.names.Nodup) {format : DocumentFormat}
    {unknown : Refusal} {offset : Nat} {node : Node} {slots filled : layout.Slots} :
    layout.decodeField format unknown name offset node slots = .ok filled ↔
      entry.slot slots = none ∧ ∃ content,shape.decode format node = .ok content ∧
        entry.put (some content) slots = filled := by
  induction entry with
  | here =>
    obtain ⟨slot,slots⟩ := slots
    rw [decodeField_ok]
    constructor
    · rintro (⟨-,rfl,content,found,rfl⟩ | ⟨passed,-⟩)
      · exact ⟨rfl,content,found,rfl⟩
      · exact absurd rfl passed
    · rintro ⟨rfl,content,found,rfl⟩
      exact .inl ⟨rfl,rfl,content,found,rfl⟩
  | there entry ih =>
    obtain ⟨slot,slots⟩ := slots
    obtain ⟨fresh,distinct⟩ := List.nodup_cons.mp distinct
    rw [decodeField_ok]
    constructor
    · rintro (⟨rfl,-⟩ | ⟨-,after,behind,rfl⟩)
      · exact absurd entry.named fresh
      · obtain ⟨free,content,found,rfl⟩ := (ih distinct).mp behind
        exact ⟨free,content,found,rfl⟩
    · rintro ⟨free,content,found,rfl⟩
      refine .inr ⟨?_,_,(ih distinct).mpr ⟨free,content,found,rfl⟩,rfl⟩
      rintro rfl
      exact fresh entry.named

-- Rows of other names neither see its slot nor change it.
theorem decodeField_put (entry : Field layout name shape) {format : DocumentFormat} {unknown : Refusal} {key : String}
    (other : key ≠ name) {offset : Nat} {node : Node} {slots filled : layout.Slots}
    (read : layout.decodeField format unknown key offset node slots = .ok filled) (held : Option shape.Content) :
    layout.decodeField format unknown key offset node (entry.put held slots) = .ok (entry.put held filled) := by
  induction entry with
  | here =>
    obtain ⟨slot,slots⟩ := slots
    rcases decodeField_ok.mp read with ⟨same,-⟩ | ⟨passed,after,behind,rfl⟩
    · exact absurd same other
    · exact decodeField_ok.mpr (.inr ⟨passed,after,behind,rfl⟩)
  | there entry ih =>
    obtain ⟨slot,slots⟩ := slots
    rcases decodeField_ok.mp read with ⟨rfl,rfl,content,found,rfl⟩ | ⟨passed,after,behind,rfl⟩
    · exact decodeField_ok.mpr (.inl ⟨rfl,rfl,content,found,rfl⟩)
    · exact decodeField_ok.mpr (.inr ⟨passed,_,ih other behind held,rfl⟩)

theorem fill_put (entry : Field layout name shape) {format : DocumentFormat} {unknown : String → Nat → Refusal}
    {rows : List (String × Nat × Node)} (others : name ∉ rows.map Prod.fst) {slots filled : layout.Slots}
    (read : rows.foldlM (layout.fill format unknown) slots = .ok filled) (held : Option shape.Content) :
    rows.foldlM (layout.fill format unknown) (entry.put held slots) = .ok (entry.put held filled) := by
  induction rows generalizing slots with
  | nil =>
    cases read
    rfl
  | cons row rows ih =>
    have different : row.1 ≠ name := fun same => others (same ▸ List.mem_cons_self)
    have behind : name ∉ rows.map Prod.fst := fun later => others (List.mem_cons_of_mem _ later)
    obtain ⟨next,first,left⟩ := bind_ok.mp read
    exact bind_ok.mpr ⟨_,entry.decodeField_put different first held,ih behind left⟩

theorem complete_put (entry : Field layout name shape) {slots : layout.Slots} {content : layout.Content}
    (complete : layout.complete slots = .ok content) (held : shape.Content) :
    layout.complete (entry.put (some held) slots) = .ok (entry.set held content) := by
  induction entry with
  | here =>
    obtain ⟨slot,slots⟩ := slots
    obtain ⟨first,others,-,behind,rfl⟩ := complete_ok.mp complete
    exact complete_ok.mpr ⟨held,others,.inl rfl,behind,rfl⟩
  | there entry ih =>
    obtain ⟨slot,slots⟩ := slots
    obtain ⟨first,others,here,behind,rfl⟩ := complete_ok.mp complete
    exact complete_ok.mpr ⟨first,_,here,ih behind held,rfl⟩

theorem complete_clear (entry : Field layout name shape) (free : entry.required = false) {slots : layout.Slots}
    {content : layout.Content} (complete : layout.complete slots = .ok content) :
    layout.complete (entry.put none slots) = .ok (entry.set shape.blank content) := by
  induction entry with
  | here =>
    obtain ⟨slot,slots⟩ := slots
    obtain ⟨first,others,-,behind,rfl⟩ := complete_ok.mp complete
    exact complete_ok.mpr ⟨_,others,.inr ⟨rfl,free,rfl⟩,behind,rfl⟩
  | there entry ih =>
    obtain ⟨slot,slots⟩ := slots
    obtain ⟨first,others,here,behind,rfl⟩ := complete_ok.mp complete
    exact complete_ok.mpr ⟨first,_,here,ih free behind,rfl⟩

theorem complete_blank (entry : Field layout name shape) {slots : layout.Slots} {content : layout.Content}
    (complete : layout.complete slots = .ok content) (empty : entry.slot slots = none) :
    entry.get content = shape.blank := by
  induction entry with
  | here =>
    obtain ⟨slot,slots⟩ := slots
    cases empty
    obtain ⟨first,others,⟨⟨⟩⟩ | ⟨-,-,rfl⟩,-,rfl⟩ := complete_ok.mp complete
    rfl
  | there entry ih =>
    obtain ⟨slot,slots⟩ := slots
    obtain ⟨first,others,-,behind,rfl⟩ := complete_ok.mp complete
    exact ih behind empty

theorem fill_free (entry : Field layout name shape) {format : DocumentFormat} {unknown : String → Nat → Refusal}
    {rows : List (String × Nat × Node)} (others : name ∉ rows.map Prod.fst) {slots filled : layout.Slots}
    (read : rows.foldlM (layout.fill format unknown) slots = .ok filled) (empty : entry.slot slots = none) :
    entry.slot filled = none := by
  have again := entry.fill_put others read none
  rw [← empty,put_slot,read,Except.ok.injEq] at again
  rw [again,slot_put,empty]

-- A row with the field's name is the only one, and the rows around it are read alike
-- with it and without it.
theorem fill_row (entry : Field layout name shape) (distinct : layout.names.Nodup) {format : DocumentFormat}
    {unknown : String → Nat → Refusal} {before after : List (String × Nat × Node)} {offset : Nat} {node : Node}
    {slots filled : layout.Slots} (empty : entry.slot slots = none) :
    (before ++ (name,offset,node) :: after).foldlM (layout.fill format unknown) slots = .ok filled ↔
      name ∉ (before ++ after).map Prod.fst ∧ ∃ content,shape.decode format node = .ok content ∧
      ∃ reached,(before ++ after).foldlM (layout.fill format unknown) slots = .ok reached ∧
        entry.put (some content) reached = filled := by
  constructor
  · intro read
    have alone : name ∉ (before ++ after).map Prod.fst := by
      obtain ⟨-,names⟩ := layout.fill_distinct read
      rw [(List.perm_middle.map Prod.fst).nodup_iff] at names
      exact (List.nodup_cons.mp names).1
    have behind : name ∉ after.map Prod.fst := fun later => alone (List.map_append ▸ List.mem_append_right _ later)
    rw [List.foldlM_append] at read
    obtain ⟨middle,first,left⟩ := bind_ok.mp read
    obtain ⟨next,here,left⟩ := bind_ok.mp left
    obtain ⟨free,content,found,rfl⟩ := (entry.decodeField_exact distinct).mp here
    have without := entry.fill_put behind left none
    rw [put_put,← free,put_slot] at without
    refine ⟨alone,content,found,entry.put none filled,?_,?_⟩
    · rw [List.foldlM_append]
      exact bind_ok.mpr ⟨middle,first,free ▸ without⟩
    · rw [put_put,← entry.fill_keeps left (entry.slot_put (some content) middle),put_slot]
  · rintro ⟨alone,content,found,reached,read,rfl⟩
    have ahead : name ∉ before.map Prod.fst := fun early => alone (List.map_append ▸ List.mem_append_left _ early)
    have behind : name ∉ after.map Prod.fst := fun later => alone (List.map_append ▸ List.mem_append_right _ later)
    rw [List.foldlM_append] at read ⊢
    obtain ⟨middle,first,left⟩ := bind_ok.mp read
    have free := entry.fill_free ahead first empty
    exact bind_ok.mpr ⟨middle,first,bind_ok.mpr ⟨_,(entry.decodeField_exact distinct).mpr ⟨free,content,found,rfl⟩,
      entry.fill_put behind left (some content)⟩⟩

section

variable {format : DocumentFormat} {record : String} {before after rows : List (String × Value)} {content : layout.Content}

-- A record with a field that may be left out is the record without it, with that field
-- put into it.
theorem decode_row (entry : Field layout name shape) (distinct : layout.names.Nodup) (free : entry.required = false) :
    Shape.decode format (.record record layout) (Node.ofValue (.table (before ++ (name,tree) :: after))) = .ok content ↔
      name ∉ (before ++ after).map Prod.fst ∧
      ∃ held,shape.decode format (Node.ofValue tree) = .ok held ∧
      ∃ rest,Shape.decode format (.record record layout) (Node.ofValue (.table (before ++ after))) = .ok rest ∧
        entry.set held rest = content := by
  have unfilled := entry.unfilled_slot
  rw [← Node.ofRows_names,Node.ofRows_append,Node.ofValue,Node.ofRows_append,Node.ofRows,table_ok]
  constructor
  · rintro ⟨slots,filled,complete⟩
    obtain ⟨alone,held,found,reached,read,rfl⟩ := (entry.fill_row distinct unfilled).mp filled
    have cleared := entry.complete_clear free complete
    rw [put_put,← entry.fill_free alone read unfilled,put_slot] at cleared
    refine ⟨alone,held,found,entry.set shape.blank content,?_,?_⟩
    · rw [Node.ofValue,Node.ofRows_append]
      exact table_ok.mpr ⟨reached,read,cleared⟩
    · rw [set_set,← entry.complete_held complete (entry.slot_put _ _),set_get]
  · rintro ⟨alone,held,found,rest,read,rfl⟩
    rw [Node.ofValue,Node.ofRows_append] at read
    obtain ⟨reached,filled,complete⟩ := table_ok.mp read
    exact ⟨_,(entry.fill_row distinct unfilled).mpr ⟨alone,held,found,reached,filled,rfl⟩,entry.complete_put complete held⟩

theorem decode_without (entry : Field layout name shape) (alone : name ∉ rows.map Prod.fst)
    (read : Shape.decode format (.record record layout) (Node.ofValue (.table rows)) = .ok content) :
    entry.get content = shape.blank := by
  rw [Node.ofValue] at read
  obtain ⟨slots,filled,complete⟩ := table_ok.mp read
  rw [← Node.ofRows_names] at alone
  exact entry.complete_blank complete (entry.fill_free alone filled entry.unfilled_slot)

-- A field that may hold nothing does so where it is not written or written as null.
theorem decode_absent {inner : Shape} (entry : Field layout name (.optional inner)) (distinct : layout.names.Nodup)
    (read : Shape.decode format (.record record layout) (Node.ofValue (.table rows)) = .ok content) :
    entry.get content = none ↔ ∀ tree,(name,tree) ∈ rows → tree = .null := by
  have written : ∀ tree,(name,tree) ∈ rows →
      Shape.decode format (.optional inner) (Node.ofValue tree) = .ok (entry.get content) := by
    intro tree there
    rw [Node.ofValue] at read
    obtain ⟨slots,filled,complete⟩ := table_ok.mp read
    obtain ⟨held,found,stored⟩ := entry.fill_decodes distinct filled (Node.ofRows_mem there)
    rwa [entry.complete_held complete stored]
  constructor
  · intro empty tree there
    apply Classical.byContradiction
    intro present
    have found := written tree there
    rw [inner.decode_present format (Node.value_ofValue tree) present,empty] at found
    obtain ⟨held,-,⟨⟩⟩ := map_ok.mp found
  · intro nulls
    by_cases there : name ∈ rows.map Prod.fst
    · obtain ⟨⟨_,tree⟩,member,rfl⟩ := List.mem_map.mp there
      have found := written tree member
      rw [nulls tree member] at found
      exact (Except.ok.inj found).symm
    · exact entry.decode_without there read

theorem decode_omitted {inner : Shape} (entry : Field layout name (.optional inner)) (distinct : layout.names.Nodup)
    (free : entry.required = false) (alone : name ∉ (before ++ after).map Prod.fst) :
    Shape.decode format (.record record layout) (Node.ofValue (.table (before ++ (name,.null) :: after))) = .ok content ↔
      Shape.decode format (.record record layout) (Node.ofValue (.table (before ++ after))) = .ok content := by
  have kept : ∀ {rest : layout.Content},
      Shape.decode format (.record record layout) (Node.ofValue (.table (before ++ after))) = .ok rest →
      entry.set none rest = rest := by
    intro rest read
    have same := entry.set_get rest
    rwa [entry.decode_without alone read] at same
  rw [entry.decode_row distinct free]
  constructor
  · rintro ⟨-,held,⟨⟩,rest,read,rfl⟩
    rwa [kept read]
  · intro read
    exact ⟨alone,none,rfl,content,read,kept read⟩

end

theorem items_follow (entry : Field layout name shape) {format : DocumentFormat} {short : Nat → Refusal}
    {broken : Option Json.Break} {place : Nat} {before after : List Node} {node other : Node} {content : layout.Content}
    (there : before.length = entry.index)
    (follows : ∀ {held : shape.Content},shape.decode format node = .ok held → shape.decode format other = .ok held)
    (read : layout.decodeItems format short broken place (before ++ node :: after) = .ok content) :
    layout.decodeItems format short broken place (before ++ other :: after) = .ok content := by
  induction entry generalizing place before with
  | here =>
    rw [List.length_eq_zero_iff.mp there] at read ⊢
    obtain ⟨first,others,found,behind,same⟩ := items_ok.mp read
    exact items_ok.mpr ⟨first,others,follows found,behind,same⟩
  | there entry ih =>
    cases before with
    | nil => cases there
    | cons item before =>
      obtain ⟨first,others,found,behind,same⟩ := items_ok.mp read
      exact items_ok.mpr ⟨first,others,found,ih (Nat.succ.inj there) follows behind,same⟩

end Layout.Field

end LedgerSettings
