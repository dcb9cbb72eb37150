import LedgerSettings.Proofs.Shape.Fields

namespace LedgerSettings

def Shape.isOptional : Shape → Bool
  | .optional _ => true
  | _ => false

-- No field that can hold nothing is required.
mutual
def Shape.lenient : Shape → Bool
  | .optional inner | .list inner => inner.lenient
  | .record _ layout => layout.lenient
  | _ => true
def Layout.lenient : Layout → Bool
  | .nil => true
  | .cons _ required shape rest => !(required && shape.isOptional) && shape.lenient && rest.lenient
end

namespace Layout.Field

theorem lenient (entry : Field layout name shape) (lenient : layout.lenient = true) : shape.lenient = true := by
  induction entry with
  | here =>
    simp only [Layout.lenient,Bool.and_eq_true] at lenient
    exact lenient.1.2
  | there entry ih =>
    simp only [Layout.lenient,Bool.and_eq_true] at lenient
    exact ih lenient.2

theorem optional_free (entry : Field layout name shape) (lenient : layout.lenient = true)
    (empty : shape.isOptional = true) : entry.required = false := by
  induction entry with
  | here =>
    simp only [Layout.lenient,Bool.and_eq_true,empty,Bool.and_true,Bool.not_eq_true'] at lenient
    exact lenient.1.1
  | there entry ih =>
    simp only [Layout.lenient,Bool.and_eq_true] at lenient
    exact ih lenient.2 empty

end Layout.Field

def Shape.Follows (format : DocumentFormat) (shape : Shape) (tree other : Value) : Prop :=
  ∀ content : shape.Content,shape.decode format (Node.ofValue tree) = .ok content →
    shape.decode format (Node.ofValue other) = .ok content

theorem forall₂_hole {related : α → α → Prop} (same : ∀ item,related item item) (here : related first second)
    (before after : List α) : List.Forall₂ related (before ++ first :: after) (before ++ second :: after) := by
  apply List.rel_append
  · exact List.forall₂_same.mpr fun item _ => same item
  · exact .cons here (List.forall₂_same.mpr fun item _ => same item)

namespace Shape

variable {format : DocumentFormat} {inner : Shape} {tree other : Value}

theorem follows_given (follows : inner.Follows format tree other) (present : tree ≠ .null) (present' : other ≠ .null) :
    (Shape.optional inner).Follows format tree other := by
  intro content read
  rw [inner.decode_present format (Node.value_ofValue _) present] at read
  rw [inner.decode_present format (Node.value_ofValue _) present']
  obtain ⟨held,found,same⟩ := map_ok.mp read
  exact map_ok.mpr ⟨held,follows _ found,same⟩

theorem follows_item (follows : inner.Follows format tree other) (before after : List Value) :
    (Shape.list inner).Follows format (.list (before ++ tree :: after)) (.list (before ++ other :: after)) := by
  intro content read
  have all : List.Forall₂ (inner.Follows format) (before ++ tree :: after) (before ++ other :: after) :=
    forall₂_hole (fun _ _ => id) follows before after
  rw [Node.ofValue] at read ⊢
  have inside := list_ok.mp read
  apply list_ok.mpr
  rw [Node.ofItems_map,List.mapM_map] at inside ⊢
  apply mapM_alike all inside
  intro first second result alike found
  exact alike result found

theorem follows_named (entry : Layout.Field layout key inner) (distinct : layout.names.Nodup)
    (follows : inner.Follows format tree other) (name : String) (before after : List (String × Value)) :
    (Shape.record name layout).Follows format (.table (before ++ (key,tree) :: after))
      (.table (before ++ (key,other) :: after)) := by
  intro content read
  rw [Node.ofValue,Node.ofRows_append,Node.ofRows] at read ⊢
  obtain ⟨slots,filled,complete⟩ := Layout.table_ok.mp read
  refine Layout.table_ok.mpr ⟨slots,?_,complete⟩
  rw [List.foldlM_append] at filled ⊢
  obtain ⟨middle,first,left⟩ := bind_ok.mp filled
  obtain ⟨next,here,left⟩ := bind_ok.mp left
  obtain ⟨free,held,found,same⟩ := (entry.decodeField_exact distinct).mp here
  exact bind_ok.mpr ⟨middle,first,bind_ok.mpr ⟨next,
    (entry.decodeField_exact distinct).mpr ⟨free,held,follows _ found,same⟩,left⟩⟩

theorem follows_placed (entry : Layout.Field layout key inner) (follows : inner.Follows format tree other)
    (name : String) {before : List Value} (there : before.length = entry.index) (after : List Value) :
    (Shape.record name layout).Follows format (.list (before ++ tree :: after)) (.list (before ++ other :: after)) := by
  intro content read
  rw [Node.ofValue,Node.ofItems_append,Node.ofItems] at read ⊢
  apply entry.items_follow _ _ read
  · rw [Node.ofItems_map,List.length_map,there]
  · exact follows _

end Shape

-- A tree and what is left of it once a null is taken out of one of its records, at a
-- field that may hold nothing and that is not written again.
inductive Omits : Shape → Value → Value → Prop where
  | here {inner : Shape} (entry : layout.Field key (.optional inner)) (alone : key ∉ (before ++ after).map Prod.fst) :
      Omits (.record name layout) (.table (before ++ (key,.null) :: after)) (.table (before ++ after))
  | given {inner : Shape} (deeper : Omits inner tree other) : Omits (.optional inner) tree other
  | item {inner : Shape} (deeper : Omits inner tree other) :
      Omits (.list inner) (.list (before ++ tree :: after)) (.list (before ++ other :: after))
  | named {inner : Shape} (entry : layout.Field key inner) (deeper : Omits inner tree other) :
      Omits (.record name layout) (.table (before ++ (key,tree) :: after)) (.table (before ++ (key,other) :: after))
  | placed {inner : Shape} (entry : layout.Field key inner) (there : before.length = entry.index)
      (deeper : Omits inner tree other) :
      Omits (.record name layout) (.list (before ++ tree :: after)) (.list (before ++ other :: after))

namespace Omits

theorem present (omits : Omits shape tree other) : tree ≠ .null ∧ other ≠ .null := by
  induction omits with
  | given _ ih => exact ih
  | here | item | named | placed => exact ⟨Value.noConfusion,Value.noConfusion⟩

theorem height_same (omits : Omits shape tree other) : tree.height = other.height := by
  induction omits with
  | given _ ih => exact ih
  | here => simp only [Value.height,Value.rowsHeight_append,Value.rowsHeight,Value.null,Nat.zero_max]
  | item _ ih | placed _ _ _ ih => simp only [Value.height,Value.itemsHeight_append,Value.itemsHeight,ih]
  | named _ _ ih => simp only [Value.height,Value.rowsHeight_append,Value.rowsHeight,ih]

theorem follows (omits : Omits shape tree other) (distinct : shape.distinct = true) (lenient : shape.lenient = true)
    (format : DocumentFormat) : shape.Follows format tree other ∧ shape.Follows format other tree := by
  induction omits with
  | here entry alone =>
    have once := (Shape.record_distinct.mp distinct).1
    have free := entry.optional_free lenient rfl
    constructor
    · intro content
      exact (entry.decode_omitted once free alone).mp
    · intro content
      exact (entry.decode_omitted once free alone).mpr
  | given deeper ih =>
    obtain ⟨forth,back⟩ := ih distinct lenient
    obtain ⟨present,present'⟩ := deeper.present
    exact ⟨Shape.follows_given forth present present',Shape.follows_given back present' present⟩
  | item deeper ih =>
    obtain ⟨forth,back⟩ := ih distinct lenient
    exact ⟨Shape.follows_item forth _ _,Shape.follows_item back _ _⟩
  | named entry deeper ih =>
    obtain ⟨once,inside⟩ := Shape.record_distinct.mp distinct
    obtain ⟨forth,back⟩ := ih (entry.distinct inside) (entry.lenient lenient)
    exact ⟨Shape.follows_named entry once forth _ _ _,Shape.follows_named entry once back _ _ _⟩
  | placed entry there deeper ih =>
    obtain ⟨-,inside⟩ := Shape.record_distinct.mp distinct
    obtain ⟨forth,back⟩ := ih (entry.distinct inside) (entry.lenient lenient)
    exact ⟨Shape.follows_placed entry forth _ there _,Shape.follows_placed entry back _ there _⟩

end Omits

def Shape.layout : Shape → Layout
  | .record _ layout => layout
  | _ => .nil

-- Rows that say nothing: nulls at fields that may hold nothing, each field once.
def Layout.Silent (layout : Layout) (rows : List (String × Value)) : Prop :=
  (rows.map Prod.fst).Nodup ∧ ∀ row ∈ rows,row.2 = .null ∧ ∃ inner,Nonempty (layout.Field row.1 (.optional inner))

namespace Layout

variable {layout : Layout} {rows : List (String × Value)}

theorem silent_decoded (silent : layout.Silent rows) (distinct : layout.names.Nodup) (lenient : layout.lenient = true)
    {format : DocumentFormat} {name : String} {content : layout.Content} :
    Shape.decode format (.record name layout) (Node.ofValue (.table rows)) = .ok content ↔
      Shape.decode format (.record name layout) (Node.ofValue (.table [])) = .ok content := by
  obtain ⟨once,nulls⟩ := silent
  induction rows with
  | nil => rfl
  | cons row rows ih =>
    obtain ⟨key,tree⟩ := row
    obtain ⟨alone,others⟩ := List.nodup_cons.mp once
    obtain ⟨⟨rfl,inner,⟨entry⟩⟩,rest⟩ := List.forall_mem_cons.mp nulls
    rw [← ih others rest,← List.nil_append ((key,Value.null) :: rows)]
    exact entry.decode_omitted distinct (entry.optional_free lenient rfl) alone

theorem silent_flat (silent : layout.Silent rows) : Value.rowsHeight rows = 0 := by
  apply Nat.eq_zero_of_le_zero
  apply (Value.rowsHeight_exact _ _).mpr
  intro row there
  rw [(silent.2 row there).1]
  exact Nat.le_refl 0

end Layout

end LedgerSettings
