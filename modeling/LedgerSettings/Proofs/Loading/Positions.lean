import LedgerSettings.Proofs.Loading.Omission

namespace LedgerSettings

mutual
def Shape.records : Shape → List (String × Layout)
  | .optional inner | .list inner => inner.records
  | .record name layout => (name,layout) :: layout.records
  | _ => []
def Layout.records : Layout → List (String × Layout)
  | .nil => []
  | .cons _ _ shape rest => shape.records ++ rest.records
end

mutual
theorem Shape.records_distinct : (shape : Shape) → shape.distinct = true →
    ∀ record ∈ shape.records,(Shape.record record.1 record.2).distinct = true
  | .optional inner,distinct => by
    simp only [Shape.distinct] at distinct
    simpa only [Shape.records] using inner.records_distinct distinct
  | .list inner,distinct => by
    simp only [Shape.distinct] at distinct
    simpa only [Shape.records] using inner.records_distinct distinct
  | .record name layout,distinct => by
    simp only [Shape.records,List.forall_mem_cons]
    exact ⟨distinct,layout.records_distinct (Shape.record_distinct.mp distinct).2⟩
  | .integer _,_ | .real,_ | .flag,_ | .text,_ | .path,_ | .counts,_ | .metadata,_ => by
    simp only [Shape.records,List.not_mem_nil,false_implies,implies_true]
theorem Layout.records_distinct : (layout : Layout) → layout.distinct = true →
    ∀ record ∈ layout.records,(Shape.record record.1 record.2).distinct = true
  | .nil,_ => by simp only [Layout.records,List.not_mem_nil,false_implies,implies_true]
  | .cons _ _ shape rest,distinct => by
    simp only [Layout.distinct,Bool.and_eq_true] at distinct
    simp only [Layout.records,List.forall_mem_append]
    exact ⟨shape.records_distinct distinct.1,rest.records_distinct distinct.2⟩
end

namespace Layout

theorem fill_named {name : String} {required : Bool} {shape : Shape} {rest : Layout} {format : DocumentFormat}
    {unknown : String → Nat → Refusal} {offset : Nat} {node : Node} {slots : rest.Slots}
    {filled : (Layout.cons name required shape rest).Slots} :
    (Layout.cons name required shape rest).fill format unknown (.cons none slots) (name,offset,node) = .ok filled ↔
      ∃ content,shape.decode format node = .ok content ∧ .cons (some content) slots = filled := by
  unfold fill Slots.cons
  rw [decodeField_ok]
  constructor
  · rintro (⟨-,-,found⟩ | ⟨passed,-⟩)
    · exact found
    · exact absurd rfl passed
  · intro found
    exact .inl ⟨rfl,rfl,found⟩

-- A record filled from values in the order of its fields, each under the name of its field.
def Filled (layout : Layout) (format : DocumentFormat) (unknown : String → Nat → Refusal) (values : List Value)
    (content : layout.Content) : Prop :=
  ∃ slots,(Node.ofRows (layout.names.zip values)).foldlM (layout.fill format unknown) layout.unfilled = .ok slots ∧
    layout.complete slots = .ok content

section

variable {name : String} {required : Bool} {shape : Shape} {rest : Layout} {format : DocumentFormat}
  {unknown : String → Nat → Refusal} {content : (Layout.cons name required shape rest).Content}

theorem filled_none : (Layout.cons name required shape rest).Filled format unknown [] content ↔
    required = false ∧ ∃ others,rest.Filled format unknown [] others ∧ (shape.blank,others) = content := by
  unfold Filled
  rw [List.zip_nil_right,List.zip_nil_right]
  constructor
  · rintro ⟨_,⟨⟩,complete⟩
    obtain ⟨_,others,⟨⟨⟩⟩ | ⟨-,free,rfl⟩,behind,same⟩ := complete_ok.mp complete
    exact ⟨free,others,⟨_,rfl,behind⟩,same⟩
  · rintro ⟨free,others,⟨_,⟨⟩,behind⟩,same⟩
    exact ⟨_,rfl,complete_ok.mpr ⟨_,others,.inr ⟨rfl,free,rfl⟩,behind,same⟩⟩

theorem filled_cons (distinct : (Layout.cons name required shape rest).names.Nodup) :
    (Layout.cons name required shape rest).Filled format unknown (value :: values) content ↔
    ∃ first others,shape.decode format (Node.ofValue value) = .ok first ∧
      rest.Filled format unknown values others ∧ (first,others) = content := by
  obtain ⟨fresh,-⟩ := List.nodup_cons.mp distinct
  have passed : ∀ row ∈ Node.ofRows (rest.names.zip values),row.1 ≠ name := by
    intro row member same
    have named : row.1 ∈ (rest.names.zip values).map Prod.fst := Node.ofRows_names _ ▸ List.mem_map_of_mem member
    obtain ⟨⟨key,_⟩,there,rfl⟩ := List.mem_map.mp named
    exact fresh (same ▸ (List.of_mem_zip there).1)
  have behind : ∀ (held : Option shape.Content) slots,
      (Node.ofRows (rest.names.zip values)).foldlM ((Layout.cons name required shape rest).fill format unknown)
        (.cons held slots) = ((Node.ofRows (rest.names.zip values)).foldlM (rest.fill format unknown) slots).map (.cons held) :=
    fun held slots => fill_behind format unknown held _ passed slots
  unfold Filled
  rw [names,List.zip_cons_cons,Node.ofRows]
  constructor
  · rintro ⟨slots,read,complete⟩
    obtain ⟨next,here,left⟩ := bind_ok.mp read
    obtain ⟨first,found,rfl⟩ := fill_named.mp here
    rw [behind] at left
    obtain ⟨after,filled,rfl⟩ := map_ok.mp left
    obtain ⟨_,others,⟨⟨⟩⟩ | ⟨⟨⟩,-⟩,complete,same⟩ := complete_ok.mp complete
    exact ⟨first,others,found,⟨after,filled,complete⟩,same⟩
  · rintro ⟨first,others,found,⟨slots,filled,complete⟩,same⟩
    refine ⟨.cons (some first) slots,?_,complete_ok.mpr ⟨first,others,.inl rfl,complete,same⟩⟩
    refine bind_ok.mpr ⟨_,fill_named.mpr ⟨first,found,rfl⟩,?_⟩
    rw [behind,filled]
    rfl

end

-- Values given in the order of the fields are read as the same values under the names
-- of the fields. What is left out at the end is left out in both.
theorem items_filled (format : DocumentFormat) (short : Nat → Refusal) (unknown : String → Nat → Refusal) :
    (layout : Layout) → layout.names.Nodup → ∀ (index : Nat) (values : List Value),values.length ≤ layout.size →
    ∀ content,layout.decodeItems format short none index (Node.ofItems values) = .ok content ↔
      layout.Filled format unknown values content
  | .nil,_,_,[],_,_ => by
    constructor
    · intro _
      exact ⟨(),rfl,rfl⟩
    · intro _
      cases format <;> rfl
  | .cons _ _ _ rest,distinct,index,[],_,_ => by
    have left := rest.items_filled format short unknown (List.nodup_cons.mp distinct).2 (index+1) [] (Nat.zero_le _)
    rw [Node.ofItems] at left ⊢
    rw [items_left_out,filled_none]
    simp only [left,true_and]
  | .cons _ _ _ rest,distinct,index,value :: values,within,_ => by
    have behind := rest.items_filled format short unknown (List.nodup_cons.mp distinct).2 (index+1) values
      (Nat.le_of_succ_le_succ within)
    rw [Node.ofItems,items_ok,filled_cons distinct]
    simp only [behind]

theorem decode_filled (layout : Layout) (distinct : layout.names.Nodup) (within : values.length ≤ layout.size)
    {format : DocumentFormat} {name : String} {content : layout.Content} :
    Shape.decode format (.record name layout) (Node.ofValue (.list values)) = .ok content ↔
      Shape.decode format (.record name layout) (Node.ofValue (.table (layout.names.zip values))) = .ok content := by
  rw [Node.ofValue,Node.ofValue,table_ok]
  exact layout.items_filled format _ _ distinct 0 values within content

end Layout

-- A tree and what it becomes once a record in it that is written as a list is written
-- as a table instead, the items under the names of the fields in their order.
inductive Labels : Shape → Value → Value → Prop where
  | here (within : values.length ≤ layout.size) :
      Labels (.record name layout) (.list values) (.table (layout.names.zip values))
  | given {inner : Shape} (deeper : Labels inner tree other) : Labels (.optional inner) tree other
  | item {inner : Shape} (deeper : Labels inner tree other) :
      Labels (.list inner) (.list (before ++ tree :: after)) (.list (before ++ other :: after))
  | named {inner : Shape} (entry : layout.Field key inner) (deeper : Labels inner tree other) :
      Labels (.record name layout) (.table (before ++ (key,tree) :: after)) (.table (before ++ (key,other) :: after))
  | placed {inner : Shape} (entry : layout.Field key inner) (there : before.length = entry.index)
      (deeper : Labels inner tree other) :
      Labels (.record name layout) (.list (before ++ tree :: after)) (.list (before ++ other :: after))

theorem Value.rowsHeight_zip : (names : List String) → (values : List Value) → values.length ≤ names.length →
    rowsHeight (names.zip values) = itemsHeight values
  | [],[],_ => rfl
  | _ :: _,[],_ => rfl
  | _ :: names,value :: values,within => by
    rw [List.zip_cons_cons,rowsHeight,itemsHeight,rowsHeight_zip names values (Nat.le_of_succ_le_succ within)]

namespace Labels

theorem present (labels : Labels shape tree other) : tree ≠ .null ∧ other ≠ .null := by
  induction labels with
  | given _ ih => exact ih
  | here | item | named | placed => exact ⟨Value.noConfusion,Value.noConfusion⟩

theorem height_same (labels : Labels shape tree other) : tree.height = other.height := by
  induction labels with
  | here within => simp only [Value.height,Value.rowsHeight_zip _ _ within]
  | given _ ih => exact ih
  | item _ ih | placed _ _ _ ih => simp only [Value.height,Value.itemsHeight_append,Value.itemsHeight,ih]
  | named _ _ ih => simp only [Value.height,Value.rowsHeight_append,Value.rowsHeight,ih]

theorem follows (labels : Labels shape tree other) (distinct : shape.distinct = true) (format : DocumentFormat) :
    shape.Follows format tree other ∧ shape.Follows format other tree := by
  induction labels with
  | @here _ layout _ within =>
    obtain ⟨once,-⟩ := Shape.record_distinct.mp distinct
    constructor
    · intro content
      exact (layout.decode_filled once within).mp
    · intro content
      exact (layout.decode_filled once within).mpr
  | given deeper ih =>
    obtain ⟨forth,back⟩ := ih distinct
    obtain ⟨present,present'⟩ := deeper.present
    exact ⟨Shape.follows_given forth present present',Shape.follows_given back present' present⟩
  | item deeper ih =>
    obtain ⟨forth,back⟩ := ih distinct
    exact ⟨Shape.follows_item forth _ _,Shape.follows_item back _ _⟩
  | named entry deeper ih =>
    obtain ⟨once,inside⟩ := Shape.record_distinct.mp distinct
    obtain ⟨forth,back⟩ := ih (entry.distinct inside)
    exact ⟨Shape.follows_named entry once forth _ _ _,Shape.follows_named entry once back _ _ _⟩
  | placed entry there deeper ih =>
    obtain ⟨-,inside⟩ := Shape.record_distinct.mp distinct
    obtain ⟨forth,back⟩ := ih (entry.distinct inside)
    exact ⟨Shape.follows_placed entry forth _ there _,Shape.follows_placed entry back _ there _⟩

end Labels

namespace Json

variable {shape : Shape}

theorem decodeText_labelled (labels : Labels shape tree other) (distinct : shape.distinct = true)
    (spells : Spells text tree) (spells' : Spells changed other) :
    (decodeText shape text).toOption = (decodeText shape changed).toOption := by
  obtain ⟨forth,back⟩ := labels.follows distinct .json
  refine toOption_alike fun content => ?_
  rw [decodeText_spelled spells,decodeText_spelled spells',labels.height_same]
  exact and_congr_right fun _ => ⟨forth content,back content⟩

theorem decodeText_overfull (site : Site shape tree (.record name layout) (.list items)) (beyond : layout.size < items.length)
    (distinct : shape.distinct = true) (spells : Spells text tree) : ∃ problem,decodeText shape text = .error problem := by
  refine never_ok fun content read => ?_
  obtain ⟨-,decoded⟩ := (decodeText_spelled spells).mp read
  obtain ⟨held,-,found⟩ := site.decode_held distinct decoded
  have plain := (Shape.decode_uncrowded _).mp found
  rw [Shape.crowded,decide_eq_true beyond,Bool.true_or] at plain
  cases plain.2

end Json

theorem DocumentFormat.decode_json (text : String) :
    (json.decode text).toOption = (Json.decodeText Document.shape text).toOption.map Document.ofContent := by
  unfold decode
  cases Json.decodeText Document.shape text <;> rfl

-- Every record a document can contain is read from a list as it is read from a table of
-- the same values under the names of its fields, wherever it stands and in whatever
-- text it is written. A list with more items than the record has fields is never read.
theorem Document.positions_as_names :
    (∀ {name layout},(name,layout) ∈ shape.records → ∀ {tree other text changed},Labels (.record name layout) tree other →
      Json.Spells text tree → Json.Spells changed other →
      (Json.decodeText (.record name layout) text).toOption = (Json.decodeText (.record name layout) changed).toOption) ∧
    (∀ {name layout},(name,layout) ∈ shape.records → ∀ {tree inner fields items text},
      Site (.record name layout) tree (.record inner fields) (.list items) → fields.size < items.length →
      Json.Spells text tree → ∃ problem,Json.decodeText (.record name layout) text = .error problem) ∧
    (∀ {tree other text changed},Labels shape tree other → Json.Spells text tree → Json.Spells changed other →
      (DocumentFormat.json.decode text).toOption = (DocumentFormat.json.decode changed).toOption) ∧
    (∀ {tree inner fields items text},Site shape tree (.record inner fields) (.list items) → fields.size < items.length →
      Json.Spells text tree → ∃ failure,DocumentFormat.json.decode text = .error failure) := by
  have distinct : ∀ {name layout},(name,layout) ∈ shape.records → (Shape.record name layout).distinct = true :=
    fun there => shape.records_distinct shape_distinct _ there
  refine ⟨?_,?_,?_,?_⟩
  · intro name layout there tree other text changed labels spells spells'
    exact Json.decodeText_labelled labels (distinct there) spells spells'
  · intro name layout there tree inner fields items text site beyond spells
    exact Json.decodeText_overfull site beyond (distinct there) spells
  · intro tree other text changed labels spells spells'
    rw [DocumentFormat.decode_json,DocumentFormat.decode_json,
      Json.decodeText_labelled labels shape_distinct spells spells']
  · intro tree inner fields items text site beyond spells
    obtain ⟨problem,refused⟩ := Json.decodeText_overfull site beyond shape_distinct spells
    exact ⟨.json problem,by rw [DocumentFormat.decode,refused]; rfl⟩

example : Document.shape.records.map Prod.fst = ["RawConfiguration","NetworkIdentifier","SubNetworkIdentifier",
    "RawConstructionConfiguration","PrefundedAccount","AccountIdentifier","SubAccountIdentifier","Currency","Workflow",
    "Scenario","Action","RawDataConfiguration","DataEndConditions"] := by decide +kernel

namespace Seated

def currency : List Value := [.text "BTC",.integer 8]

def currencyText : String := "[\"BTC\",8]"

def currencyNamed : String := "\x7b\"symbol\":\"BTC\",\"decimals\":8\x7d"

def network (more : List Value) : List Value := [.text "a",.text "b"] ++ more

def networkText : String := "\x7b\"network\":[\"a\",\"b\"]\x7d"

def networkNamed : String := "\x7b\"network\":\x7b\"blockchain\":\"a\",\"network\":\"b\"\x7d\x7d"

def crowdedText : String := "\x7b\"network\":[\"a\",\"b\",null,1]\x7d"

theorem network_labels : Labels Document.shape (.table [("network",.list (network []))])
    (.table [("network",.table (Network.shape.layout.names.zip (network [])))]) := by
  have inside : Labels Network.shape (.list (network [])) (.table (Network.shape.layout.names.zip (network []))) :=
    .here (by decide)
  have whole : Labels Document.shape (.table ([] ++ ("network",_) :: [])) (.table ([] ++ ("network",_) :: [])) :=
    .named (.nth _ 0 rfl) (.given inside)
  exact whole

def crowdedSite : Site Document.shape (.table [("network",.list (network [.null,.integer 1]))]) Network.shape
    (.list (network [.null,.integer 1])) := .named .here (.head _) (.given nofun .here)

theorem currency_spelled : Json.Spells currencyText (.list currency) ∧
    Json.Spells currencyNamed (.table (Currency.shape.layout.names.zip currency)) := by
  constructor <;> refine ⟨Json.deepest,?_,?_⟩ <;> cbv

theorem network_spelled : Json.Spells networkText (.table [("network",.list (network []))]) ∧
    Json.Spells networkNamed (.table [("network",.table (Network.shape.layout.names.zip (network [])))]) := by
  constructor <;> refine ⟨Json.deepest,?_,?_⟩ <;> cbv

theorem crowded_spelled : Json.Spells crowdedText (.table [("network",.list (network [.null,.integer 1]))]) := by
  refine ⟨Json.deepest,?_,?_⟩ <;> cbv

theorem seated_as_named : (∃ held,(Json.decodeText Currency.shape currencyText).toOption = some held ∧
      (Json.decodeText Currency.shape currencyNamed).toOption = some held) ∧
    (∃ document,(DocumentFormat.json.decode networkText).toOption = some document ∧
      (DocumentFormat.json.decode networkNamed).toOption = some document) ∧
    ∃ failure,DocumentFormat.json.decode crowdedText = .error failure := by
  obtain ⟨records,-,documents,crowded⟩ := Document.positions_as_names
  have there : ("Currency",Currency.shape.layout) ∈ Document.shape.records := List.mem_of_getElem? (i := 7) rfl
  have alike := records there (.here (by decide)) currency_spelled.1 currency_spelled.2
  have same := documents network_labels network_spelled.1 network_spelled.2
  have read : (Json.decodeText Currency.shape currencyNamed).toOption.isSome = true := by decide +kernel
  have taken : (DocumentFormat.json.decode networkNamed).toOption.isSome = true := by decide +kernel
  obtain ⟨held,read⟩ := Option.isSome_iff_exists.mp read
  obtain ⟨document,taken⟩ := Option.isSome_iff_exists.mp taken
  exact ⟨⟨held,alike.trans read,read⟩,⟨document,same.trans taken,taken⟩,crowded crowdedSite (by decide) crowded_spelled⟩

end Seated

end LedgerSettings
