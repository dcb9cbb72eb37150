import LedgerSettings.Proofs.Shape.Crowding
import LedgerSettings.Proofs.Shape.Depth

namespace LedgerSettings

inductive Layout.Field : Layout → String → Shape → Type where
  | here : Field (.cons name required shape rest) name shape
  | there (entry : Field rest name shape) : Field (.cons other required first rest) name shape

def Layout.at? : Layout → Nat → Option (String × Shape)
  | .nil,_ => none
  | .cons name _ shape _,0 => some (name,shape)
  | .cons _ _ _ rest,index+1 => rest.at? index

namespace Layout.Field

variable {layout : Layout} {name : String} {shape : Shape}

def nth : (layout : Layout) → (index : Nat) → layout.at? index = some (name,shape) → Field layout name shape
  | .cons _ _ _ _,0,rfl => .here
  | .cons _ _ _ rest,index+1,found => .there (nth rest index found)

def index : {layout : Layout} → Field layout name shape → Nat
  | _,.here => 0
  | _,.there entry => entry.index + 1

def get : {layout : Layout} → Field layout name shape → layout.Content → shape.Content
  | _,.here,(held,_) => held
  | _,.there entry,(_,others) => entry.get others

def slot : {layout : Layout} → Field layout name shape → layout.Slots → Option shape.Content
  | _,.here,(slot,_) => slot
  | _,.there entry,(_,slots) => entry.slot slots

theorem named (entry : Field layout name shape) : name ∈ layout.names := by
  induction entry with
  | here => exact List.mem_cons_self
  | there entry ih => exact List.mem_cons_of_mem _ ih

theorem distinct (entry : Field layout name shape) (distinct : layout.distinct = true) : shape.distinct = true := by
  induction entry with
  | here =>
    simp only [Layout.distinct,Bool.and_eq_true] at distinct
    exact distinct.1
  | there entry ih =>
    simp only [Layout.distinct,Bool.and_eq_true] at distinct
    exact ih distinct.2

theorem complete_held (entry : Field layout name shape) {slots : layout.Slots} {content : layout.Content}
    {held : shape.Content} (complete : layout.complete slots = .ok content) (found : entry.slot slots = some held) :
    entry.get content = held := by
  induction entry with
  | here =>
    obtain ⟨slot,slots⟩ := slots
    cases found
    obtain ⟨first,others,⟨⟨⟩⟩ | ⟨⟨⟩,-⟩,-,rfl⟩ := complete_ok.mp complete
    rfl
  | there entry ih =>
    obtain ⟨slot,slots⟩ := slots
    obtain ⟨first,others,-,behind,rfl⟩ := complete_ok.mp complete
    exact ih behind found

theorem decodeField_keeps (entry : Field layout name shape) {format : DocumentFormat} {unknown : Refusal} {key : String}
    {offset : Nat} {node : Node} {slots filled : layout.Slots} {held : shape.Content}
    (read : layout.decodeField format unknown key offset node slots = .ok filled) (found : entry.slot slots = some held) :
    entry.slot filled = some held := by
  induction entry with
  | here =>
    obtain ⟨slot,slots⟩ := slots
    rcases decodeField_ok.mp read with ⟨-,rfl,-⟩ | ⟨-,after,-,rfl⟩
    · cases found
    · exact found
  | there entry ih =>
    obtain ⟨slot,slots⟩ := slots
    rcases decodeField_ok.mp read with ⟨-,-,content,-,rfl⟩ | ⟨-,after,behind,rfl⟩
    · exact found
    · exact ih behind found

theorem decodeField_fills (entry : Field layout name shape) (distinct : layout.names.Nodup) {format : DocumentFormat}
    {unknown : Refusal} {offset : Nat} {node : Node} {slots filled : layout.Slots}
    (read : layout.decodeField format unknown name offset node slots = .ok filled) :
    ∃ held,shape.decode format node = .ok held ∧ entry.slot filled = some held := by
  induction entry with
  | here =>
    obtain ⟨slot,slots⟩ := slots
    rcases decodeField_ok.mp read with ⟨-,-,content,found,rfl⟩ | ⟨passed,-⟩
    · exact ⟨content,found,rfl⟩
    · exact absurd rfl passed
  | there entry ih =>
    obtain ⟨slot,slots⟩ := slots
    obtain ⟨fresh,distinct⟩ := List.nodup_cons.mp distinct
    rcases decodeField_ok.mp read with ⟨rfl,-⟩ | ⟨-,after,behind,rfl⟩
    · exact absurd entry.named fresh
    · exact ih distinct behind

theorem fill_keeps (entry : Field layout name shape) {format : DocumentFormat} {unknown : String → Nat → Refusal}
    {rows : List (String × Nat × Node)} {slots filled : layout.Slots} {held : shape.Content}
    (read : rows.foldlM (layout.fill format unknown) slots = .ok filled) (found : entry.slot slots = some held) :
    entry.slot filled = some held := by
  induction rows generalizing slots with
  | nil =>
    cases read
    exact found
  | cons row rows ih =>
    obtain ⟨next,first,left⟩ := bind_ok.mp read
    exact ih left (entry.decodeField_keeps first found)

theorem fill_decodes (entry : Field layout name shape) (distinct : layout.names.Nodup) {format : DocumentFormat}
    {unknown : String → Nat → Refusal} {rows : List (String × Nat × Node)} {slots filled : layout.Slots}
    (read : rows.foldlM (layout.fill format unknown) slots = .ok filled) (present : (name,offset,node) ∈ rows) :
    ∃ held,shape.decode format node = .ok held ∧ entry.slot filled = some held := by
  induction rows generalizing slots with
  | nil => cases present
  | cons row rows ih =>
    obtain ⟨next,first,left⟩ := bind_ok.mp read
    rcases List.mem_cons.mp present with rfl | later
    · obtain ⟨held,found,filled⟩ := entry.decodeField_fills distinct first
      exact ⟨held,found,entry.fill_keeps left filled⟩
    · exact ih left later

theorem items_decode (entry : Field layout name shape) {format : DocumentFormat} {short : Nat → Refusal}
    {broken : Option Json.Break} {place : Nat} {items : List Node} {content : layout.Content}
    (read : layout.decodeItems format short broken place items = .ok content) (present : items[entry.index]? = some node) :
    shape.decode format node = .ok (entry.get content) := by
  induction entry generalizing place items with
  | here =>
    cases items with
    | nil => cases present
    | cons item items =>
      cases present
      obtain ⟨first,others,found,-,rfl⟩ := items_ok.mp read
      exact found
  | there entry ih =>
    cases items with
    | nil => cases present
    | cons item items =>
      obtain ⟨first,others,-,behind,rfl⟩ := items_ok.mp read
      exact ih behind present

end Layout.Field

-- A field that was found already. Rows of its name find it taken.
def Layout.Taken : (layout : Layout) → layout.Slots → String → Prop
  | .nil,_,_ => False
  | .cons name _ _ rest,(slot,slots),key => if key = name then slot ≠ none else rest.Taken slots key

theorem Layout.decodeField_takes {format : DocumentFormat} {unknown : Refusal} {key : String} {offset : Nat}
    {node : Node} : (layout : Layout) → ∀ {slots filled : layout.Slots},
    layout.decodeField format unknown key offset node slots = .ok filled →
    key ∈ layout.names ∧ ¬layout.Taken slots key ∧ layout.Taken filled key ∧
      ∀ other,layout.Taken slots other → layout.Taken filled other
  | .nil,_,_,read => by cases read
  | .cons name required shape rest,(slot,slots),filled,read => by
    rcases decodeField_ok.mp read with ⟨rfl,rfl,content,-,rfl⟩ | ⟨passed,after,behind,rfl⟩
    · refine ⟨List.mem_cons_self,?_,?_,fun other => ?_⟩
      · simp [Taken]
      · simp [Taken]
      · by_cases same : other = key <;> simp [Taken,same]
    · obtain ⟨known,free,taken,kept⟩ := rest.decodeField_takes behind
      refine ⟨List.mem_cons_of_mem _ known,?_,?_,fun other => ?_⟩
      · simpa only [Taken,if_neg passed] using free
      · simpa only [Taken,if_neg passed] using taken
      · by_cases same : other = name
        · simp only [Taken,if_pos same]
          exact id
        · simpa only [Taken,if_neg same] using kept other

theorem Layout.fill_distinct (layout : Layout) {format : DocumentFormat} {unknown : String → Nat → Refusal}
    {rows : List (String × Nat × Node)} {slots filled : layout.Slots}
    (read : rows.foldlM (layout.fill format unknown) slots = .ok filled) :
    (∀ key ∈ rows.map Prod.fst,key ∈ layout.names ∧ ¬layout.Taken slots key) ∧ (rows.map Prod.fst).Nodup := by
  induction rows generalizing slots with
  | nil => simp
  | cons row rows ih =>
    obtain ⟨next,first,left⟩ := bind_ok.mp read
    obtain ⟨known,free,taken,kept⟩ := layout.decodeField_takes first
    obtain ⟨others,distinct⟩ := ih left
    rw [List.map_cons,List.forall_mem_cons,List.nodup_cons]
    refine ⟨⟨⟨known,free⟩,fun key member => ?_⟩,fun again => (others _ again).2 taken,distinct⟩
    exact ⟨(others key member).1,fun early => (others key member).2 (kept key early)⟩

-- The places of a tree a decoder comes to, and the shapes it looks for there.
inductive Site : Shape → Value → Shape → Value → Type where
  | here : Site shape tree shape tree
  | given {inner : Shape} (present : tree ≠ .null) (deeper : Site inner tree shape found) :
      Site (.optional inner) tree shape found
  | item {inner : Shape} (index : Nat) (there : items[index]? = some tree) (deeper : Site inner tree shape found) :
      Site (.list inner) (.list items) shape found
  | named {inner : Shape} (entry : layout.Field key inner) (there : (key,tree) ∈ rows)
      (deeper : Site inner tree shape found) : Site (.record name layout) (.table rows) shape found
  | placed {inner : Shape} (entry : layout.Field key inner) (there : items[entry.index]? = some tree)
      (deeper : Site inner tree shape found) : Site (.record name layout) (.list items) shape found

namespace Site

def held? : {whole : Shape} → {tree : Value} → Site whole tree shape found → whole.Content → Option shape.Content
  | _,_,.here,content => some content
  | .optional _,_,.given _ deeper,content => Option.bind content deeper.held?
  | .list inner,_,.item index _ deeper,contents =>
    let contents : List inner.Content := contents
    contents[index]?.bind deeper.held?
  | _,_,.named entry _ deeper,content => deeper.held? (entry.get content)
  | _,_,.placed entry _ deeper,content => deeper.held? (entry.get content)

-- What a tree is decoded to holds what each of its sites is decoded to.
theorem decode_held (site : Site whole tree shape found) (distinct : whole.distinct = true) {format : DocumentFormat}
    {content : whole.Content} (read : whole.decode format (Node.ofValue tree) = .ok content) :
    ∃ held,site.held? content = some held ∧ shape.decode format (Node.ofValue found) = .ok held := by
  induction site with
  | here => exact ⟨content,rfl,read⟩
  | given present deeper ih =>
    rw [Shape.decode_present _ format (Node.value_ofValue _) present] at read
    obtain ⟨held,inside,rfl⟩ := map_ok.mp read
    exact ih distinct inside
  | item index there deeper ih =>
    obtain ⟨first,stored,found⟩ := mapM_at (Shape.list_ok.mp read) (Node.ofItems_at there)
    obtain ⟨held,kept,found⟩ := ih distinct found
    refine ⟨held,?_,found⟩
    simp only [held?,stored]
    exact kept
  | named entry there deeper ih =>
    simp only [Shape.distinct,Bool.and_eq_true,decide_eq_true_eq] at distinct
    obtain ⟨slots,filled,complete⟩ := Layout.table_ok.mp read
    obtain ⟨first,found,stored⟩ := entry.fill_decodes distinct.1 filled (Node.ofRows_mem there)
    obtain ⟨held,kept,found⟩ := ih (entry.distinct distinct.2) found
    refine ⟨held,?_,found⟩
    rw [held?,entry.complete_held complete stored]
    exact kept
  | placed entry there deeper ih =>
    simp only [Shape.distinct,Bool.and_eq_true,decide_eq_true_eq] at distinct
    exact ih (entry.distinct distinct.2) (entry.items_decode read (Node.ofItems_at there))

-- No record is decoded from a table with a name of no field or with a name twice.
theorem decode_names (site : Site whole tree (.record name layout) (.table rows)) (distinct : whole.distinct = true)
    {format : DocumentFormat} {content : whole.Content} (read : whole.decode format (Node.ofValue tree) = .ok content) :
    (∀ key ∈ rows.map Prod.fst,key ∈ layout.names) ∧ (rows.map Prod.fst).Nodup := by
  obtain ⟨held,-,found⟩ := site.decode_held distinct read
  obtain ⟨slots,filled,-⟩ := Layout.table_ok.mp found
  obtain ⟨known,distinct⟩ := layout.fill_distinct filled
  rw [Node.ofRows_names] at known distinct
  exact ⟨fun key member => (known key member).1,distinct⟩

end Site

end LedgerSettings
