import LedgerSettings.Document
import LedgerSettings.Shape.Decode
import LedgerSettings.Proofs.Node
import LedgerSettings.Proofs.Value
import Mathlib.Data.List.Forall2

namespace LedgerSettings

-- A value in which some content is written: what is present stands as it is, a
-- record has its rows in declaration order, and a row may be left out where it
-- is not required and would say no more than its absence.
mutual
def Shape.Written : (shape : Shape) → shape.Content → Value → Prop
  | .integer kind,content,tree => tree = .integer (kind.toInt content)
  | .real,content,tree => Float.isFinite content = true ∧ tree = .real content
  | .flag,content,tree => tree = .flag content
  | .text,content,tree => tree = .text content
  | .path,content,tree => tree = .text content
  | .optional inner,content,tree => ∃ held : inner.Content,content = some held ∧ inner.Written held tree
  | .list inner,content,tree => ∃ items,tree = .list items ∧ List.Forall₂ inner.Written content items
  | .counts,content,tree => tree = countsValue content
  | .metadata,content,tree => tree = Metadata.toValue content
  | .record _ layout,content,tree => ∃ rows,tree = .table rows ∧ layout.Written content rows
def Layout.Written : (layout : Layout) → layout.Content → List (String × Value) → Prop
  | .nil,_,rows => rows = []
  | .cons name required shape rest,(first,others),rows =>
    (∃ tree more,rows = (name,tree) :: more ∧ shape.Written first tree ∧ rest.Written others more) ∨
    (required = false ∧ first = shape.blank ∧ rest.Written others rows)
end

mutual
def Shape.distinct : Shape → Bool
  | .optional inner | .list inner => inner.distinct
  | .record _ layout => decide layout.names.Nodup && layout.distinct
  | _ => true
def Layout.distinct : Layout → Bool
  | .nil => true
  | .cons _ _ shape rest => shape.distinct && rest.distinct
end

theorem IntegerKind.toInt_bounds (kind : IntegerKind) (content : kind.Content) :
    kind.low ≤ kind.toInt content ∧ kind.toInt content ≤ kind.high := by
  cases kind with
  | word64 =>
    have := UInt64.toNat_lt content
    simp only [low,toInt,high]
    omega
  | word16 =>
    have := UInt16.toNat_lt content
    simp only [low,toInt,high]
    omega
  | size =>
    have := UInt64.toNat_lt content
    simp only [low,toInt,high]
    omega
  | signed64 =>
    have := Int64.le_toInt content
    have := Int64.toInt_lt content
    simp only [low,toInt,high]
    omega
  | signed32 =>
    have := Int32.le_toInt content
    have := Int32.toInt_lt content
    simp only [low,toInt,high]
    omega

theorem word_ofInt (word : UInt64) : UInt64.ofInt word.toNat = word := by
  have small : (word.toNat : Int) % 2 ^ 64 = word.toNat := by
    have := word.toNat_lt
    omega
  rw [UInt64.ofInt,small,Int.toNat_natCast,UInt64.ofNat_toNat]

theorem port_ofInt (port : UInt16) : UInt16.ofInt port.toNat = port := by
  have small : (port.toNat : Int) % 2 ^ 16 = port.toNat := by
    have := port.toNat_lt
    omega
  rw [UInt16.ofInt,small,Int.toNat_natCast,UInt16.ofNat_toNat]

theorem IntegerKind.ofInt_toInt (kind : IntegerKind) (content : kind.Content) :
    kind.ofInt (kind.toInt content) = content := by
  cases kind with
  | word64 => exact word_ofInt content
  | word16 => exact port_ofInt content
  | size => exact word_ofInt content
  | signed64 => exact Int64.ofInt_toInt content
  | signed32 => exact Int32.ofInt_toInt content

-- Storing never rounds, clips or wraps: what was stored is stored again.
theorem IntegerKind.store_toInt (kind : IntegerKind) (content : kind.Content) :
    kind.store (kind.toInt content) = some content := by
  rw [store,if_pos (kind.toInt_bounds content),kind.ofInt_toInt]

theorem word_toInt (value : Int) (low : 0 ≤ value) (high : value ≤ 18446744073709551615) :
    ((UInt64.ofInt value).toNat : Int) = value := by
  have small : value % 2 ^ 64 = value := by omega
  have size : UInt64.size = 18446744073709551616 := rfl
  have fits : value.toNat < UInt64.size := by omega
  rw [UInt64.ofInt,small,UInt64.toNat_ofNat_of_lt' fits]
  omega

theorem port_toInt (value : Int) (low : 0 ≤ value) (high : value ≤ 65535) :
    ((UInt16.ofInt value).toNat : Int) = value := by
  have small : value % 2 ^ 16 = value := by omega
  have size : UInt16.size = 65536 := rfl
  have fits : value.toNat < UInt16.size := by omega
  rw [UInt16.ofInt,small,UInt16.toNat_ofNat_of_lt' fits]
  omega

theorem IntegerKind.toInt_ofInt (kind : IntegerKind) (value : Int) (low : kind.low ≤ value) (high : value ≤ kind.high) :
    kind.toInt (kind.ofInt value) = value := by
  cases kind with
  | word64 | size => exact word_toInt value low high
  | word16 => exact port_toInt value low high
  | signed64 =>
    simp only [IntegerKind.low,IntegerKind.high] at low high
    exact Int64.toInt_ofInt_of_le (by omega) (by omega)
  | signed32 =>
    simp only [IntegerKind.low,IntegerKind.high] at low high
    exact Int32.toInt_ofInt_of_le (by omega) (by omega)

-- What is stored is the number that was written and no other.
theorem IntegerKind.store_ok {kind : IntegerKind} {value : Int} {content : kind.Content} :
    kind.store value = some content ↔ kind.toInt content = value := by
  constructor
  · intro stored
    unfold store at stored
    split at stored
    · cases stored
      exact kind.toInt_ofInt value (And.left ‹_›) (And.right ‹_›)
    · cases stored
  · rintro rfl
    exact kind.store_toInt content

theorem Shape.written_present : (shape : Shape) → {content : shape.Content} → {tree : Value} →
    shape.Written content tree → tree ≠ .null
  | .optional inner,_,_,written => by
    simp only [Written] at written
    obtain ⟨held,-,written⟩ := written
    exact inner.written_present written
  | .real,_,_,written => by
    simp only [Written] at written
    obtain ⟨-,rfl⟩ := written
    rintro ⟨⟩
  | .list _,_,_,written => by
    simp only [Written] at written
    obtain ⟨items,rfl,-⟩ := written
    rintro ⟨⟩
  | .record _ _,_,_,written => by
    simp only [Written] at written
    obtain ⟨rows,rfl,-⟩ := written
    rintro ⟨⟩
  | .integer _,_,_,written | .flag,_,_,written | .text,_,_,written | .path,_,_,written
  | .counts,_,_,written | .metadata,_,_,written => by
    simp only [Written] at written
    subst written
    rintro ⟨⟩

theorem Shape.decode_present (inner : Shape) (format : DocumentFormat) {node : Node}
    (read : node.value = .ok tree) (present : tree ≠ .null) :
    Shape.decode format (.optional inner) node = (inner.decode format node).map some := by
  cases node with
  | scalar span content =>
    cases Node.value_scalar.mp read
    cases content with
    | null => exact absurd rfl present
    | _ => rfl
  | _ => rfl

def Layout.fill (layout : Layout) (format : DocumentFormat) (unknown : String → Nat → Refusal)
    (slots : layout.Slots) (row : String × Nat × Node) : Except Refusal layout.Slots :=
  layout.decodeField format (unknown row.1 row.2.1) row.1 row.2.1 row.2.2 slots

def Layout.Slots.cons {name : String} {required : Bool} {shape : Shape} {rest : Layout}
    (slot : Option shape.Content) (slots : rest.Slots) : (Layout.cons name required shape rest).Slots := (slot,slots)

theorem Layout.fill_behind {name : String} {required : Bool} {shape : Shape} {rest : Layout}
    (format : DocumentFormat) (unknown : String → Nat → Refusal) (slot : Option shape.Content)
    (rows : List (String × Nat × Node)) (others : ∀ row ∈ rows,row.1 ≠ name) (slots : rest.Slots) :
    rows.foldlM ((Layout.cons name required shape rest).fill format unknown) (.cons slot slots) =
      (rows.foldlM (rest.fill format unknown) slots).map (.cons slot) := by
  induction rows generalizing slots with
  | nil => rfl
  | cons row rows ih =>
    obtain ⟨different,others⟩ := List.forall_mem_cons.mp others
    have passed : (Layout.cons name required shape rest).fill format unknown (.cons slot slots) row =
        (rest.fill format unknown slots row).map (.cons slot) := by
      simp only [fill,Slots.cons,decodeField,if_neg different]
      rfl
    rw [List.foldlM_cons,List.foldlM_cons,passed]
    cases rest.fill format unknown slots row with
    | error reason => rfl
    | ok next => exact ih others next

theorem Layout.written_sublist : (layout : Layout) → {content : layout.Content} → {pairs : List (String × Value)} →
    layout.Written content pairs → (pairs.map Prod.fst).Sublist layout.names
  | .nil,_,_,written => by
    simp only [Written] at written
    subst written
    exact .slnil
  | .cons name required shape rest,(first,others),pairs,written => by
    simp only [Written] at written
    rcases written with ⟨tree,more,rfl,-,written⟩ | ⟨-,-,written⟩
    · exact (rest.written_sublist written).cons_cons name
    · exact (rest.written_sublist written).cons name

theorem Layout.written_names (layout : Layout) {content : layout.Content} {pairs : List (String × Value)}
    (written : layout.Written content pairs) : ∀ pair ∈ pairs,pair.1 ∈ layout.names :=
  fun _ member => (layout.written_sublist written).subset (List.mem_map_of_mem member)

theorem mapM_written {written : α → Value → Prop} {decode : Node → Except Refusal α}
    (each : ∀ {content tree node},written content tree → node.value = .ok tree → decode node = .ok content)
    (contents : List α) (trees : List Value) (all : List.Forall₂ written contents trees) (items : List Node)
    (read : Node.values items = .ok trees) : items.mapM decode = .ok contents := by
  induction all generalizing items with
  | nil =>
    cases items with
    | nil => rfl
    | cons item items =>
      obtain ⟨_,_,-,-,same⟩ := Node.values_cons.mp read
      cases same
  | cons first _ ih =>
    cases items with
    | nil => cases read
    | cons item items =>
      obtain ⟨_,_,found,others,same⟩ := Node.values_cons.mp read
      cases same
      rw [List.mapM_cons,each first found,ih items others]
      rfl

theorem Node.asInteger_written (kind : IntegerKind) (content : kind.Content) {node : Node}
    (read : node.value = .ok (.integer (kind.toInt content))) : node.asInteger kind = .ok content := by
  obtain ⟨span,rfl⟩ := of_scalar read
  rw [asInteger,kind.store_toInt]

def Node.count (row : String × Nat × Node) : Except Refusal (String × Int64) := do
  let count ← asInteger .signed64 row.2.2
  return (row.1,(count : Int64))

theorem Node.counts_written (entries : List (String × Int64)) (rows : List (String × Nat × Node))
    (read : rowValues rows = .ok (entries.map fun row => (row.1,signedValue row.2))) :
    rows.mapM count = .ok entries := by
  induction entries generalizing rows with
  | nil =>
    cases rows with
    | nil => rfl
    | cons row rows =>
      obtain ⟨_,_,-,-,same⟩ := rowValues_cons.mp read
      cases same
  | cons entry entries ih =>
    cases rows with
    | nil => cases read
    | cons row rows =>
      obtain ⟨key,entry⟩ := entry
      obtain ⟨name,offset,node⟩ := row
      obtain ⟨_,_,first,others,same⟩ := rowValues_cons.mp read
      cases same
      have counted : count (key,offset,node) = .ok (key,entry) := by
        rw [count,asInteger_written .signed64 entry first]
        rfl
      rw [List.mapM_cons,counted,ih rows others]
      rfl

theorem Node.asCounts_written (counts : Keyed Int64) {node : Node} (read : node.value = .ok (countsValue counts)) :
    node.asCounts = .ok counts := by
  obtain ⟨span,rows,rfl,found⟩ := of_table read
  show (rows.mapM count >>= fun rows => whole none >>= fun _ => pure (Keyed.ofRows rows)) = _
  rw [counts_written counts.rows rows found]
  exact congrArg Except.ok counts.ofRows_rows

theorem Node.asMetadata_written (metadata : Metadata) {node : Node} (read : node.value = .ok metadata.toValue) :
    node.asMetadata = .ok metadata := by
  obtain ⟨span,rows,rfl,found⟩ := Node.of_table read
  rw [asMetadata,found]
  exact congrArg Except.ok metadata.ofRows_rows

theorem Shape.decode_items (inner : Shape) (format : DocumentFormat) (span : Span) {items : List Node}
    {contents : List inner.Content} (read : items.mapM (inner.decode format) = .ok contents) :
    Shape.decode format (.list inner) (.list span items none) = .ok contents := by
  show (items.mapM (inner.decode format) >>= fun contents => Node.whole none >>= fun _ => pure contents) = _
  rw [read]
  rfl

theorem Shape.decode_rows (name : String) (layout : Layout) (format : DocumentFormat) (span : Span)
    {rows : List (String × Nat × Node)} {slots : layout.Slots} {content : layout.Content}
    (filled : rows.foldlM (layout.fill format fun key offset =>
      .mismatch (.unknownField key layout.names) offset) layout.unfilled = .ok slots)
    (complete : layout.complete slots = .ok content) :
    Shape.decode format (.record name layout) (.table span rows none) = .ok content := by
  show (rows.foldlM (layout.fill format fun key offset =>
      .mismatch (.unknownField key layout.names) offset) layout.unfilled >>= fun slots =>
    Node.whole none >>= fun _ =>
      (layout.complete slots).mapError fun missing => .mismatch (.missingField missing) span.stop) = _
  rw [filled]
  show (layout.complete slots).mapError _ = _
  rw [complete]
  rfl

theorem Layout.fill_first {name : String} {required : Bool} {shape : Shape} {rest : Layout}
    (format : DocumentFormat) (unknown : String → Nat → Refusal) (offset : Nat) {node : Node}
    {content : shape.Content} (read : shape.decode format node = .ok content) (slots : rest.Slots) :
    (Layout.cons name required shape rest).fill format unknown (.cons none slots) (name,offset,node) =
      .ok (.cons (some content) slots) := by
  simp only [fill,Slots.cons,decodeField,if_pos trivial,read]
  rfl

mutual
theorem Shape.decode_written (format : DocumentFormat) : (shape : Shape) → shape.distinct = true →
    ∀ {content : shape.Content} {tree : Value} {node : Node},shape.Written content tree →
      node.value = .ok tree → shape.decode format node = .ok content
  | .integer kind,_,content,_,_,written,read => by
    simp only [Shape.Written] at written
    subst written
    exact Node.asInteger_written kind content read
  | .real,_,_,_,_,written,read => by
    simp only [Shape.Written] at written
    obtain ⟨-,rfl⟩ := written
    obtain ⟨span,rfl⟩ := Node.of_scalar read
    rfl
  | .flag,_,_,_,_,written,read => by
    simp only [Shape.Written] at written
    subst written
    obtain ⟨span,rfl⟩ := Node.of_scalar read
    rfl
  | .text,_,_,_,_,written,read => by
    simp only [Shape.Written] at written
    subst written
    obtain ⟨span,rfl⟩ := Node.of_scalar read
    rfl
  | .path,_,_,_,_,written,read => by
    simp only [Shape.Written] at written
    subst written
    obtain ⟨span,rfl⟩ := Node.of_scalar read
    rfl
  | .optional inner,distinct,_,_,_,written,read => by
    simp only [Shape.Written] at written
    obtain ⟨held,rfl,written⟩ := written
    simp only [Shape.distinct] at distinct
    rw [inner.decode_present format read (inner.written_present written),
      inner.decode_written format distinct written read]
    rfl
  | .list inner,distinct,content,_,_,written,read => by
    simp only [Shape.Written] at written
    obtain ⟨trees,rfl,all⟩ := written
    simp only [Shape.distinct] at distinct
    obtain ⟨span,items,rfl,found⟩ := Node.of_list read
    have contents := mapM_written (fun written read => inner.decode_written format distinct written read)
      content trees all items found
    exact inner.decode_items format span contents
  | .counts,_,content,_,_,written,read => by
    simp only [Shape.Written] at written
    subst written
    exact Node.asCounts_written content read
  | .metadata,_,content,_,_,written,read => by
    simp only [Shape.Written] at written
    subst written
    exact Node.asMetadata_written content read
  | .record name layout,distinct,content,_,_,written,read => by
    simp only [Shape.Written] at written
    obtain ⟨pairs,rfl,written⟩ := written
    simp only [Shape.distinct,Bool.and_eq_true,decide_eq_true_eq] at distinct
    obtain ⟨span,rows,rfl,found⟩ := Node.of_table read
    obtain ⟨slots,filled,complete⟩ := layout.decode_written format
      (fun key offset => .mismatch (.unknownField key layout.names) offset) distinct.1 distinct.2 written found
    exact Shape.decode_rows name layout format span filled complete
theorem Layout.decode_written (format : DocumentFormat) (unknown : String → Nat → Refusal) : (layout : Layout) →
    layout.names.Nodup → layout.distinct = true →
    ∀ {content : layout.Content} {pairs : List (String × Value)} {rows : List (String × Nat × Node)},
      layout.Written content pairs → Node.rowValues rows = .ok pairs →
      ∃ slots,rows.foldlM (layout.fill format unknown) layout.unfilled = .ok slots ∧
        layout.complete slots = .ok content
  | .nil,_,_,_,_,rows,written,read => by
    simp only [Layout.Written] at written
    subst written
    have none' := Node.rowValues_names read
    cases rows with
    | nil => exact ⟨(),rfl,rfl⟩
    | cons row rows => cases none'
  | .cons name required shape rest,apart,distinct,(first,others),pairs,rows,written,read => by
    simp only [Layout.names,List.nodup_cons] at apart
    simp only [Layout.distinct,Bool.and_eq_true] at distinct
    have behind : ∀ {rows : List (String × Nat × Node)} {pairs},Node.rowValues rows = .ok pairs →
        rest.Written others pairs → ∀ row ∈ rows,row.1 ≠ name := by
      intro rows pairs read written row member same
      have named : row.1 ∈ pairs.map Prod.fst := Node.rowValues_names read ▸ List.mem_map_of_mem member
      obtain ⟨pair,present,equal⟩ := List.mem_map.mp named
      exact apart.1 (same ▸ equal ▸ rest.written_names written pair present)
    simp only [Layout.Written] at written
    rcases written with ⟨tree,more,rfl,here,written⟩ | ⟨optional,blank,written⟩
    · cases rows with
      | nil => cases read
      | cons row rows =>
        obtain ⟨key,offset,node⟩ := row
        obtain ⟨_,_,found,read,same⟩ := Node.rowValues_cons.mp read
        cases same
        obtain ⟨slots,filled,complete⟩ := rest.decode_written format unknown apart.2 distinct.2 written read
        have first' := shape.decode_written format distinct.1 here found
        refine ⟨.cons (some first) slots,?_,?_⟩
        · show List.foldlM _ (Layout.Slots.cons none rest.unfilled) _ = _
          rw [List.foldlM_cons,Layout.fill_first format unknown offset first']
          show List.foldlM _ (Layout.Slots.cons (some first) rest.unfilled) rows = _
          rw [Layout.fill_behind format unknown (some first) rows (behind read written),filled]
          rfl
        · simp only [Layout.complete,Layout.Slots.cons,complete]
          rfl
    · obtain ⟨slots,filled,complete⟩ := rest.decode_written format unknown apart.2 distinct.2 written read
      refine ⟨.cons none slots,?_,?_⟩
      · show List.foldlM _ (Layout.Slots.cons none rest.unfilled) _ = _
        rw [Layout.fill_behind format unknown none rows (behind read written),filled]
        rfl
      · subst optional blank
        simp only [Layout.complete,Layout.Slots.cons,complete]
        rfl
end

theorem IntegerKind.toInt_settled (kind : IntegerKind) (content : kind.Content) :
    (Scalar.integer (kind.toInt content)).Settled := by
  obtain ⟨low,high⟩ := kind.toInt_bounds content
  simp only [Scalar.Settled]
  cases kind <;> simp only [IntegerKind.low,IntegerKind.high] at low high <;> omega

theorem countsValue_settled (counts : Keyed Int64) : ∀ atom ∈ (countsValue counts).scalars,atom.Settled := by
  simp only [countsValue,Value.scalars]
  induction counts.rows with
  | nil => simp only [List.map_nil,Value.rowsScalars,List.not_mem_nil,false_implies,implies_true]
  | cons row rows ih =>
    simp only [List.map_cons,Value.rowsScalars,List.forall_mem_append,signedValue,Value.integer,Value.scalars,
      List.mem_singleton,forall_eq]
    exact ⟨IntegerKind.toInt_settled .signed64 row.2,ih⟩

theorem itemsScalars_settled {written : α → Value → Prop} {contents : List α}
    (all : List.Forall₂ written contents trees)
    (each : ∀ {content tree},written content tree → ∀ atom ∈ tree.scalars,atom.Settled) :
    ∀ atom ∈ Value.itemsScalars trees,atom.Settled := by
  induction all with
  | nil => simp only [Value.itemsScalars,List.not_mem_nil,false_implies,implies_true]
  | cons first _ ih =>
    simp only [Value.itemsScalars,List.forall_mem_append]
    exact ⟨each first,ih⟩

mutual
theorem Shape.written_settled : (shape : Shape) → ∀ {content : shape.Content} {tree : Value},
    shape.Written content tree → ∀ atom ∈ tree.scalars,atom.Settled
  | .integer kind,content,_,written => by
    simp only [Shape.Written] at written
    simp only [written,Value.integer,Value.scalars,List.mem_singleton,forall_eq]
    exact kind.toInt_settled content
  | .real,_,_,written => by
    simp only [Shape.Written] at written
    simp only [written.2,Value.real,Value.scalars,List.mem_singleton,forall_eq]
    exact written.1
  | .flag,_,_,written | .text,_,_,written | .path,_,_,written => by
    simp only [Shape.Written] at written
    simp only [written,Value.flag,Value.text,Value.scalars,List.mem_singleton,forall_eq]
    exact trivial
  | .optional inner,_,_,written => by
    simp only [Shape.Written] at written
    obtain ⟨held,-,written⟩ := written
    exact inner.written_settled written
  | .list inner,_,_,written => by
    simp only [Shape.Written] at written
    obtain ⟨trees,rfl,all⟩ := written
    simp only [Value.scalars]
    exact itemsScalars_settled all fun written => inner.written_settled written
  | .counts,content,_,written => by
    simp only [Shape.Written] at written
    subst written
    exact countsValue_settled content
  | .metadata,content,_,written => by
    simp only [Shape.Written] at written
    subst written
    exact Value.settled_scalars _ (Metadata.settled content)
  | .record _ layout,_,_,written => by
    simp only [Shape.Written] at written
    obtain ⟨pairs,rfl,written⟩ := written
    simp only [Value.scalars]
    exact layout.written_settled written
theorem Layout.written_settled : (layout : Layout) → ∀ {content : layout.Content}
    {pairs : List (String × Value)},layout.Written content pairs → ∀ atom ∈ Value.rowsScalars pairs,atom.Settled
  | .nil,_,_,written => by
    simp only [Layout.Written] at written
    simp only [written,Value.rowsScalars,List.not_mem_nil,false_implies,implies_true]
  | .cons name required shape rest,(first,others),_,written => by
    simp only [Layout.Written] at written
    rcases written with ⟨tree,more,rfl,here,written⟩ | ⟨-,-,written⟩
    · simp only [Value.rowsScalars,List.forall_mem_append]
      exact ⟨shape.written_settled here,rest.written_settled written⟩
    · exact rest.written_settled written
end

end LedgerSettings
