import LedgerSettings.Proofs.Json.Reader

namespace LedgerSettings.Json

-- A value was read in full, and reading goes on before the text that follows it.
def Reads (reading : Reading Node) (tree : Value) (more : List Char) : Prop :=
  reading.value.value = .ok tree ∧ ∃ stop,reading.stop = some stop ∧ stop.Before more

def ItemsRead (rows : Rows Node) (items : List Value) (more : List Char) : Prop :=
  Node.values rows.rows = .ok items ∧ rows.broken = none ∧ ∃ stop,rows.stop = some stop ∧ stop.Before more

def RowsRead (rows : Rows (String × Nat × Node)) (pairs : List (String × Value)) (more : List Char) : Prop :=
  Node.rowValues rows.rows = .ok pairs ∧ rows.broken = none ∧ ∃ stop,rows.stop = some stop ∧ stop.Before more

theorem skipBlanks_again (here : Cursor) : here.skipBlanks.skipBlanks = here.skipBlanks := by
  obtain ⟨-,-,-,visible⟩ := skipBlanksFrom_cases here.rest here.offset
  rw [← Cursor.skipBlanks] at visible
  generalize here.skipBlanks = there at visible ⊢
  obtain ⟨rest,offset⟩ := there
  cases rest with
  | nil => rfl
  | cons head rest => simp [Cursor.skipBlanks,Cursor.skipBlanksFrom,visible head rfl]

theorem readNode_skip (fuel depth : Nat) (here : Cursor) :
    readNode (fuel + 1) depth here.skipBlanks = readNode (fuel + 1) depth here := by
  rw [readNode.eq_def,readNode.eq_def (fuel + 1) depth here]
  simp only [skipBlanks_again]

-- Where a value was read to its end the text opens with neither closing bracket.
theorem readNode_opens {here : Cursor} (stopped : (readNode (fuel + 1) depth here).stop = some stop) :
    ∃ head text offset,here.skipBlanks = ⟨head :: text,offset⟩ ∧ head ≠ ']' ∧ head ≠ '\x7d' := by
  rw [readNode.eq_def] at stopped
  rcases skipped : here.skipBlanks with ⟨rest,offset⟩
  simp only [skipped] at stopped
  cases rest with
  | nil => cases stopped
  | cons head text =>
    refine ⟨head,text,offset,rfl,?_,?_⟩ <;> rintro rfl <;> cases stopped

theorem readItems_close {here : Cursor} (skipped : here.skipBlanks = ⟨']' :: text,offset⟩) :
    readItems (fuel + 1) depth first here = .closed ⟨text,offset + ']'.utf8Size⟩ := by
  rw [readItems]
  simp only [skipped,Cursor.next]

theorem readItem_stopped {here : Cursor} (stopped : (readNode fuel depth here).stop = some stop) :
    readItem (fuel + 1) depth here = .cons (readNode fuel depth here).value (readItems fuel depth false stop) := by
  rw [readItem]
  simp only [stopped]

theorem readItems_first {here : Cursor} (stopped : (readNode (fuel + 1) depth here).stop = some stop) :
    readItems (fuel + 3) depth true here =
      .cons (readNode (fuel + 1) depth here).value (readItems (fuel + 1) depth false stop) := by
  obtain ⟨head,text,offset,skipped,open',-⟩ := readNode_opens stopped
  rw [← readNode_skip] at stopped ⊢
  rw [← readItem_stopped stopped,readItems]
  simp only [skipped,↓reduceIte]

theorem readItems_next {here : Cursor} (skipped : here.skipBlanks = ⟨',' :: text,offset⟩)
    (stopped : (readNode (fuel + 1) depth ⟨text,offset + ','.utf8Size⟩).stop = some stop) :
    readItems (fuel + 3) depth false here =
      .cons (readNode (fuel + 1) depth ⟨text,offset + ','.utf8Size⟩).value
        (readItems (fuel + 1) depth false stop) := by
  obtain ⟨head,text',offset',skipped',open',-⟩ := readNode_opens stopped
  rw [← readNode_skip] at stopped ⊢
  rw [← readItem_stopped stopped,readItems]
  simp [skipped,skipped',Cursor.next,open']

theorem readRows_close {here : Cursor} (skipped : here.skipBlanks = ⟨'\x7d' :: text,offset⟩) :
    readRows (fuel + 1) depth first here = .closed ⟨text,offset + '\x7d'.utf8Size⟩ := by
  rw [readRows]
  simp only [skipped,Cursor.next]

theorem readColon_exact (colon : stop.skipBlanks = ⟨':' :: text,offset⟩) :
    readColon stop = .ok ⟨text,offset + ':'.utf8Size⟩ := by
  simp only [readColon,colon,Cursor.next]

theorem readRow_stopped (key : readText ⟨text,offset + '"'.utf8Size⟩ = .ok (name,behind))
    (colon : readColon behind = .ok there) (stopped : (readNode fuel depth there).stop = some stop) :
    readRow (fuel + 1) depth ⟨'"' :: text,offset⟩ =
      .cons (name,behindKey behind,(readNode fuel depth there).value) (readRows fuel depth false stop) := by
  rw [readRow]
  simp only [Cursor.next,key,colon,stopped]

theorem readRows_first {here : Cursor} (skipped : here.skipBlanks = ⟨'"' :: text,offset⟩) :
    readRows (fuel + 1) depth true here = readRow fuel depth ⟨'"' :: text,offset⟩ := by
  rw [readRows]
  simp only [skipped,↓reduceIte]
  rfl

theorem readRows_next {here : Cursor} (skipped : here.skipBlanks = ⟨',' :: text,offset⟩) :
    readRows (fuel + 1) depth false here =
      readRow fuel depth (Cursor.skipBlanks ⟨text,offset + ','.utf8Size⟩) := by
  rw [readRows]
  simp only [skipped,Cursor.next,Bool.false_eq_true,↓reduceIte]
  rfl

theorem list_reads {here : Cursor} (before : here.Before ('[' :: text))
    (items : ∀ there : Cursor,there.Before text → ItemsRead (readItems fuel depth true there) contents more) :
    Reads (readNode (fuel + 1) (depth + 1) here) (.list contents) more := by
  obtain ⟨start,skipped⟩ := skipBlanks_head before (by decide)
  obtain ⟨found,whole,stopped⟩ := items _ (before_self text (start + '['.utf8Size))
  rw [readNode.eq_def]
  simp only [skipped,Cursor.next]
  exact ⟨Node.value_list.mpr ⟨contents,found,whole,rfl⟩,stopped⟩

theorem table_reads {here : Cursor} (before : here.Before ('\x7b' :: text))
    (rows : ∀ there : Cursor,there.Before text → RowsRead (readRows fuel depth true there) contents more) :
    Reads (readNode (fuel + 1) (depth + 1) here) (.table contents) more := by
  obtain ⟨start,skipped⟩ := skipBlanks_head before (by decide)
  obtain ⟨found,whole,stopped⟩ := rows _ (before_self text (start + '\x7b'.utf8Size))
  rw [readNode.eq_def]
  simp only [skipped,Cursor.next]
  exact ⟨Node.value_table.mpr ⟨contents,found,whole,rfl⟩,stopped⟩

theorem items_close {here : Cursor} (before : here.Before (']' :: more)) :
    ItemsRead (readItems (fuel + 1) depth first here) [] more := by
  obtain ⟨start,skipped⟩ := skipBlanks_head before (by decide)
  rw [readItems_close skipped]
  exact ⟨rfl,rfl,_,rfl,before_self _ _⟩

theorem rows_close {here : Cursor} (before : here.Before ('\x7d' :: more)) :
    RowsRead (readRows (fuel + 1) depth first here) [] more := by
  obtain ⟨start,skipped⟩ := skipBlanks_head before (by decide)
  rw [readRows_close skipped]
  exact ⟨rfl,rfl,_,rfl,before_self _ _⟩

theorem items_first {here : Cursor} (first : Reads (readNode (fuel + 1) depth here) item text)
    (others : ∀ there : Cursor,there.Before text → ItemsRead (readItems (fuel + 1) depth false there) items more) :
    ItemsRead (readItems (fuel + 3) depth true here) (item :: items) more := by
  obtain ⟨found,stop,stopped,before⟩ := first
  obtain ⟨rest,whole,closed⟩ := others stop before
  rw [readItems_first stopped]
  exact ⟨Node.values_cons.mpr ⟨item,items,found,rest,rfl⟩,whole,closed⟩

theorem items_next {here : Cursor} (before : here.Before (',' :: text))
    (first : ∀ there : Cursor,there.Before text → Reads (readNode (fuel + 1) depth there) item behind)
    (others : ∀ there : Cursor,there.Before behind → ItemsRead (readItems (fuel + 1) depth false there) items more) :
    ItemsRead (readItems (fuel + 3) depth false here) (item :: items) more := by
  obtain ⟨start,skipped⟩ := skipBlanks_head before (by decide)
  obtain ⟨found,stop,stopped,before⟩ := first _ (before_self text (start + ','.utf8Size))
  obtain ⟨rest,whole,closed⟩ := others stop before
  rw [readItems_next skipped stopped]
  exact ⟨Node.values_cons.mpr ⟨item,items,found,rest,rfl⟩,whole,closed⟩

theorem row_reads {body : List Char} (spacing : Spacing)
    (opened : quote key ++ (spacing.colon ++ text) = '"' :: body) (offset : Nat)
    (first : ∀ there : Cursor,there.Before text → Reads (readNode fuel depth there) tree behind)
    (others : ∀ there : Cursor,there.Before behind → RowsRead (readRows fuel depth false there) rows more) :
    RowsRead (readRow (fuel + 1) depth ⟨'"' :: body,offset⟩) ((key,tree) :: rows) more := by
  obtain ⟨body',after,opened',name⟩ := readText_quote key (spacing.colon ++ text) (offset + '"'.utf8Size)
  rw [opened] at opened'
  cases opened'
  have colon : ∃ blanks,(∀ c ∈ blanks,Cursor.isBlank c = true) ∧
      spacing.colon ++ text = ':' :: (blanks ++ text) := by
    unfold Spacing.colon
    split
    · exact ⟨[' '],List.forall_mem_singleton.mpr rfl,rfl⟩
    · exact ⟨[],List.forall_mem_nil _,rfl⟩
  obtain ⟨blanks,every,colon⟩ := colon
  rw [colon] at name
  obtain ⟨place,skipped⟩ := skipBlanks_head (before_self (':' :: (blanks ++ text)) after) (by decide)
  obtain ⟨found,stop,stopped,before⟩ := first ⟨blanks ++ text,place + ':'.utf8Size⟩ ⟨blanks,every,rfl⟩
  obtain ⟨rest,whole,closed⟩ := others stop before
  rw [readRow_stopped name (readColon_exact skipped) stopped]
  exact ⟨Node.rowValues_cons.mpr ⟨tree,rows,found,rest,rfl⟩,whole,closed⟩

theorem rows_first {here : Cursor} (spacing : Spacing)
    (before : here.Before (quote key ++ (spacing.colon ++ text)))
    (first : ∀ there : Cursor,there.Before text → Reads (readNode fuel depth there) tree behind)
    (others : ∀ there : Cursor,there.Before behind → RowsRead (readRows fuel depth false there) rows more) :
    RowsRead (readRows (fuel + 2) depth true here) ((key,tree) :: rows) more := by
  obtain ⟨body,-,opened,-⟩ := readText_quote key (spacing.colon ++ text) 0
  rw [opened] at before
  obtain ⟨start,skipped⟩ := skipBlanks_head before (by decide)
  rw [readRows_first skipped]
  exact row_reads spacing opened start first others

theorem rows_next {here : Cursor} (spacing : Spacing) (before : here.Before (',' :: (blanks ++ opening)))
    (every : ∀ c ∈ blanks,Cursor.isBlank c = true) (key' : opening = quote key ++ (spacing.colon ++ text))
    (first : ∀ there : Cursor,there.Before text → Reads (readNode fuel depth there) tree behind)
    (others : ∀ there : Cursor,there.Before behind → RowsRead (readRows fuel depth false there) rows more) :
    RowsRead (readRows (fuel + 2) depth false here) ((key,tree) :: rows) more := by
  obtain ⟨body,-,opened,-⟩ := readText_quote key (spacing.colon ++ text) 0
  obtain ⟨comma,skipped⟩ := skipBlanks_head before (by decide)
  have inner : Cursor.Before ⟨blanks ++ opening,comma + ','.utf8Size⟩ ('"' :: body) :=
    ⟨blanks,every,by rw [key',opened]⟩
  obtain ⟨start,skipped'⟩ := skipBlanks_head inner (by decide)
  rw [readRows_next skipped,skipped']
  exact row_reads spacing opened start first others

theorem ends_cons (plain : carriesOn head = false) : Ends (head :: more) := by
  rintro _ ⟨⟩
  exact plain

theorem newline_ends (spacing : Spacing) (level : Nat) (plain : carriesOn head = false) :
    Ends (spacing.newline level ++ head :: more) := by
  unfold Spacing.newline
  split
  · exact ends_cons (by decide)
  · exact ends_cons plain

theorem printItems_ends (spacing : Spacing) (level low : Nat) (items : List Value) :
    Ends (printItems spacing level items ++ (spacing.newline low ++ ']' :: more)) := by
  cases items with
  | nil => simpa only [printItems,List.nil_append] using newline_ends spacing low (by decide)
  | cons item rest => simpa only [printItems,List.cons_append] using ends_cons (by decide)

theorem printRows_ends (spacing : Spacing) (level low : Nat) (rows : List (String × Value)) :
    Ends (printRows spacing level rows ++ (spacing.newline low ++ '\x7d' :: more)) := by
  cases rows with
  | nil => simpa only [printRows,List.nil_append] using newline_ends spacing low (by decide)
  | cons row rest => simpa only [printRows,List.cons_append] using ends_cons (by decide)

-- The fuel a value takes: a list or table one round of its own, each part of it
-- two more.
mutual
def cost : Value → Nat
  | .scalar _ => 1
  | .list items => itemsCost items + 1
  | .table rows => rowsCost rows + 1
def itemsCost : List Value → Nat
  | [] => 1
  | item :: rest => max (cost item) (itemsCost rest) + 2
def rowsCost : List (String × Value) → Nat
  | [] => 1
  | row :: rest => max (cost row.2) (rowsCost rest) + 2
end

theorem cost_positive (tree : Value) : 0 < cost tree := by
  cases tree <;> simp only [cost] <;> omega

mutual
theorem print_reads (spacing : Spacing) : (tree : Value) → ∀ {fuel depth level here more},
    cost tree ≤ fuel → tree.height ≤ depth → (∀ content ∈ tree.scalars,InPlace content) → Ends more →
    Cursor.Before here (print spacing level tree ++ more) → Reads (readNode fuel depth here) tree more
  | .scalar content,fuel,depth,level,here,more,fuelled,_,atoms,ends,before => by
    obtain ⟨fuel,rfl⟩ : ∃ rest,fuel = rest + 1 := ⟨fuel - 1,by simp only [cost] at fuelled; omega⟩
    simp only [print] at before
    obtain ⟨span,stop,read,behind⟩ := atoms content (by simp [Value.scalars]) fuel depth ends before
    rw [read]
    exact ⟨rfl,stop,rfl,behind⟩
  | .list [],fuel,depth,level,here,more,fuelled,nested,_,_,before => by
    simp only [cost,itemsCost,Value.height,Value.itemsHeight] at fuelled nested
    obtain ⟨fuel,rfl⟩ : ∃ rest,fuel = rest + 2 := ⟨fuel - 2,by omega⟩
    obtain ⟨depth,rfl⟩ : ∃ rest,depth = rest + 1 := ⟨depth - 1,by omega⟩
    simp only [print,List.cons_append,List.nil_append] at before
    exact list_reads before fun there inside => items_close inside
  | .list (item :: rest),fuel,depth,level,here,more,fuelled,nested,atoms,ends,before => by
    simp only [cost,itemsCost,Value.height,Value.itemsHeight] at fuelled nested
    have paid := cost_positive item
    obtain ⟨fuel,rfl⟩ : ∃ rest,fuel = rest + 4 := ⟨fuel - 4,by omega⟩
    obtain ⟨depth,rfl⟩ : ∃ rest,depth = rest + 1 := ⟨depth - 1,by omega⟩
    simp only [Value.scalars,Value.itemsScalars,List.forall_mem_append] at atoms
    simp only [print,List.cons_append,List.append_assoc,List.nil_append] at before
    refine list_reads before fun there inside => ?_
    have first : Reads (readNode (fuel + 1) depth there) item
        (printItems spacing (level + 1) rest ++ (spacing.newline level ++ ']' :: more)) :=
      print_reads spacing item (by omega) (by omega) atoms.1 (printItems_ends spacing (level + 1) level rest)
        (before_blank inside (newline_blank spacing (level + 1)))
    refine items_first first fun there inside => ?_
    exact printItems_reads spacing rest (by omega) (by omega) atoms.2 inside
  | .table [],fuel,depth,level,here,more,fuelled,nested,_,_,before => by
    simp only [cost,rowsCost,Value.height,Value.rowsHeight] at fuelled nested
    obtain ⟨fuel,rfl⟩ : ∃ rest,fuel = rest + 2 := ⟨fuel - 2,by omega⟩
    obtain ⟨depth,rfl⟩ : ∃ rest,depth = rest + 1 := ⟨depth - 1,by omega⟩
    simp only [print,List.cons_append,List.nil_append] at before
    exact table_reads before fun there inside => rows_close inside
  | .table ((key,value) :: rest),fuel,depth,level,here,more,fuelled,nested,atoms,ends,before => by
    simp only [cost,rowsCost,Value.height,Value.rowsHeight] at fuelled nested
    obtain ⟨fuel,rfl⟩ : ∃ rest,fuel = rest + 3 := ⟨fuel - 3,by omega⟩
    obtain ⟨depth,rfl⟩ : ∃ rest,depth = rest + 1 := ⟨depth - 1,by omega⟩
    simp only [Value.scalars,Value.rowsScalars,List.forall_mem_append] at atoms
    simp only [print,List.cons_append,List.append_assoc,List.nil_append] at before
    refine table_reads before fun there inside => ?_
    have first : ∀ there : Cursor,there.Before (print spacing (level + 1) value ++
          (printRows spacing (level + 1) rest ++ (spacing.newline level ++ '\x7d' :: more))) →
        Reads (readNode fuel depth there) value
          (printRows spacing (level + 1) rest ++ (spacing.newline level ++ '\x7d' :: more)) := fun there inside =>
      print_reads spacing value (by omega) (by omega) atoms.1 (printRows_ends spacing (level + 1) level rest) inside
    refine rows_first spacing (before_blank inside (newline_blank spacing (level + 1))) first fun there inside => ?_
    exact printRows_reads spacing rest (by omega) (by omega) atoms.2 inside
theorem printItems_reads (spacing : Spacing) : (items : List Value) → ∀ {fuel depth level low here more},
    itemsCost items ≤ fuel → Value.itemsHeight items ≤ depth →
    (∀ content ∈ Value.itemsScalars items,InPlace content) →
    Cursor.Before here (printItems spacing level items ++ (spacing.newline low ++ ']' :: more)) →
    ItemsRead (readItems fuel depth false here) items more
  | [],fuel,depth,level,low,here,more,fuelled,_,_,before => by
    simp only [itemsCost] at fuelled
    obtain ⟨fuel,rfl⟩ : ∃ rest,fuel = rest + 1 := ⟨fuel - 1,by omega⟩
    simp only [printItems,List.nil_append] at before
    exact items_close (before_blank before (newline_blank spacing low))
  | item :: rest,fuel,depth,level,low,here,more,fuelled,nested,atoms,before => by
    simp only [itemsCost,Value.itemsHeight,Nat.max_le] at fuelled nested
    have paid := cost_positive item
    obtain ⟨fuel,rfl⟩ : ∃ rest,fuel = rest + 3 := ⟨fuel - 3,by omega⟩
    simp only [Value.itemsScalars,List.forall_mem_append] at atoms
    simp only [printItems,List.cons_append,List.append_assoc] at before
    have first : ∀ there : Cursor,there.Before (spacing.newline level ++ (print spacing level item ++
          (printItems spacing level rest ++ (spacing.newline low ++ ']' :: more)))) →
        Reads (readNode (fuel + 1) depth there) item
          (printItems spacing level rest ++ (spacing.newline low ++ ']' :: more)) := fun there inside =>
      print_reads spacing item (by omega) nested.1 atoms.1 (printItems_ends spacing level low rest)
        (before_blank inside (newline_blank spacing level))
    refine items_next before first fun there inside => ?_
    exact printItems_reads spacing rest (by omega) nested.2 atoms.2 inside
theorem printRows_reads (spacing : Spacing) : (rows : List (String × Value)) → ∀ {fuel depth level low here more},
    rowsCost rows ≤ fuel → Value.rowsHeight rows ≤ depth →
    (∀ content ∈ Value.rowsScalars rows,InPlace content) →
    Cursor.Before here (printRows spacing level rows ++ (spacing.newline low ++ '\x7d' :: more)) →
    RowsRead (readRows fuel depth false here) rows more
  | [],fuel,depth,level,low,here,more,fuelled,_,_,before => by
    simp only [rowsCost] at fuelled
    obtain ⟨fuel,rfl⟩ : ∃ rest,fuel = rest + 1 := ⟨fuel - 1,by omega⟩
    simp only [printRows,List.nil_append] at before
    exact rows_close (before_blank before (newline_blank spacing low))
  | (key,value) :: rest,fuel,depth,level,low,here,more,fuelled,nested,atoms,before => by
    simp only [rowsCost,Value.rowsHeight,Nat.max_le] at fuelled nested
    obtain ⟨fuel,rfl⟩ : ∃ rest,fuel = rest + 2 := ⟨fuel - 2,by omega⟩
    simp only [Value.rowsScalars,List.forall_mem_append] at atoms
    simp only [printRows,List.cons_append,List.append_assoc] at before
    have first : ∀ there : Cursor,there.Before (print spacing level value ++
          (printRows spacing level rest ++ (spacing.newline low ++ '\x7d' :: more))) →
        Reads (readNode fuel depth there) value
          (printRows spacing level rest ++ (spacing.newline low ++ '\x7d' :: more)) := fun there inside =>
      print_reads spacing value (by omega) nested.1 atoms.1 (printRows_ends spacing level low rest) inside
    refine rows_next spacing before (newline_blank spacing level) rfl first fun there inside => ?_
    exact printRows_reads spacing rest (by omega) nested.2 atoms.2 inside
end

-- Three times the length of a printed value is fuel enough to read it.
mutual
theorem cost_bounded (spacing : Spacing) : (tree : Value) → ∀ level,
    cost tree ≤ 3 * (print spacing level tree).length + 1
  | .scalar _,level => by simp only [cost]; omega
  | .list [],level => by simp only [cost,itemsCost,print,List.length_cons]; omega
  | .list (item :: rest),level => by
    have first := cost_bounded spacing item (level + 1)
    have others := itemsCost_bounded spacing rest (level + 1)
    simp only [cost,itemsCost,print,List.length_cons,List.length_append]
    omega
  | .table [],level => by simp only [cost,rowsCost,print,List.length_cons]; omega
  | .table ((key,value) :: rest),level => by
    have first := cost_bounded spacing value (level + 1)
    have others := rowsCost_bounded spacing rest (level + 1)
    simp only [cost,rowsCost,print,List.length_cons,List.length_append]
    omega
theorem itemsCost_bounded (spacing : Spacing) : (items : List Value) → ∀ level,
    itemsCost items ≤ 3 * (printItems spacing level items).length + 1
  | [],level => by simp only [itemsCost]; omega
  | item :: rest,level => by
    have first := cost_bounded spacing item level
    have others := itemsCost_bounded spacing rest level
    simp only [itemsCost,printItems,List.length_cons,List.length_append]
    omega
theorem rowsCost_bounded (spacing : Spacing) : (rows : List (String × Value)) → ∀ level,
    rowsCost rows ≤ 3 * (printRows spacing level rows).length + 1
  | [],level => by simp only [rowsCost]; omega
  | (key,value) :: rest,level => by
    have first := cost_bounded spacing value level
    have others := rowsCost_bounded spacing rest level
    simp only [rowsCost,printRows,List.length_cons,List.length_append]
    omega
end

theorem settled_inPlace (settled : content.Settled) (reals : ∀ real,content = .real real → ReadsBack (.real real)) :
    InPlace content := by
  cases content with
  | null => exact null_inPlace
  | flag value => exact flag_inPlace value
  | integer value => exact integer_inPlace value settled
  | real value => exact real_inPlace (reals value rfl)
  | text value => exact text_inPlace value

-- A tree of settled atoms comes back from its own document where its reals do and
-- it is not nested too deep.
theorem reads_back (tree : Value) (nested : tree.height ≤ deepest)
    (settled : ∀ content ∈ tree.scalars,content.Settled)
    (reals : ∀ real,.real real ∈ tree.scalars → ReadsBack (.real real)) : ReadsBack tree := by
  have atoms : ∀ content ∈ tree.scalars,InPlace content := fun content member =>
    settled_inPlace (settled content member) fun real same => reals real (same ▸ member)
  have length : (pretty tree).length = (print .pretty 0 tree).length := String.length_ofList
  have paid : cost tree ≤ 3 * (pretty tree).length + 3 := by
    have := cost_bounded .pretty tree 0
    omega
  have before : (Cursor.ofText (pretty tree)).Before (print .pretty 0 tree ++ []) :=
    ⟨[],by simp,by simp [Cursor.ofText,pretty]⟩
  have ends : Ends [] := by
    rintro head ⟨⟩
  obtain ⟨found,stop,stopped,behind⟩ := print_reads .pretty tree paid nested atoms ends before
  refine ⟨found,?_⟩
  simp only [readDocument,stopped,Option.bind_some,skipBlanks_nil behind]

end LedgerSettings.Json
