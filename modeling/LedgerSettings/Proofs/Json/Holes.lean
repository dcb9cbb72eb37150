import LedgerSettings.Proofs.Json.Outlook

namespace LedgerSettings

inductive Frame where
  | item (span : Span) (before after : List Node) (broken : Option Json.Break)
  | row (span : Span) (before : List (String × Nat × Node)) (key : String) (place : Nat)
      (after : List (String × Nat × Node)) (broken : Option Json.Break)

def Frame.around : Frame → Node → Node
  | .item span before after broken,node => .list span (before ++ node :: after) broken
  | .row span before key place after broken,node => .table span (before ++ (key,place,node) :: after) broken

def Node.inside (frames : List Frame) (node : Node) : Node := frames.foldr Frame.around node

namespace Json

-- What no atom opens with.
def structural : List Char := [' ','\n','\t','\r','[',']','\x7b','\x7d',',',':']

def Opens (text : List Char) : Prop := ∃ head more,text = head :: more ∧ head ∉ structural

theorem strange_visible (strange : head ∉ structural) : ¬ Cursor.isBlank head = true := by
  intro blank
  simp only [Cursor.isBlank,Bool.or_eq_true,decide_eq_true_eq] at blank
  rcases blank with ((rfl | rfl) | rfl) | rfl <;> exact strange (by decide)

theorem readAtom_opens {here : Cursor} (found : readAtom here = .ok (content,stop)) : Opens here.rest := by
  obtain ⟨text,offset⟩ := here
  cases text with
  | nil => cases found
  | cons head text =>
    refine ⟨head,text,rfl,fun member => ?_⟩
    simp only [structural,List.mem_cons,List.not_mem_nil,or_false] at member
    rcases member with rfl | rfl | rfl | rfl | rfl | rfl | rfl | rfl | rfl | rfl <;> cases found

-- Texts that open alike, or with an atom each.
def Akin (text other : List Char) : Prop := text.head? = other.head? ∨ Opens text ∧ Opens other

theorem Akin.plain (akin : Akin text (head :: other)) (plain : head ∈ structural) : text.head? = some head := by
  obtain alike | ⟨-,head',more,same,strange⟩ := akin
  · exact alike
  · cases same
    exact absurd plain strange

theorem Akin.behind (akin : Akin text other) (before : List Char) : Akin (before ++ text) (before ++ other) := by
  cases before with
  | nil => exact akin
  | cons => exact .inl rfl

theorem blanks_size {blanks : List Char} (every : ∀ c ∈ blanks,Cursor.isBlank c = true) : byteCount blanks = blanks.length := by
  induction blanks with
  | nil => rfl
  | cons blank blanks ih =>
    obtain ⟨first,others⟩ := List.forall_mem_cons.mp every
    rw [byteCount_cons,blank_size first,ih others,List.length_cons,Nat.add_comm]

theorem skipBlanks_akin (here : Cursor) : ∃ blanks,here.Passes blanks here.skipBlanks ∧
    ∀ more,Akin more here.skipBlanks.rest → Cursor.skipBlanks ⟨blanks ++ more,here.offset⟩ = ⟨more,here.skipBlanks.offset⟩ := by
  cases skipBlanks_steady here with
  | breaks found => cases found
  | @reads _ stop blanks found passes every again =>
    obtain ⟨-,rfl⟩ := Prod.mk.inj (Except.ok.inj found)
    refine ⟨blanks,passes,fun more akin => ?_⟩
    obtain alike | ⟨⟨head,more,rfl,strange⟩,-⟩ := akin
    · exact (Prod.mk.inj (Except.ok.inj (again more alike))).2
    · rw [Cursor.skipBlanks,skipBlanksFrom_exact blanks _ _ every,Cursor.skipBlanksFrom,if_neg (strange_visible strange),
        passes.offset,blanks_size every]

theorem Akin.differs (akin : Akin text (head :: other)) (differs : head ≠ c) (bracket : c ∈ structural) :
    ∃ head' more,text = head' :: more ∧ head' ≠ c := by
  obtain alike | ⟨⟨head',more,rfl,strange⟩,-⟩ := akin
  · obtain ⟨more,rfl⟩ := List.head?_eq_some_iff.mp alike
    exact ⟨head,more,rfl,differs⟩
  · refine ⟨head',more,rfl,?_⟩
    rintro rfl
    exact strange bracket

theorem ahead_akin {behind : Cursor → Except Break (Bool × Cursor)} (bracket : close ∈ structural)
    (again : ∀ {here stop : Cursor},behind here = .ok (true,stop) → stop = here ∧
      ∀ more,Akin more here.rest → behind ⟨more,here.offset⟩ = .ok (true,⟨more,here.offset⟩)) {here there : Cursor}
    (found : ahead close unfinished expected behind first here.skipBlanks = .ok (true,there)) :
    ∃ taken,here.Passes taken there ∧ ∀ more,Akin more there.rest →
      ahead close unfinished expected behind first (Cursor.skipBlanks ⟨taken ++ more,here.offset⟩) =
        .ok (true,⟨more,there.offset⟩) := by
  obtain ⟨blanks,passes,skips⟩ := skipBlanks_akin here
  generalize here.skipBlanks = middle at found passes skips
  obtain ⟨text,offset⟩ := middle
  cases text with
  | nil => cases found
  | cons head text =>
    unfold ahead at found
    dsimp only at found
    split_ifs at found with closed opening comma
    · cases found
    · cases found
      refine ⟨blanks,passes,fun more akin => ?_⟩
      rw [skips more akin]
      obtain ⟨head',more,rfl,differs⟩ := akin.differs closed bracket
      exact (if_neg differs).trans (if_pos opening)
    · subst comma
      obtain ⟨blanks',passes',skips'⟩ := skipBlanks_akin ⟨text,offset + ','.utf8Size⟩
      change behind (Cursor.skipBlanks ⟨text,offset + ','.utf8Size⟩) = _ at found
      generalize Cursor.skipBlanks ⟨text,offset + ','.utf8Size⟩ = behind' at found passes' skips'
      obtain ⟨rfl,onward⟩ := again found
      refine ⟨blanks ++ ',' :: blanks',passes.trans passes'.head,fun more akin => ?_⟩
      rw [List.append_assoc,List.cons_append,skips (',' :: (blanks' ++ more)) (.inl rfl)]
      have comma : ahead close unfinished expected behind first ⟨',' :: (blanks' ++ more),offset⟩ =
          behind (Cursor.skipBlanks ⟨blanks' ++ more,offset + ','.utf8Size⟩) :=
        (if_neg closed).trans ((if_neg opening).trans (if_pos rfl))
      rw [comma,skips' more akin]
      exact onward more akin

theorem nextItem_akin {here stop : Cursor} (found : nextItem here = .ok (true,stop)) : stop = here ∧
    ∀ more,Akin more here.rest → nextItem ⟨more,here.offset⟩ = .ok (true,⟨more,here.offset⟩) := by
  obtain ⟨text,offset⟩ := here
  cases text with
  | nil => cases found
  | cons head text =>
    unfold nextItem at found
    dsimp only at found
    split_ifs at found with closed
    cases found
    refine ⟨rfl,fun more akin => ?_⟩
    obtain ⟨head',more,rfl,differs⟩ := akin.differs closed (by decide)
    exact if_neg differs

theorem itemAhead_akin {here there : Cursor} (found : itemAhead first here = .ok (true,there)) :
    ∃ taken,here.Passes taken there ∧ ∀ more,Akin more there.rest →
      itemAhead first ⟨taken ++ more,here.offset⟩ = .ok (true,⟨more,there.offset⟩) :=
  ahead_akin (by decide) nextItem_akin found

theorem rowAhead_akin {here there : Cursor} (found : rowAhead first here = .ok (true,there)) :
    ∃ taken,here.Passes taken there ∧ ∀ more,Akin more there.rest →
      rowAhead first ⟨taken ++ more,here.offset⟩ = .ok (true,⟨more,there.offset⟩) := by
  refine ahead_akin (by decide) (fun {here stop} found => ?_) found
  cases found
  exact ⟨rfl,fun _ _ => rfl⟩

-- Behind an element no atom follows: what follows is a comma, if it is another element.
theorem ahead_separated {here there : Cursor}
    (found : ahead close unfinished expected behind false here.skipBlanks = .ok (true,there)) : ¬ Opens here.rest := by
  obtain ⟨text,offset⟩ := here
  rintro ⟨head,more,rfl,strange⟩
  have stays : Cursor.skipBlanks ⟨head :: more,offset⟩ = ⟨head :: more,offset⟩ := if_neg (strange_visible strange)
  rw [stays] at found
  simp only [ahead,Bool.false_eq_true,↓reduceIte] at found
  split_ifs at found with closed comma
  · cases found
  · subst comma
    exact strange (by decide)

-- A result in which a scalar was read at a span: what is read in place of the scalar,
-- within the same span, takes its place in the result, and nothing else changes.
inductive Refills (read : Cursor → ρ) (filled : Scalar → ρ) (span : Span) (first : Scalar) (here : Cursor) : Prop where
  | stands (rest : here.rest = before ++ literal ++ after) (start : span.start = here.offset + byteCount before)
      (found : readAtom ⟨literal ++ after,span.start⟩ = .ok (first,⟨after,span.stop⟩))
      (again : ∀ other second,readAtom ⟨other ++ after,span.start⟩ = .ok (second,⟨after,span.stop⟩) →
        read ⟨before ++ other ++ after,here.offset⟩ = filled second)

namespace Refills

variable {read other : Cursor → ρ} {filled : Scalar → ρ} {span : Span} {first : Scalar} {here middle : Cursor}

theorem after (refills : Refills other filled span first middle) (passes : here.Passes taken middle)
    (same : ∀ more,Akin more middle.rest → read ⟨taken ++ more,here.offset⟩ = other ⟨more,middle.offset⟩) :
    Refills read filled span first here := by
  cases refills with
  | @stands before literal after rest start found again =>
    have rest' : here.rest = (taken ++ before) ++ literal ++ after := by
      rw [passes.rest,rest]
      simp only [List.append_assoc]
    have start' : span.start = here.offset + byteCount (taken ++ before) := by
      rw [byteCount_append,← Nat.add_assoc,← passes.offset,start]
    refine .stands rest' start' found fun literal' second found' => ?_
    have akin : Akin (before ++ literal' ++ after) middle.rest := by
      rw [rest,List.append_assoc,List.append_assoc]
      exact Akin.behind (.inr ⟨readAtom_opens found',readAtom_opens found⟩) before
    rw [← again literal' second found',← same _ akin]
    simp only [List.append_assoc]

theorem told (refills : Refills read filled span first here) (told : ρ → τ) :
    Refills (fun there => told (read there)) (fun second => told (filled second)) span first here := by
  cases refills with
  | stands rest start found again => exact .stands rest start found fun literal second found' => congrArg told (again literal second found')

theorem filledAs {result : Scalar → ρ} (refills : Refills read filled span first here) (same : ∀ second,filled second = result second) :
    Refills read result span first here := by
  rwa [← funext same]

theorem atom (found : (scalarFrom here.offset (readAtom here)).value = .scalar span first) :
    Refills (fun there => scalarFrom there.offset (readAtom there))
      (fun second => ⟨.scalar span second,(scalarFrom here.offset (readAtom here)).stop⟩) span first here := by
  cases steady : readAtom here with
  | error cause =>
    rw [steady] at found
    cases found
  | ok read =>
    obtain ⟨content,stop⟩ := read
    rw [steady] at found
    cases found
    obtain ⟨literal,passes,-⟩ := (readAtom_steady here).passed steady
    have found : readAtom ⟨literal ++ stop.rest,here.offset⟩ = .ok (first,stop) := by
      rw [← passes.rest]
      exact steady
    have split : here.rest = [] ++ literal ++ stop.rest := passes.rest
    refine .stands split rfl found fun other second found' => ?_
    simp only [List.nil_append,found']
    rfl

end Refills

def Rows.refilled (rows : Rows α) (before : List α) (row : α) (after : List α) : Rows α :=
  {rows with rows := before ++ row :: after}

def RowsRefill (label : Node → α) (read : Cursor → Rows α) (span : Span) (first : Scalar) (here : Cursor) : Prop :=
  ∀ ⦃frames before after⦄,(read here).rows = before ++ label (.inside frames (.scalar span first)) :: after →
    Refills read (fun second => (read here).refilled before (label (.inside frames (.scalar span second))) after)
      span first here

def NodeRefills (read : Cursor → Reading Node) (span : Span) (first : Scalar) (here : Cursor) : Prop :=
  ∀ ⦃frames⦄,(read here).value = .inside frames (.scalar span first) →
    Refills read (fun second => ⟨.inside frames (.scalar span second),(read here).stop⟩) span first here

theorem inside_torn (frames : List Frame) (span : Span) (content : Scalar) (start : Nat) (cause : Break) :
    Node.torn start cause ≠ .inside frames (.scalar span content) := by
  cases frames with
  | nil => exact Node.noConfusion
  | cons frame frames => cases frame <;> exact Node.noConfusion

theorem torn_rows {frames : List Frame} {before : List (String × Nat × Node)}
    (held : [(key,place,Node.torn start cause)] = before ++ (key',place',.inside frames (.scalar span content)) :: after) : False := by
  cases before with
  | nil =>
    obtain ⟨first,-⟩ := List.cons.inj held
    exact inside_torn frames span content start cause (congrArg (fun row => row.2.2) first)
  | cons row before => cases before <;> cases held

theorem enter_rows {inside : Cursor → Rows α} (some' : (enter found inside).rows ≠ []) : ∃ there,found = .ok (true,there) := by
  rcases found with cause | ⟨element,there⟩
  · contradiction
  · cases element with
    | false => contradiction
    | true => exact ⟨there,rfl⟩

theorem follow_rows (mark : Node → α) (reading : Reading Node) (others : Cursor → Rows α) :
    (follow mark reading others).rows = mark reading.value :: (reading.stop.elim [] fun stop => (others stop).rows) := by
  unfold follow
  cases reading.stop <;> rfl

namespace RowsRefill

variable {label mark : Node → α} {span : Span} {first : Scalar} {here : Cursor}

theorem enter {token : Cursor → Except Break (Bool × Cursor)} {inside : Cursor → Rows α}
    (akin : ∀ {there},token here = .ok (true,there) → ∃ taken,here.Passes taken there ∧
      ∀ more,Akin more there.rest → token ⟨taken ++ more,here.offset⟩ = .ok (true,⟨more,there.offset⟩))
    (inner : ∀ there,RowsRefill label inside span first there) :
    RowsRefill label (fun there => enter (token there) inside) span first here := by
  intro frames before after held
  dsimp only at held ⊢
  rcases found : token here with cause | ⟨element,there⟩
  · rw [found] at held
    cases before <;> cases held
  · cases element with
    | false =>
      rw [found] at held
      cases before <;> cases held
    | true =>
      obtain ⟨taken,passes,same⟩ := akin found
      rw [found] at held
      refine (inner there held).after passes fun more akin => ?_
      rw [same more akin]
      rfl

theorem follow {node : Cursor → Reading Node} {others : Cursor → Rows α} (foreseen : Foreseen nodeOutcome node here)
    (same : ∀ {node other},mark node = label other → mark = label ∧ node = other) (hole : NodeRefills node span first here)
    (rest : ∀ stop,RowsRefill label others span first stop) (apart : ∀ {stop},(others stop).rows ≠ [] → ¬ Opens stop.rest) :
    RowsRefill label (fun there => follow mark (node there) others) span first here := by
  intro frames before after held
  dsimp only at held ⊢
  cases before with
  | nil =>
    obtain ⟨first',others'⟩ := List.cons.inj ((follow_rows ..).symm.trans held)
    obtain ⟨rfl,value⟩ := same first'
    refine ((hole value).told (Json.follow mark · others)).filledAs fun second => ?_
    rw [← others',Rows.refilled,Json.follow,Json.follow]
    cases (node here).stop <;> rfl
  | cons row before =>
    obtain ⟨rfl,others'⟩ := List.cons.inj ((follow_rows ..).symm.trans held)
    cases foreseen with
    | breaks found =>
      have stopped : (node here).stop = none := found
      rw [stopped] at others'
      cases before <;> cases others'
    | @stops stop taken found whole passes again =>
      have stopped : (node here).stop = some stop := found
      rw [stopped] at others'
      have inner := (rest stop others').told (Rows.cons (mark (node here).value))
      refine (inner.after passes fun more akin => ?_).filledAs fun second => ?_
      · obtain alike | ⟨-,opens⟩ := akin
        · rw [again more alike]
          rfl
        · -- Rows that do not end here go on with a comma, so no scalar stands here.
          have some' : (others stop).rows ≠ [] := by
            intro none'
            cases before <;> cases none'.symm.trans others'
          exact absurd opens (apart some')
      · rw [Json.follow,stopped]
        rfl

theorem cut (cause : Break) : RowsRefill label (fun _ => .cut cause) span first here := by
  intro frames before after held
  cases before <;> cases held

theorem deeper {inside : Nat → Cursor → Rows α} (cause : Break) (rows : ∀ depth,RowsRefill label (inside depth) span first here)
    (depth : Nat) : RowsRefill label (fun there => deeper cause (inside · there) depth) span first here := by
  cases depth with
  | zero => exact cut cause
  | succ depth => exact rows depth

theorem listed {read : Cursor → Rows Node} (rows : RowsRefill id read span first here) (start : Nat) :
    NodeRefills (fun there => listed start (read there)) span first here := by
  intro frames held
  cases frames with
  | nil => cases held
  | cons frame frames =>
    cases frame with
    | row => cases held
    | item place before after broken =>
      obtain ⟨rfl,same,rfl⟩ := Node.list.inj held
      exact ((rows same).told (Json.listed start)).filledAs fun second => rfl

theorem tabled {read : Cursor → Rows (String × Nat × Node)}
    (rows : ∀ key place,RowsRefill (fun node => (key,place,node)) read span first here) (start : Nat) :
    NodeRefills (fun there => tabled start (read there)) span first here := by
  intro frames held
  cases frames with
  | nil => cases held
  | cons frame frames =>
    cases frame with
    | item => cases held
    | row place before key at' after broken =>
      obtain ⟨rfl,same,rfl⟩ := Node.table.inj held
      exact ((rows key at' same).told (Json.tabled start)).filledAs fun second => rfl

end RowsRefill

structure Refilling (span : Span) (first : Scalar) (fuel : Nat) : Prop where
  node : ∀ depth here,NodeRefills (readNode fuel depth) span first here
  items : ∀ depth opening here,RowsRefill id (readItems fuel depth opening) span first here
  item : ∀ depth here,RowsRefill id (readItem fuel depth) span first here
  rows : ∀ key place depth opening here,
    RowsRefill (fun node => (key,place,node)) (readRows fuel depth opening) span first here
  row : ∀ key place depth here,RowsRefill (fun node => (key,place,node)) (readRow fuel depth) span first here

namespace Refilling

variable {span : Span} {first : Scalar} {fuel : Nat}

theorem ahead (refilling : Refilling span first fuel) (depth : Nat) (here : Cursor) :
    NodeRefills (nodeAhead fuel depth) span first here := by
  intro frames held
  obtain ⟨text,offset⟩ := here
  cases text with
  | nil => exact absurd held (inside_torn frames span first _ _)
  | cons head text =>
    by_cases list : head = '['
    · subst list
      have items := RowsRefill.deeper ⟨.nestedTooDeep,offset + 1⟩
        (fun depth => refilling.items depth true ⟨text,offset + '['.utf8Size⟩) depth
      exact (RowsRefill.listed items offset held).after (Cursor.Passes.nothing _).head fun _ _ => rfl
    by_cases table : head = '\x7b'
    · subst table
      have rows := fun (key : String) (place : Nat) => RowsRefill.deeper ⟨.nestedTooDeep,offset + 1⟩
        (fun depth => refilling.rows key place depth true ⟨text,offset + '\x7b'.utf8Size⟩) depth
      exact (RowsRefill.tabled rows offset held).after (Cursor.Passes.nothing _).head fun _ _ => rfl
    have other : ∀ {head : Char} (more : List Char),head ≠ '[' → head ≠ '\x7b' →
        nodeAhead fuel depth ⟨head :: more,offset⟩ = scalarFrom offset (readAtom ⟨head :: more,offset⟩) :=
      fun more list table => (if_neg list).trans (if_neg table)
    rw [other text list table] at held ⊢
    have scalar : frames = [] := by
      cases frames with
      | nil => rfl
      | cons frame frames =>
        revert held
        cases readAtom ⟨head :: text,offset⟩ <;> cases frame <;> exact Node.noConfusion
    subst scalar
    refine (Refills.atom held).after (.nothing _) fun more akin => ?_
    obtain ⟨head',more,rfl,list'⟩ := akin.differs list (by decide)
    obtain ⟨_,_,same,table'⟩ := akin.differs table (by decide)
    obtain ⟨rfl,-⟩ := List.cons.inj same
    exact other more list' table'

theorem node_next (refilling : Refilling span first fuel) (depth : Nat) (here : Cursor) :
    NodeRefills (readNode (fuel + 1) depth) span first here := by
  intro frames held
  obtain ⟨blanks,passes,skips⟩ := skipBlanks_akin here
  rw [readNode_ahead] at held ⊢
  refine (refilling.ahead depth here.skipBlanks held).after passes fun more akin => ?_
  rw [readNode_ahead,skips more akin]

theorem items_next (refilling : Refilling span first fuel) (depth : Nat) (opening : Bool) (here : Cursor) :
    RowsRefill id (readItems (fuel + 1) depth opening) span first here := by
  rw [funext (readItems_enter fuel depth opening)]
  exact RowsRefill.enter itemAhead_akin (refilling.item depth)

theorem rows_next (refilling : Refilling span first fuel) (key : String) (place depth : Nat) (opening : Bool) (here : Cursor) :
    RowsRefill (fun node => (key,place,node)) (readRows (fuel + 1) depth opening) span first here := by
  rw [funext (readRows_enter fuel depth opening)]
  exact RowsRefill.enter rowAhead_akin (refilling.row key place depth)

theorem item_next (refilling : Refilling span first fuel) (depth : Nat) (here : Cursor) :
    RowsRefill id (readItem (fuel + 1) depth) span first here := by
  rw [funext (readItem_follow fuel depth)]
  refine RowsRefill.follow ((foresees fuel).node depth here) (fun same => ⟨rfl,same⟩) (refilling.node depth here)
    (refilling.items depth false) fun {stop} some' => ?_
  cases fuel with
  | zero =>
    rw [readItems] at some'
    contradiction
  | succ fuel =>
    rw [readItems_enter] at some'
    obtain ⟨there,found⟩ := enter_rows some'
    exact ahead_separated found

theorem value (refilling : Refilling span first fuel) (depth start : Nat) (here : Cursor) :
    NodeRefills (valueAhead fuel depth start) span first here := by
  intro frames held
  obtain ⟨text,offset⟩ := here
  cases text with
  | nil => exact absurd held (inside_torn frames span first _ _)
  | cons head text =>
    by_cases colon : head = ':'
    · subst colon
      exact (refilling.node depth _ held).after (Cursor.Passes.nothing _).head fun _ _ => rfl
    · rw [valueAhead_other colon] at held
      exact absurd held (inside_torn frames span first _ _)

theorem row_next (refilling : Refilling span first fuel) (key : String) (place depth : Nat) (here : Cursor) :
    RowsRefill (fun node => (key,place,node)) (readRow (fuel + 1) depth) span first here := by
  rw [funext (readRow_follow fuel depth)]
  intro frames before after held
  dsimp only at held ⊢
  cases keyAhead_steady here with
  | breaks found =>
    rw [found] at held
    cases before <;> cases held
  | @reads read stop taken found passes every again =>
    obtain ⟨key',place',start⟩ := read
    rw [found] at held ⊢
    have row : RowsRefill (fun node => (key,place,node)) (fun there => follow (fun node => (key',place',node))
        (valueAhead fuel depth start there) (readRows fuel depth false)) span first stop := by
      refine RowsRefill.follow ((foresees fuel).value depth start stop) ?_ (refilling.value depth start stop)
        (refilling.rows key place depth false) fun {stop} some' => ?_
      · rintro node other same
        cases same
        exact ⟨rfl,rfl⟩
      · cases fuel with
        | zero =>
          rw [readRows] at some'
          contradiction
        | succ fuel =>
          rw [readRows_enter] at some'
          obtain ⟨there,found⟩ := enter_rows some'
          exact ahead_separated found
    refine (row held).after passes fun more akin => ?_
    -- Without a colon the value would be torn and could hold no scalar.
    have colon : ∃ text,stop.rest = ':' :: text := by
      obtain ⟨text,offset⟩ := stop
      cases text with
      | nil => exact (torn_rows held).elim
      | cons head text =>
        by_cases colon : head = ':'
        · exact ⟨text,congrArg (· :: text) colon⟩
        · rw [rowFrom,valueAhead_other colon] at held
          exact (torn_rows held).elim
    obtain ⟨text,colon⟩ := colon
    rw [colon] at akin
    have alike := akin.plain (by decide)
    rw [again more (by rw [alike,colon,List.head?_cons])]
    rfl

end Refilling

theorem refilling (span : Span) (first : Scalar) (fuel : Nat) : Refilling span first fuel := by
  induction fuel with
  | zero =>
    constructor
    · intro depth here frames held
      rw [readNode] at held
      exact absurd held (inside_torn frames span first _ _)
    · intro depth opening here frames before after held
      rw [readItems] at held
      cases before <;> cases held
    · intro depth here frames before after held
      rw [readItem] at held
      cases before <;> cases held
    · intro key place depth opening here frames before after held
      rw [readRows] at held
      cases before <;> cases held
    · intro key place depth here frames before after held
      rw [readRow] at held
      cases before <;> cases held
  | succ fuel ih => exact ⟨ih.node_next,ih.items_next,ih.item_next,ih.rows_next,ih.row_next⟩

end Json

end LedgerSettings
