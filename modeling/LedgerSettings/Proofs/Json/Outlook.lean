import LedgerSettings.Proofs.Json.Steps

namespace LedgerSettings

def Node.torn? (node : Node) : Option Json.Break :=
  match node.value with
  | .ok _ => none
  | .error cause => some cause

namespace Node

theorem torn_list (span : Span) (items : List Node) (broken : Option Json.Break) :
    (Node.list span items broken).torn? = (items.findSome? torn?).or broken := by
  have inside : ∀ items : List Node,(match values items with
      | .ok _ => none
      | .error cause => some cause) = items.findSome? torn? := by
    intro items
    induction items with
    | nil => rfl
    | cons item items ih =>
      rw [List.findSome?_cons,← ih,torn?,values]
      cases item.value with
      | error cause => rfl
      | ok tree => cases values items <;> rfl
  rw [← inside,torn?,value]
  cases values items with
  | error cause => rfl
  | ok trees => cases broken <;> rfl

theorem torn_table (span : Span) (rows : List (String × Nat × Node)) (broken : Option Json.Break) :
    (Node.table span rows broken).torn? = (rows.findSome? fun row => row.2.2.torn?).or broken := by
  have inside : ∀ rows : List (String × Nat × Node),(match rowValues rows with
      | .ok _ => none
      | .error cause => some cause) = rows.findSome? fun row => row.2.2.torn? := by
    intro rows
    induction rows with
    | nil => rfl
    | cons row rows ih =>
      obtain ⟨key,place,node⟩ := row
      rw [List.findSome?_cons,← ih,torn?,rowValues]
      cases node.value with
      | error cause => rfl
      | ok tree => cases rowValues rows <;> rfl
  rw [← inside,torn?,value]
  cases rowValues rows with
  | error cause => rfl
  | ok trees => cases broken <;> rfl

end Node

namespace Json

-- What can be told of a result: where it stopped, the break in it, and how it would look
-- had it stopped elsewhere.
structure Outcome (ρ : Type) where
  stop : ρ → Option Cursor
  torn : ρ → Option Break
  moved : ρ → Cursor → ρ

def nodeOutcome : Outcome (Reading Node) where
  stop reading := reading.stop
  torn reading := reading.value.torn?
  moved reading stop := ⟨reading.value,some stop⟩

def rowsOutcome (nodeOf : α → Node) : Outcome (Rows α) where
  stop rows := rows.stop
  torn rows := (rows.rows.findSome? fun row => (nodeOf row).torn?).or rows.broken
  moved rows stop := {rows with stop := some stop}

-- A result is foreseen where it is the same before any other text that opens alike behind
-- what was taken for it. It is either whole and stopped somewhere or broken off.
inductive Foreseen (outcome : Outcome ρ) (read : Cursor → ρ) (here : Cursor) : Prop where
  | stops (found : outcome.stop (read here) = some stop) (whole : outcome.torn (read here) = none)
      (passes : here.Passes taken stop)
      (again : ∀ more,more.head? = stop.rest.head? →
        read ⟨taken ++ more,here.offset⟩ = outcome.moved (read here) ⟨more,stop.offset⟩)
  | breaks (found : outcome.stop (read here) = none) (torn : outcome.torn (read here) = some cause)
      (split : here.rest = taken ++ rest) (within : here.offset + byteCount taken ≤ cause.offset)
      (again : ∀ more,more.head? = rest.head? → read ⟨taken ++ more,here.offset⟩ = read here)

namespace Foreseen

variable {outcome : Outcome ρ} {read other : Cursor → ρ} {here : Cursor}

theorem shorter (foreseen : Foreseen outcome read here) (stopped : outcome.stop (read here) = some stop) :
    stop.rest.length ≤ here.rest.length := by
  cases foreseen with
  | stops found _ passes =>
    cases stopped.symm.trans found
    exact passes.shorter
  | breaks found => cases stopped.symm.trans found

theorem fails (cause : Break) (onward : here.offset ≤ cause.offset) (found : outcome.stop (read here) = none)
    (torn : outcome.torn (read here) = some cause)
    (same : ∀ more,more.head? = here.rest.head? → read ⟨more,here.offset⟩ = read here) : Foreseen outcome read here := by
  have split : here.rest = [] ++ here.rest := rfl
  exact .breaks found torn split onward same

theorem ends (closed : here.rest = []) (onward : here.offset ≤ cause.offset) (found : outcome.stop (read here) = none)
    (torn : outcome.torn (read here) = some cause) : Foreseen outcome read here := by
  refine fails cause onward found torn fun more same => ?_
  rw [closed,List.head?_nil,List.head?_eq_none_iff] at same
  rw [same,← closed]

theorem after (foreseen : Foreseen outcome other middle) (first : here.Passes taken middle)
    (same : ∀ more,more.head? = middle.rest.head? → read ⟨taken ++ more,here.offset⟩ = other ⟨more,middle.offset⟩) :
    Foreseen outcome read here := by
  have same' : read here = other middle := by
    have whole := same middle.rest rfl
    rwa [← first.rest] at whole
  cases foreseen with
  | @stops stop more found whole passes again =>
    refine .stops (same' ▸ found) (same' ▸ whole) (first.trans passes) fun rest alike => ?_
    rw [List.append_assoc,same _ (passes.rest ▸ head_append alike),again rest alike,same']
  | @breaks cause more rest found torn split within again =>
    have split' : here.rest = (taken ++ more) ++ rest := by rw [first.rest,split,List.append_assoc]
    have within' : here.offset + byteCount (taken ++ more) ≤ cause.offset := by
      rw [byteCount_append,← Nat.add_assoc,← first.offset]
      exact within
    refine .breaks (same' ▸ found) (same' ▸ torn) split' within' fun rest' alike => ?_
    rw [List.append_assoc,same _ (split ▸ head_append alike),again rest' alike,same']

theorem as (foreseen : Foreseen outcome other here)
    (same : ∀ more,more.head? = here.rest.head? → read ⟨more,here.offset⟩ = other ⟨more,here.offset⟩) :
    Foreseen outcome read here :=
  foreseen.after (.nothing here) same

theorem next (foreseen : Foreseen outcome other ⟨text,offset + c.utf8Size⟩)
    (same : ∀ more,read ⟨c :: more,offset⟩ = other ⟨more,offset + c.utf8Size⟩) : Foreseen outcome read ⟨c :: text,offset⟩ :=
  foreseen.after (Cursor.Passes.nothing _).head fun more _ => same more

theorem spaced (foreseen : Foreseen outcome read here.skipBlanks) : Foreseen outcome (fun there => read there.skipBlanks) here := by
  cases skipBlanks_steady here with
  | reads found passes every again =>
    obtain ⟨-,rfl⟩ := Prod.mk.inj (Except.ok.inj found)
    refine foreseen.after passes fun more alike => ?_
    obtain ⟨-,same⟩ := Prod.mk.inj (Except.ok.inj (again more alike))
    exact congrArg read same
  | breaks found => cases found

theorem behind {token : Cursor → Except Break (α × Cursor)} (told : Except Break (α × Cursor) → ρ)
    (steady : Steady plain token here) (stop : ∀ cause,outcome.stop (told (.error cause)) = none)
    (torn : ∀ cause,outcome.torn (told (.error cause)) = some cause)
    (foreseen : ∀ value stop,token here = .ok (value,stop) → Foreseen outcome (fun there => told (.ok (value,there))) stop) :
    Foreseen outcome (fun there => told (token there)) here := by
  cases steady with
  | reads found passes every again =>
    refine (foreseen _ _ found).after passes fun more alike => ?_
    rw [again more alike]
  | breaks found split within again =>
    refine .breaks ?_ ?_ split within fun more alike => ?_
    · rw [found,stop]
    · rw [found,torn]
    · rw [again more alike,found]

theorem atom {token : Cursor → Except Break (Scalar × Cursor)} (steady : Steady plain token here) (start : Nat) :
    Foreseen nodeOutcome (fun there => scalarFrom start (token there)) here := by
  refine behind (scalarFrom start) steady (fun _ => rfl) (fun _ => rfl) fun content stop _ => ?_
  exact .stops rfl rfl (.nothing stop) fun _ _ => rfl

theorem torn (start : Nat) (cause : Break) (onward : here.offset ≤ cause.offset) :
    Foreseen nodeOutcome (fun _ => torn start cause) here :=
  .fails cause onward rfl rfl fun _ _ => rfl

theorem cut {nodeOf : α → Node} (cause : Break) (onward : here.offset ≤ cause.offset) :
    Foreseen (rowsOutcome nodeOf) (fun _ => Rows.cut cause) here :=
  .fails cause onward rfl rfl fun _ _ => rfl

theorem deeper {nodeOf : α → Node} {inside : Nat → Cursor → Rows α} (cause : Break) (onward : here.offset ≤ cause.offset)
    (foreseen : ∀ depth,Foreseen (rowsOutcome nodeOf) (inside depth) here) (depth : Nat) :
    Foreseen (rowsOutcome nodeOf) (fun there => deeper cause (inside · there) depth) here := by
  cases depth with
  | zero => exact .cut cause onward
  | succ depth => exact foreseen depth

theorem made {outcome' : Outcome σ} {read : Cursor → σ} (foreseen : Foreseen outcome' read here) (make : σ → ρ)
    (stop : ∀ result,outcome.stop (make result) = outcome'.stop result)
    (torn : ∀ result,outcome.torn (make result) = outcome'.torn result)
    (moved : ∀ {result stop} more,outcome'.stop result = some stop →
      make (outcome'.moved result ⟨more,stop.offset⟩) = outcome.moved (make result) ⟨more,stop.offset⟩) :
    Foreseen outcome (fun there => make (read there)) here := by
  cases foreseen with
  | stops found whole passes again =>
    refine .stops ((stop _).trans found) ((torn _).trans whole) passes fun more alike => ?_
    rw [again more alike,moved more found]
  | breaks found broken split within again =>
    refine .breaks ((stop _).trans found) ((torn _).trans broken) split within fun more alike => ?_
    rw [again more alike]

theorem listed {read : Cursor → Rows Node} (foreseen : Foreseen (rowsOutcome id) read here) (start : Nat) :
    Foreseen nodeOutcome (fun there => listed start (read there)) here := by
  refine foreseen.made (Json.listed start) (fun _ => rfl) (fun items => Node.torn_list _ items.rows items.broken) ?_
  intro items stop more found
  have stopped : items.stop = some stop := found
  simp only [Json.listed,nodeOutcome,rowsOutcome,stopped]
  rfl

theorem tabled {read : Cursor → Rows (String × Nat × Node)} (foreseen : Foreseen (rowsOutcome fun row => row.2.2) read here)
    (start : Nat) : Foreseen nodeOutcome (fun there => tabled start (read there)) here := by
  refine foreseen.made (Json.tabled start) (fun _ => rfl) (fun rows => Node.torn_table _ rows.rows rows.broken) ?_
  intro rows stop more found
  have stopped : rows.stop = some stop := found
  simp only [Json.tabled,nodeOutcome,rowsOutcome,stopped]
  rfl

theorem enter {nodeOf : α → Node} {token : Cursor → Except Break (Bool × Cursor)} {inside : Cursor → Rows α}
    (steady : Steady plain token here) (foreseen : ∀ there,Foreseen (rowsOutcome nodeOf) inside there) :
    Foreseen (rowsOutcome nodeOf) (fun there => enter (token there) inside) here := by
  refine behind (Json.enter · inside) steady (fun _ => rfl) (fun _ => rfl) fun element stop _ => ?_
  cases element with
  | true => exact foreseen stop
  | false => exact .stops rfl rfl (.nothing stop) fun _ _ => rfl

theorem follow {nodeOf : α → Node} {label : Node → α} {first : Cursor → Reading Node} {others : Cursor → Rows α}
    (foreseen : Foreseen nodeOutcome first here) (same : ∀ node,nodeOf (label node) = node)
    (rest : ∀ there,Foreseen (rowsOutcome nodeOf) others there) :
    Foreseen (rowsOutcome nodeOf) (fun there => follow label (first there) others) here := by
  have behind : ∀ stop,(first here).value.torn? = none → Foreseen (rowsOutcome nodeOf)
      (fun there => .cons (label (first here).value) (others there)) stop := by
    intro stop whole
    refine (rest stop).made (Rows.cons (label (first here).value)) (fun _ => rfl) (fun rows => ?_) fun _ _ => rfl
    simp only [rowsOutcome,Rows.cons,List.findSome?_cons,same,whole]
  cases foreseen with
  | stops found whole passes again =>
    refine (behind _ whole).after passes fun more alike => ?_
    rw [again more alike]
    rfl
  | breaks found torn split within again =>
    have stop : (first here).stop = none := found
    have torn' : (first here).value.torn? = some _ := torn
    refine .breaks ?_ ?_ split within fun more alike => ?_
    · simp only [Json.follow,stop]
      rfl
    · simp only [Json.follow,stop,rowsOutcome,List.findSome?_cons,same,torn']
      rfl
    · rw [again more alike]

end Foreseen

-- What is foreseen of every part of the reader at one measure of fuel.
structure Foresees (fuel : Nat) : Prop where
  node : ∀ depth here,Foreseen nodeOutcome (readNode fuel depth) here
  items : ∀ depth first here,Foreseen (rowsOutcome id) (readItems fuel depth first) here
  item : ∀ depth here,Foreseen (rowsOutcome id) (readItem fuel depth) here
  rows : ∀ depth first here,Foreseen (rowsOutcome fun row => row.2.2) (readRows fuel depth first) here
  row : ∀ depth here,Foreseen (rowsOutcome fun row => row.2.2) (readRow fuel depth) here

namespace Foresees

theorem node_next (foresees : Foresees fuel) (depth : Nat) (here : Cursor) :
    Foreseen nodeOutcome (readNode (fuel + 1) depth) here := by
  have ahead : ∀ there,Foreseen nodeOutcome (nodeAhead fuel depth) there := by
    rintro ⟨text,offset⟩
    cases text with
    | nil => exact .ends rfl (Nat.le_refl _) rfl rfl
    | cons head text =>
      by_cases list : head = '['
      · subst list
        have items := Foreseen.deeper ⟨.nestedTooDeep,offset + 1⟩ (Nat.le_refl _)
          (fun depth => foresees.items depth true ⟨text,offset + '['.utf8Size⟩) depth
        exact (items.listed offset).next fun _ => rfl
      by_cases table : head = '\x7b'
      · subst table
        have rows := Foreseen.deeper ⟨.nestedTooDeep,offset + 1⟩ (Nat.le_refl _)
          (fun depth => foresees.rows depth true ⟨text,offset + '\x7b'.utf8Size⟩) depth
        exact (rows.tabled offset).next fun _ => rfl
      refine (Foreseen.atom (readAtom_steady ⟨head :: text,offset⟩) offset).as fun more alike => ?_
      obtain ⟨more,rfl⟩ := List.head?_eq_some_iff.mp alike
      exact (if_neg list).trans (if_neg table)
  refine (ahead here.skipBlanks).spaced.as fun more _ => ?_
  exact readNode_ahead fuel depth _

theorem items_next (foresees : Foresees fuel) (depth : Nat) (first : Bool) (here : Cursor) :
    Foreseen (rowsOutcome id) (readItems (fuel + 1) depth first) here := by
  refine (Foreseen.enter (itemAhead_steady first here) (foresees.item depth)).as fun more _ => ?_
  exact readItems_enter fuel depth first _

theorem item_next (foresees : Foresees fuel) (depth : Nat) (here : Cursor) :
    Foreseen (rowsOutcome id) (readItem (fuel + 1) depth) here := by
  refine ((foresees.node depth here).follow (fun _ => rfl) (foresees.items depth false)).as fun more _ => ?_
  exact readItem_follow fuel depth _

theorem rows_next (foresees : Foresees fuel) (depth : Nat) (first : Bool) (here : Cursor) :
    Foreseen (rowsOutcome fun row => row.2.2) (readRows (fuel + 1) depth first) here := by
  refine (Foreseen.enter (rowAhead_steady first here) (foresees.row depth)).as fun more _ => ?_
  exact readRows_enter fuel depth first _

theorem value (foresees : Foresees fuel) (depth start : Nat) (here : Cursor) :
    Foreseen nodeOutcome (valueAhead fuel depth start) here := by
  obtain ⟨text,offset⟩ := here
  cases text with
  | nil => exact .ends rfl (Nat.le_refl _) rfl rfl
  | cons head text =>
    by_cases colon : head = ':'
    · subst colon
      exact (foresees.node depth _).next fun _ => rfl
    · refine (Foreseen.torn start ⟨.expectedColon,offset + 1⟩ (Nat.le_succ _)).as fun more alike => ?_
      obtain ⟨more,rfl⟩ := List.head?_eq_some_iff.mp alike
      exact valueAhead_other colon ..

theorem row_next (foresees : Foresees fuel) (depth : Nat) (here : Cursor) :
    Foreseen (rowsOutcome fun row => row.2.2) (readRow (fuel + 1) depth) here := by
  have row : Foreseen (rowsOutcome fun row => row.2.2) (fun there => rowFrom fuel depth (keyAhead there)) here := by
    refine .behind _ (keyAhead_steady here) (fun _ => rfl) (fun _ => rfl) fun found stop _ => ?_
    obtain ⟨key,place,start⟩ := found
    have behind : Foreseen (rowsOutcome fun row => row.2.2) (fun there =>
        follow (fun node => (key,place,node)) (valueAhead fuel depth start there) (readRows fuel depth false)) stop :=
      (foresees.value depth start stop).follow (fun _ => rfl) (foresees.rows depth false)
    exact behind
  refine row.as fun more _ => ?_
  exact readRow_follow fuel depth _

end Foresees

theorem foresees (fuel : Nat) : Foresees fuel := by
  induction fuel with
  | zero =>
    constructor
    · intro depth here
      refine (Foreseen.torn here.offset (here.fail .unfinishedValue) (Nat.le_refl _)).as fun _ _ => ?_
      rw [readNode]
      rfl
    · intro depth first here
      refine (Foreseen.cut (here.fail .unfinishedList) (Nat.le_refl _)).as fun _ _ => ?_
      rw [readItems]
      rfl
    · intro depth here
      refine (Foreseen.cut (here.fail .unfinishedList) (Nat.le_refl _)).as fun _ _ => ?_
      rw [readItem]
      rfl
    · intro depth first here
      refine (Foreseen.cut (here.fail .unfinishedTable) (Nat.le_refl _)).as fun _ _ => ?_
      rw [readRows]
      rfl
    · intro depth here
      refine (Foreseen.cut (here.fail .unfinishedTable) (Nat.le_refl _)).as fun _ _ => ?_
      rw [readRow]
      rfl
  | succ fuel ih => exact ⟨ih.node_next,ih.items_next,ih.item_next,ih.rows_next,ih.row_next⟩

end Json

end LedgerSettings
