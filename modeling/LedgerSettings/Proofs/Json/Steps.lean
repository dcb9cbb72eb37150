import LedgerSettings.Proofs.Json.Foresight
import LedgerSettings.Proofs.Json.RoundTrip

namespace LedgerSettings.Json

def anywhere (_ : Char) : Prop := True

theorem blank_size {c : Char} (blank : Cursor.isBlank c = true) : c.utf8Size = 1 := by
  simp only [Cursor.isBlank,Bool.or_eq_true,decide_eq_true_eq] at blank
  rcases blank with ((rfl | rfl) | rfl) | rfl <;> rfl

theorem skipBlanks_steady (here : Cursor) : Steady (Cursor.isBlank · = true) (fun there => .ok ((),there.skipBlanks)) here := by
  obtain ⟨text,offset⟩ := here
  induction text generalizing offset with
  | nil => exact .stays fun more alike => by rw [List.head?_eq_none_iff.mp alike]; rfl
  | cons head text ih =>
    by_cases blank : Cursor.isBlank head
    · refine (ih (offset + head.utf8Size)).next blank fun more => ?_
      simp only [Cursor.skipBlanks,Cursor.skipBlanksFrom,if_pos blank,blank_size blank]
    · have visible : ∀ more,more.head? = some head → Cursor.skipBlanks ⟨more,offset⟩ = ⟨more,offset⟩ := by
        intro more alike
        obtain ⟨more,rfl⟩ := List.head?_eq_some_iff.mp alike
        simp only [Cursor.skipBlanks,Cursor.skipBlanksFrom,if_neg blank]
      exact .stays fun more alike => congrArg (fun there => Except.ok ((),there)) (visible more alike)

theorem Steady.spaced {α : Type} {read : Cursor → Except Break (α × Cursor)} {here : Cursor}
    (steady : Steady anywhere read here.skipBlanks) : Steady anywhere (fun there => read there.skipBlanks) here := by
  have behind : Steady anywhere (fun there => .ok ((),there.skipBlanks) >>= fun found => read found.2) here := by
    refine ((skipBlanks_steady here).weaken fun _ _ => trivial).andThen fun {_ stop} found => ?_
    obtain ⟨-,rfl⟩ := Prod.mk.inj (Except.ok.inj found)
    exact steady
  exact behind

-- What stands in a list or table where the blanks end: an element, and then the answer
-- is yes, or the bracket that closes it.
def ahead (close : Char) (unfinished expected : Fault) (behind : Cursor → Except Break (Bool × Cursor)) (first : Bool)
    (here : Cursor) : Except Break (Bool × Cursor) :=
  match here.rest with
  | [] => .error (here.fail unfinished)
  | head :: _ =>
    if head = close then .ok (false,here.next)
    else if first then .ok (true,here)
    else if head = ',' then behind here.next.skipBlanks
    else .error (here.failNext expected)

theorem ahead_steady (close : Char) (unfinished expected : Fault) {behind : Cursor → Except Break (Bool × Cursor)}
    (steady : ∀ there,Steady anywhere behind there) (first : Bool) (here : Cursor) :
    Steady anywhere (ahead close unfinished expected behind first) here := by
  obtain ⟨text,offset⟩ := here
  cases text with
  | nil => exact .ends rfl (Nat.le_refl _) rfl
  | cons head text =>
    by_cases closed : head = close
    · have done : Steady anywhere (fun there => .ok (false,there)) ⟨text,offset + head.utf8Size⟩ := .stays fun _ _ => rfl
      exact done.next trivial fun _ => if_pos closed
    · cases first with
      | true =>
        have element : ∀ more,more.head? = some head →
            ahead close unfinished expected behind true ⟨more,offset⟩ = .ok (true,⟨more,offset⟩) := by
          intro more alike
          obtain ⟨more,rfl⟩ := List.head?_eq_some_iff.mp alike
          exact if_neg closed
        exact .stays element
      | false =>
        by_cases comma : head = ','
        · exact (steady _).spaced.next trivial fun _ => (if_neg closed).trans (if_pos comma)
        · refine .fails ⟨expected,offset + 1⟩ (Nat.le_succ _) fun more alike => ?_
          obtain ⟨more,rfl⟩ := List.head?_eq_some_iff.mp alike
          exact (if_neg closed).trans (if_neg comma)

def nextItem (here : Cursor) : Except Break (Bool × Cursor) :=
  match here.rest with
  | [] => .error (here.fail .unfinishedValue)
  | head :: _ => if head = ']' then .error (here.failNext .trailingComma) else .ok (true,here)

theorem nextItem_steady (here : Cursor) : Steady anywhere nextItem here := by
  obtain ⟨text,offset⟩ := here
  cases text with
  | nil => exact .ends rfl (Nat.le_refl _) rfl
  | cons head text =>
    by_cases closed : head = ']'
    · refine .fails ⟨.trailingComma,offset + 1⟩ (Nat.le_succ _) fun more alike => ?_
      obtain ⟨more,rfl⟩ := List.head?_eq_some_iff.mp alike
      exact if_pos closed
    · have item : ∀ more,more.head? = some head → nextItem ⟨more,offset⟩ = .ok (true,⟨more,offset⟩) := by
        intro more alike
        obtain ⟨more,rfl⟩ := List.head?_eq_some_iff.mp alike
        exact if_neg closed
      exact .stays item

def itemAhead (first : Bool) (here : Cursor) : Except Break (Bool × Cursor) :=
  ahead ']' .unfinishedList .expectedCommaOrBracket nextItem first here.skipBlanks

def rowAhead (first : Bool) (here : Cursor) : Except Break (Bool × Cursor) :=
  ahead '\x7d' .unfinishedTable .expectedCommaOrBrace (fun there => .ok (true,there)) first here.skipBlanks

theorem itemAhead_steady (first : Bool) (here : Cursor) : Steady anywhere (itemAhead first) here :=
  (ahead_steady _ _ _ nextItem_steady first _).spaced

theorem rowAhead_steady (first : Bool) (here : Cursor) : Steady anywhere (rowAhead first) here :=
  (ahead_steady _ _ _ (fun _ => .stays fun _ _ => rfl) first _).spaced

-- A key, with the place its row is known by and the place behind it.
def placed (key : String) (stop : Cursor) : Except Break ((String × Nat × Nat) × Cursor) :=
  .ok ((key,behindKey stop,stop.offset),stop.skipBlanks)

def keyAhead (here : Cursor) : Except Break ((String × Nat × Nat) × Cursor) :=
  match here.rest with
  | [] => .error (here.fail .unfinishedValue)
  | head :: _ =>
    if head = '"' then readText here.next >>= fun found => placed found.1 found.2
    else if head = '\x7d' then .error (here.failNext .trailingComma)
    else .error (here.failNext .keyMustBeText)

theorem behindKey_eq (stop : Cursor) : behindKey stop =
    if stop.skipBlanks.rest.head? = some '\x7d' then stop.skipBlanks.offset + 1 else stop.skipBlanks.offset := by
  unfold behindKey
  dsimp only
  split
  case h_1 opened => exact (if_pos (congrArg List.head? opened)).symm
  case h_2 other =>
    refine (if_neg fun opened => ?_).symm
    obtain ⟨text,opened⟩ := List.head?_eq_some_iff.mp opened
    exact other text opened

theorem placed_steady (key : String) (stop : Cursor) : Steady anywhere (placed key) stop := by
  have seen : ∀ there : Cursor,Steady anywhere (fun there => .ok ((key,(if there.rest.head? = some '\x7d' then
      there.offset + 1 else there.offset),stop.offset),there)) there := by
    intro there
    have same : ∀ more : List Char,more.head? = there.rest.head? →
        (if more.head? = some '\x7d' then there.offset + 1 else there.offset) =
          if there.rest.head? = some '\x7d' then there.offset + 1 else there.offset :=
      fun more alike => by rw [alike]
    exact .stays fun more alike =>
      congrArg (fun place => Except.ok ((key,place,stop.offset),Cursor.mk more there.offset)) (same more alike)
  refine (seen stop.skipBlanks).spaced.as fun more _ => ?_
  unfold placed
  rw [behindKey_eq]

theorem keyAhead_steady (here : Cursor) : Steady anywhere keyAhead here := by
  obtain ⟨text,offset⟩ := here
  cases text with
  | nil => exact .ends rfl (Nat.le_refl _) rfl
  | cons head text =>
    by_cases quote : head = '"'
    · have read : Steady anywhere (fun there => readText there >>= fun found => placed found.1 found.2)
          ⟨text,offset + head.utf8Size⟩ :=
        ((readText_steady _).weaken fun _ _ => trivial).andThen fun {key stop} _ => placed_steady key stop
      exact read.next trivial fun _ => if_pos quote
    · by_cases closed : head = '\x7d'
      · refine .fails ⟨.trailingComma,offset + 1⟩ (Nat.le_succ _) fun more alike => ?_
        obtain ⟨more,rfl⟩ := List.head?_eq_some_iff.mp alike
        exact (if_neg quote).trans (if_pos closed)
      · refine .fails ⟨.keyMustBeText,offset + 1⟩ (Nat.le_succ _) fun more alike => ?_
        obtain ⟨more,rfl⟩ := List.head?_eq_some_iff.mp alike
        exact (if_neg quote).trans (if_neg closed)

def enter (found : Except Break (Bool × Cursor)) (inside : Cursor → Rows α) : Rows α :=
  match found with
  | .error cause => .cut cause
  | .ok (true,there) => inside there
  | .ok (false,stop) => .closed stop

-- One element and, where it was read to its end, the ones behind it.
def follow (label : Node → α) (first : Reading Node) (others : Cursor → Rows α) : Rows α :=
  match first.stop with
  | none => ⟨[label first.value],none,none⟩
  | some stop => .cons (label first.value) (others stop)

def valueAhead (fuel depth start : Nat) (here : Cursor) : Reading Node :=
  match here.rest with
  | [] => torn start (here.fail .unfinishedTable)
  | head :: _ => if head = ':' then readNode fuel depth here.next else torn start (here.failNext .expectedColon)

theorem valueAhead_other (colon : head ≠ ':') (fuel depth start : Nat) (text : List Char) (offset : Nat) :
    valueAhead fuel depth start ⟨head :: text,offset⟩ = torn start ⟨.expectedColon,offset + 1⟩ := if_neg colon

theorem enter_ahead (closed : head ≠ close) : enter (ahead close unfinished expected behind first ⟨head :: text,offset⟩) inside =
    if first then inside ⟨head :: text,offset⟩
    else if head = ',' then enter (behind (Cursor.skipBlanks ⟨text,offset + head.utf8Size⟩)) inside
    else .cut ⟨expected,offset + 1⟩ := by
  simp only [ahead,if_neg closed]
  split_ifs <;> rfl

theorem readItems_enter (fuel depth : Nat) (first : Bool) (here : Cursor) :
    readItems (fuel + 1) depth first here = enter (itemAhead first here) (readItem fuel depth) := by
  rw [readItems]
  unfold itemAhead
  generalize here.skipBlanks = there
  obtain ⟨text,offset⟩ := there
  dsimp only
  split
  case h_1 => rfl
  case h_2 => rfl
  case h_3 head text closed =>
    rw [enter_ahead closed]
    split_ifs
    · rfl
    · dsimp only [Cursor.next]
      generalize Cursor.skipBlanks _ = there
      obtain ⟨text,offset⟩ := there
      split
      case h_1 ended =>
        cases ended
        rfl
      case h_2 opened =>
        cases opened
        rfl
      case h_3 opened closed =>
        cases text with
        | nil => contradiction
        | cons head text =>
          have item : nextItem ⟨head :: text,offset⟩ = .ok (true,⟨head :: text,offset⟩) := by
            refine if_neg ?_
            rintro rfl
            exact closed text rfl
          rw [item]
          rfl
    · rfl

theorem readRows_enter (fuel depth : Nat) (first : Bool) (here : Cursor) :
    readRows (fuel + 1) depth first here = enter (rowAhead first here) (readRow fuel depth) := by
  rw [readRows]
  unfold rowAhead
  generalize here.skipBlanks = there
  obtain ⟨text,offset⟩ := there
  dsimp only
  split
  case h_1 => rfl
  case h_2 => rfl
  case h_3 head text closed =>
    rw [enter_ahead closed]
    split_ifs <;> rfl

theorem readItem_follow (fuel depth : Nat) (here : Cursor) :
    readItem (fuel + 1) depth here = follow id (readNode fuel depth here) (readItems fuel depth false) := by
  rw [readItem]
  rfl

theorem readColon_other {stop : Cursor} (skipped : stop.skipBlanks = ⟨head :: text,offset⟩) (other : head ≠ ':') :
    readColon stop = .error ⟨.expectedColon,offset + 1⟩ := by
  unfold readColon
  rw [skipped]
  dsimp only
  split
  case h_1 opened => cases opened
  case h_2 opened => exact absurd (List.cons.inj opened).1 other
  case h_3 => rfl

theorem valueAhead_colon (fuel depth start : Nat) (stop : Cursor) : valueAhead fuel depth start stop.skipBlanks =
    match readColon stop with
    | .error cause => torn start cause
    | .ok value => readNode fuel depth value := by
  rcases skipped : stop.skipBlanks with ⟨text,offset⟩
  cases text with
  | nil =>
    have ended : readColon stop = .error ⟨.unfinishedTable,offset⟩ := by
      unfold readColon
      rw [skipped]
      rfl
    rw [ended]
    rfl
  | cons head text =>
    by_cases colon : head = ':'
    · subst colon
      rw [readColon_exact skipped]
      rfl
    · rw [readColon_other skipped colon]
      exact valueAhead_other colon ..

theorem keyAhead_quote (text : List Char) (offset : Nat) : keyAhead ⟨'"' :: text,offset⟩ =
    readText ⟨text,offset + '"'.utf8Size⟩ >>= fun found => placed found.1 found.2 := rfl

def rowFrom (fuel depth : Nat) : Except Break ((String × Nat × Nat) × Cursor) → Rows (String × Nat × Node)
  | .error cause => .cut cause
  | .ok ((key,place,start),there) =>
    follow (fun node => (key,place,node)) (valueAhead fuel depth start there) (readRows fuel depth false)

theorem readRow_follow (fuel depth : Nat) (here : Cursor) :
    readRow (fuel + 1) depth here = rowFrom fuel depth (keyAhead here) := by
  obtain ⟨text,offset⟩ := here
  rw [readRow]
  dsimp only
  split
  case h_1 => rfl
  case h_2 => rfl
  case h_3 text =>
    rw [keyAhead_quote]
    dsimp only [Cursor.next]
    cases readText ⟨text,offset + '"'.utf8Size⟩ with
    | error cause => rfl
    | ok found =>
      obtain ⟨key,stop⟩ := found
      have placed' : (Except.ok (key,stop) >>= fun found : String × Cursor => placed found.1 found.2) =
          .ok ((key,behindKey stop,stop.offset),stop.skipBlanks) := rfl
      rw [placed']
      dsimp only [rowFrom]
      rw [valueAhead_colon]
      cases readColon stop <;> rfl
  case h_4 ended closed quote =>
    cases text with
    | nil => contradiction
    | cons head text =>
      have quote' : head ≠ '"' := by
        rintro rfl
        exact quote text rfl
      have closed' : head ≠ '\x7d' := by
        rintro rfl
        exact closed text rfl
      simp only [keyAhead,if_neg quote',if_neg closed',rowFrom]

def listed (start : Nat) (items : Rows Node) : Reading Node :=
  ⟨.list ⟨start,(items.stop.map Cursor.offset).getD start⟩ items.rows items.broken,items.stop⟩

def tabled (start : Nat) (rows : Rows (String × Nat × Node)) : Reading Node :=
  ⟨.table ⟨start,(rows.stop.map Cursor.offset).getD start⟩ rows.rows rows.broken,rows.stop⟩

def deeper (cause : Break) (inside : Nat → Rows α) : Nat → Rows α
  | 0 => .cut cause
  | depth+1 => inside depth

def nodeAhead (fuel depth : Nat) (here : Cursor) : Reading Node :=
  match here.rest with
  | [] => torn here.offset (here.fail .unfinishedValue)
  | head :: _ =>
    let cause : Break := ⟨.nestedTooDeep,here.offset + 1⟩
    if head = '[' then listed here.offset (deeper cause (readItems fuel · true here.next) depth)
    else if head = '\x7b' then tabled here.offset (deeper cause (readRows fuel · true here.next) depth)
    else scalarFrom here.offset (readAtom here)

theorem readNode_ahead (fuel depth : Nat) (here : Cursor) :
    readNode (fuel + 1) depth here = nodeAhead fuel depth here.skipBlanks := by
  rw [readNode.eq_def]
  dsimp only
  generalize here.skipBlanks = there
  obtain ⟨text,offset⟩ := there
  dsimp only
  split
  case h_9 head text none' true' false' quote minus list table =>
    have atom := readAtom_other none' true' false' quote minus text offset
    have opened : nodeAhead fuel depth ⟨head :: text,offset⟩ = scalarFrom offset (readAtom ⟨head :: text,offset⟩) :=
      (if_neg list).trans (if_neg table)
    rw [opened,atom]
    split_ifs <;> rfl
  case h_7 text =>
    have opened : nodeAhead fuel depth ⟨'[' :: text,offset⟩ = listed offset (deeper ⟨.nestedTooDeep,offset + 1⟩
        (readItems fuel · true ⟨text,offset + '['.utf8Size⟩) depth) := rfl
    rw [opened]
    cases depth with
    | zero => rfl
    | succ depth =>
      simp only [listed,deeper,Cursor.next]
      cases (readItems fuel depth true ⟨text,offset + '['.utf8Size⟩).stop <;> rfl
  case h_8 text =>
    have opened : nodeAhead fuel depth ⟨'\x7b' :: text,offset⟩ = tabled offset (deeper ⟨.nestedTooDeep,offset + 1⟩
        (readRows fuel · true ⟨text,offset + '\x7b'.utf8Size⟩) depth) := rfl
    rw [opened]
    cases depth with
    | zero => rfl
    | succ depth =>
      simp only [tabled,deeper,Cursor.next]
      cases (readRows fuel depth true ⟨text,offset + '\x7b'.utf8Size⟩).stop <;> rfl
  all_goals rfl

end LedgerSettings.Json
