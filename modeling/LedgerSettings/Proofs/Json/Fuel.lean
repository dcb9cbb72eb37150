import LedgerSettings.Proofs.Json.Outlook

namespace LedgerSettings.Json

theorem skipBlanks_shorter (here : Cursor) : here.skipBlanks.rest.length ≤ here.rest.length :=
  (skipBlanks_steady here).shorter rfl

theorem ahead_less {behind : Cursor → Except Break (Bool × Cursor)} (steady : ∀ there,Steady anywhere behind there)
    (found : ahead close unfinished expected behind false here = .ok (true,there)) :
    there.rest.length < here.rest.length := by
  obtain ⟨text,offset⟩ := here
  cases text with
  | nil => cases found
  | cons head text =>
    unfold ahead at found
    simp only [Bool.false_eq_true,↓reduceIte] at found
    split_ifs at found with closed comma
    · cases found
    · have behind := (steady _).shorter found
      have blanks := skipBlanks_shorter ⟨text,offset + head.utf8Size⟩
      exact Nat.lt_succ_of_le (Nat.le_trans behind blanks)

-- How much fuel the rows of a list or table call for, before the first one and behind it:
-- the readers call one another three times for an element, and an element behind another
-- has taken a comma.
def rowsFuel (first : Bool) (here : Cursor) : Nat := 3 * here.rest.length + if first then 3 else 1

theorem rowsFuel_first (here : Cursor) : rowsFuel true here = 3 * here.rest.length + 3 := rfl

theorem rowsFuel_behind (here : Cursor) : rowsFuel false here = 3 * here.rest.length + 1 := rfl

theorem rowsFuel_positive (first : Bool) (here : Cursor) : 0 < rowsFuel first here := by
  cases first <;> exact Nat.succ_pos _

theorem rowsFuel_ahead {behind : Cursor → Except Break (Bool × Cursor)} (steady : ∀ there,Steady anywhere behind there)
    (found : ahead close unfinished expected behind first here.skipBlanks = .ok (true,there)) :
    3 * there.rest.length + 3 ≤ rowsFuel first here := by
  have blanks := skipBlanks_shorter here
  cases first with
  | true =>
    have shorter := (ahead_steady _ _ _ steady true _).shorter found
    rw [rowsFuel_first]
    omega
  | false =>
    have less := ahead_less steady found
    rw [rowsFuel_behind]
    omega

theorem enter_same {inside other : Cursor → Rows α} (same : ∀ there,found = .ok (true,there) → inside there = other there) :
    enter found inside = enter found other := by
  rcases found with cause | ⟨element,there⟩
  · rfl
  · cases element with
    | false => rfl
    | true => exact same there rfl

theorem follow_same {others rest : Cursor → Rows α} (label : Node → α)
    (same : ∀ stop,first.stop = some stop → others stop = rest stop) : follow label first others = follow label first rest := by
  unfold follow
  cases stopped : first.stop with
  | none => rfl
  | some stop =>
    dsimp only
    rw [same stop stopped]

-- Two measures of fuel that are both enough read the same.
structure Enough (fuel other : Nat) : Prop where
  node : ∀ depth here,3 * here.rest.length + 1 ≤ fuel → 3 * here.rest.length + 1 ≤ other →
    readNode fuel depth here = readNode other depth here
  items : ∀ depth first here,rowsFuel first here ≤ fuel → rowsFuel first here ≤ other →
    readItems fuel depth first here = readItems other depth first here
  item : ∀ depth here,3 * here.rest.length + 2 ≤ fuel → 3 * here.rest.length + 2 ≤ other →
    readItem fuel depth here = readItem other depth here
  rows : ∀ depth first here,rowsFuel first here ≤ fuel → rowsFuel first here ≤ other →
    readRows fuel depth first here = readRows other depth first here
  row : ∀ depth here,3 * here.rest.length + 2 ≤ fuel → 3 * here.rest.length + 2 ≤ other →
    readRow fuel depth here = readRow other depth here

namespace Enough

variable {fuel other : Nat}

theorem never (empty : fuel = 0 ∨ other = 0) : Enough fuel other := by
  constructor
  · intro depth here
    omega
  · intro depth first here
    have positive := rowsFuel_positive first here
    omega
  · intro depth here
    omega
  · intro depth first here
    have positive := rowsFuel_positive first here
    omega
  · intro depth here
    omega

theorem node_next (enough : Enough fuel other) (depth : Nat) (here : Cursor) (within : 3 * here.rest.length + 1 ≤ fuel + 1)
    (within' : 3 * here.rest.length + 1 ≤ other + 1) : readNode (fuel + 1) depth here = readNode (other + 1) depth here := by
  rw [readNode_ahead,readNode_ahead]
  have blanks := skipBlanks_shorter here
  generalize here.skipBlanks = there at blanks
  obtain ⟨text,offset⟩ := there
  cases text with
  | nil => rfl
  | cons head text =>
    have inside : rowsFuel true ⟨text,offset + head.utf8Size⟩ ≤ 3 * here.rest.length := by
      rw [rowsFuel_first]
      exact Nat.mul_le_mul_left 3 blanks
    unfold nodeAhead
    dsimp only
    split_ifs
    · cases depth with
      | zero => rfl
      | succ depth =>
        exact congrArg (listed offset) (enough.items depth true _ (Nat.le_trans inside (by omega)) (Nat.le_trans inside (by omega)))
    · cases depth with
      | zero => rfl
      | succ depth =>
        exact congrArg (tabled offset) (enough.rows depth true _ (Nat.le_trans inside (by omega)) (Nat.le_trans inside (by omega)))
    · rfl

theorem items_next (enough : Enough fuel other) (depth : Nat) (first : Bool) (here : Cursor)
    (within : rowsFuel first here ≤ fuel + 1) (within' : rowsFuel first here ≤ other + 1) :
    readItems (fuel + 1) depth first here = readItems (other + 1) depth first here := by
  rw [readItems_enter,readItems_enter]
  apply enter_same
  intro there found
  have less := rowsFuel_ahead nextItem_steady found
  exact enough.item depth there (by omega) (by omega)

theorem rows_next (enough : Enough fuel other) (depth : Nat) (first : Bool) (here : Cursor)
    (within : rowsFuel first here ≤ fuel + 1) (within' : rowsFuel first here ≤ other + 1) :
    readRows (fuel + 1) depth first here = readRows (other + 1) depth first here := by
  rw [readRows_enter,readRows_enter]
  apply enter_same
  intro there found
  have less := rowsFuel_ahead (fun _ => .stays fun _ _ => rfl) found
  exact enough.row depth there (by omega) (by omega)

theorem item_next (enough : Enough fuel other) (depth : Nat) (here : Cursor) (within : 3 * here.rest.length + 2 ≤ fuel + 1)
    (within' : 3 * here.rest.length + 2 ≤ other + 1) : readItem (fuel + 1) depth here = readItem (other + 1) depth here := by
  rw [readItem_follow,readItem_follow,enough.node depth here (by omega) (by omega)]
  apply follow_same
  intro stop stopped
  have shorter := ((foresees other).node depth here).shorter stopped
  have room := rowsFuel_behind stop
  exact enough.items depth false stop (by omega) (by omega)

theorem value (enough : Enough fuel other) (depth start : Nat) (here : Cursor) (within : 3 * here.rest.length ≤ fuel + 1)
    (within' : 3 * here.rest.length ≤ other + 1) : valueAhead fuel depth start here = valueAhead other depth start here := by
  obtain ⟨text,offset⟩ := here
  cases text with
  | nil => rfl
  | cons head text =>
    rw [List.length_cons] at within within'
    have inside := enough.node depth ⟨text,offset + head.utf8Size⟩ (by dsimp only; omega) (by dsimp only; omega)
    unfold valueAhead
    dsimp only [Cursor.next]
    rw [inside]

theorem row_next (enough : Enough fuel other) (depth : Nat) (here : Cursor) (within : 3 * here.rest.length + 2 ≤ fuel + 1)
    (within' : 3 * here.rest.length + 2 ≤ other + 1) : readRow (fuel + 1) depth here = readRow (other + 1) depth here := by
  rw [readRow_follow,readRow_follow]
  cases found : keyAhead here with
  | error cause => rfl
  | ok found' =>
    obtain ⟨⟨key,place,start⟩,there⟩ := found'
    have behindKey := (keyAhead_steady here).shorter found
    dsimp only [rowFrom]
    rw [enough.value depth start there (by omega) (by omega)]
    apply follow_same
    intro stop stopped
    have shorter := ((foresees other).value depth start there).shorter stopped
    have room := rowsFuel_behind stop
    exact enough.rows depth false stop (by omega) (by omega)

end Enough

theorem enough (fuel other : Nat) : Enough fuel other := by
  induction fuel generalizing other with
  | zero => exact .never (.inl rfl)
  | succ fuel ih =>
    cases other with
    | zero => exact .never (.inr rfl)
    | succ other =>
      have within := ih other
      exact ⟨within.node_next,within.items_next,within.item_next,within.rows_next,within.row_next⟩

end LedgerSettings.Json
