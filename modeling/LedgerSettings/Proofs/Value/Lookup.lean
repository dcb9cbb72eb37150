import LedgerSettings.Proofs.Value.Order

namespace LedgerSettings

-- What stands under a key. Of equal keys the last one counts.
def latest? (key : String) (rows : List (String × α)) : Option α :=
  (rows.findRev? fun row => row.1 == key).map Prod.snd

theorem latest?_cons (key : String) (row : String × α) (rest : List (String × α)) :
    latest? key (row :: rest) = (latest? key rest).or (if row.1 = key then some row.2 else none) := by
  unfold latest?
  rw [List.findRev?]
  cases rest.findRev? fun row => row.1 == key with
  | some later => rfl
  | none =>
    by_cases named : row.1 = key <;> simp [named]

theorem latest?_map (change : α → β) (key : String) (rows : List (String × α)) :
    latest? key (rows.map fun row => (row.1,change row.2)) = (latest? key rows).map change := by
  induction rows with
  | nil => rfl
  | cons row rest ih =>
    rw [List.map_cons,latest?_cons,latest?_cons,ih]
    cases latest? key rest with
    | some later => rfl
    | none => split <;> rfl

theorem found_cons (key : String) (row : String × α) (rest : List (String × α)) :
    ((row :: rest).find? fun row => row.1 == key) =
      if row.1 = key then some row else rest.find? fun row => row.1 == key := by
  by_cases named : row.1 = key <;> simp [named]

theorem put_found (key name : String) (value : α) (rows : List (String × α)) :
    ((put name value rows).find? fun row => row.1 == key) =
      if name = key then some (name,value) else rows.find? fun row => row.1 == key := by
  induction rows with
  | nil => exact found_cons key (name,value) []
  | cons row rest ih =>
    rw [put]
    split
    · exact found_cons key (name,value) (row :: rest)
    · split
      · rename_i same
        rw [found_cons,found_cons,← same]
        by_cases named : name = key
        · rw [if_pos named,if_pos named]
        · rw [if_neg named,if_neg named,if_neg named]
      · rename_i different
        rw [found_cons,found_cons,ih]
        by_cases named : name = key
        · rw [if_pos named,if_pos named,if_neg fun same => different (named.trans same.symm)]
        · rw [if_neg named,if_neg named]

theorem collect_found (key : String) (rows : List (String × α)) :
    ((collect rows).find? fun row => row.1 == key).map Prod.snd = latest? key rows := by
  have general : ∀ rest kept : List (String × α),
      ((rest.foldl (fun kept row => put row.1 row.2 kept) kept).find? fun row => row.1 == key).map Prod.snd =
        (latest? key rest).or ((kept.find? fun row => row.1 == key).map Prod.snd) := by
    intro rest
    induction rest with
    | nil => exact fun kept => rfl
    | cons row rest ih =>
      intro kept
      rw [List.foldl_cons,ih,put_found,latest?_cons,Option.or_assoc]
      split <;> rfl
  exact (general rows []).trans (Option.or_none ..)

theorem latest?_collect (key : String) (rows : List (String × α)) : latest? key (collect rows) = latest? key rows := by
  rw [← collect_found,collect_ordered (collect rows) (collect_ascending rows),collect_found]

theorem Keyed.find?_ofRows (key : String) (rows : List (String × α)) : (ofRows rows).find? key = latest? key rows :=
  collect_found key rows

namespace Value

inductive Step where
  | key (name : String)
  | index (place : Nat)

def at? : List Step → Value → Option Value
  | [],tree => some tree
  | .key name :: path,.table rows => (latest? name rows).bind (at? path)
  | .index place :: path,.list items => items[place]?.bind (at? path)
  | _ :: _,_ => none

theorem settleItems_map (items : List Value) : settleItems items = items.map settle := by
  induction items with
  | nil => rfl
  | cons item rest ih => rw [settleItems,ih,List.map_cons]

-- Settling a tree moves nothing: what is found on the way to a place is what was
-- written there, settled.
theorem settle_at (path : List Step) (tree : Value) : at? path tree.settle = (at? path tree).map settle := by
  induction path generalizing tree with
  | nil => rfl
  | cons step path ih =>
    cases step with
    | key name =>
      cases tree with
      | scalar content => rfl
      | list items => rfl
      | table rows =>
        rw [settle,at?,at?,latest?_collect,settleRows_map,latest?_map]
        cases latest? name rows with
        | none => rfl
        | some inner => exact ih inner
    | index place =>
      cases tree with
      | scalar content => rfl
      | table rows => rfl
      | list items =>
        rw [settle,at?,at?,settleItems_map,List.getElem?_map]
        cases items[place]? with
        | none => rfl
        | some inner => exact ih inner

end Value

end LedgerSettings
