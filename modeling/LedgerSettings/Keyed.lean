namespace LedgerSettings

-- String order is the order of the keys' UTF-8 bytes, since both compare code points from the left.
def Ascending (rows : List (String × α)) : Prop :=
  rows.Pairwise fun left right => left.1 < right.1

def put (key : String) (value : α) : List (String × α) → List (String × α)
  | [] => [(key,value)]
  | row :: rest =>
    if key < row.1 then (key,value) :: row :: rest
    else if key = row.1 then (key,value) :: rest
    else row :: put key value rest

def collect (rows : List (String × α)) : List (String × α) :=
  rows.foldl (fun kept row => put row.1 row.2 kept) []

theorem put_member (key : String) (value : α) (rows : List (String × α)) (row : String × α)
    (member : row ∈ put key value rows) : row = (key,value) ∨ row ∈ rows := by
  induction rows with
  | nil => left; simpa [put] using member
  | cons head rest ih =>
    simp only [put] at member
    split at member
    · rcases List.mem_cons.mp member with rfl | old
      · exact .inl rfl
      · exact .inr old
    · split at member
      · rcases List.mem_cons.mp member with rfl | old
        · exact .inl rfl
        · exact .inr (List.mem_cons_of_mem _ old)
      · rcases List.mem_cons.mp member with rfl | old
        · exact .inr (by simp)
        · exact (ih old).imp id (List.mem_cons_of_mem _)

theorem put_ascending (key : String) (value : α) (rows : List (String × α))
    (ascending : Ascending rows) : Ascending (put key value rows) := by
  induction rows with
  | nil => simp [put,Ascending]
  | cons head rest ih =>
    obtain ⟨first,others⟩ := List.pairwise_cons.mp ascending
    simp only [put]
    split
    · rename_i before
      refine List.pairwise_cons.mpr ⟨?_,ascending⟩
      intro row member
      rcases List.mem_cons.mp member with rfl | old
      · exact before
      · exact String.lt_trans before (first row old)
    · split
      · rename_i _ same
        exact List.pairwise_cons.mpr ⟨fun row member => same ▸ first row member,others⟩
      · rename_i notBefore notSame
        have after : head.1 < key :=
          Std.lt_of_le_of_ne (String.not_lt.mp notBefore) (Ne.symm notSame)
        refine List.pairwise_cons.mpr ⟨?_,ih others⟩
        intro row member
        rcases put_member key value rest row member with new | old
        · exact new ▸ after
        · exact first row old

theorem collect_ascending (rows : List (String × α)) : Ascending (collect rows) := by
  have general : ∀ (rest kept : List (String × α)),Ascending kept →
      Ascending (rest.foldl (fun kept row => put row.1 row.2 kept) kept) := by
    intro rest
    induction rest with
    | nil => intro kept ascending; exact ascending
    | cons row rest ih => intro kept ascending; exact ih _ (put_ascending _ _ _ ascending)
  exact general rows [] List.Pairwise.nil

theorem collect_member (rows : List (String × α)) (row : String × α)
    (member : row ∈ collect rows) : row ∈ rows := by
  have general : ∀ (rest kept : List (String × α)),
      row ∈ rest.foldl (fun kept row => put row.1 row.2 kept) kept → row ∈ kept ∨ row ∈ rest := by
    intro rest
    induction rest with
    | nil => intro kept found; exact .inl found
    | cons head rest ih =>
      intro kept found
      rcases ih _ found with old | later
      · rcases put_member _ _ _ _ old with new | kept
        · exact .inr (new ▸ List.mem_cons_self)
        · exact .inl kept
      · exact .inr (List.mem_cons_of_mem _ later)
  exact (general rows [] member).resolve_left List.not_mem_nil

structure Keyed (α : Type) where
  rows : List (String × α)
  ascending : Ascending rows

namespace Keyed

def empty : Keyed α := ⟨[],List.Pairwise.nil⟩

def ofRows (rows : List (String × α)) : Keyed α := ⟨collect rows,collect_ascending rows⟩

def find? (entries : Keyed α) (key : String) : Option α :=
  (entries.rows.find? fun row => row.1 == key).map Prod.snd

def isEmpty (entries : Keyed α) : Bool := entries.rows.isEmpty

theorem same_rows (left right : Keyed α) (same : left.rows = right.rows) : left = right := by
  cases left; cases right; cases same; rfl

instance [BEq α] : BEq (Keyed α) := ⟨fun left right => left.rows == right.rows⟩

end Keyed

end LedgerSettings
