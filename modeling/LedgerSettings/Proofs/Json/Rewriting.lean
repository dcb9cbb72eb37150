import LedgerSettings.Json.Cursor
import LedgerSettings.Proofs.Json.Fuel
import LedgerSettings.Proofs.Json.Holes
import LedgerSettings.Proofs.Json.Kinds

namespace LedgerSettings.Json

theorem byteCount_zero {text : List Char} (empty : byteCount text = 0) : text = [] := by
  cases text with
  | nil => rfl
  | cons head text =>
    have positive := head.utf8Size_pos
    rw [byteCount_cons] at empty
    omega

theorem byteCount_cut {before before' : List Char} (same : before ++ after = before' ++ after')
    (bytes : byteCount before ≤ byteCount before') : ∃ more,before' = before ++ more ∧ after = more ++ after' := by
  rcases List.append_eq_append_iff.mp same with ⟨more,rfl,rfl⟩ | ⟨more,rfl,rfl⟩
  · exact ⟨more,rfl,rfl⟩
  · rw [byteCount_append] at bytes
    have none' := byteCount_zero (show byteCount more = 0 by omega)
    subst none'
    exact ⟨[],by simp,by simp⟩

theorem byteCount_same {before before' : List Char} (same : before ++ after = before' ++ after')
    (bytes : byteCount before = byteCount before') : before = before' ∧ after = after' := by
  obtain ⟨more,rfl,rfl⟩ := byteCount_cut same (Nat.le_of_eq bytes)
  rw [byteCount_append] at bytes
  have none' := byteCount_zero (show byteCount more = 0 by omega)
  subst none'
  exact ⟨(List.append_nil _).symm,rfl⟩

-- The document in a text, whatever the fuel as long as it is enough.
def documentOf (reading : Reading Node) : Document :=
  ⟨reading.value,reading.stop.bind fun stop =>
    match stop.skipBlanks.rest with
    | [] => none
    | _ => some (stop.skipBlanks.failNext .trailingCharacters)⟩

theorem readDocument_fuel (text : List Char) (enough' : 3 * text.length + 3 ≤ fuel) :
    readDocument (String.ofList text) = documentOf (readNode fuel deepest ⟨text,0⟩) := by
  have same : Cursor.ofText (String.ofList text) = ⟨text,0⟩ := by rw [Cursor.ofText,String.toList_ofList]
  have first : readNode (3 * (String.ofList text).length + 3) deepest (.ofText (String.ofList text)) =
      readNode fuel deepest ⟨text,0⟩ := by
    rw [same,String.length_ofList]
    exact (enough _ _).node deepest _ (Nat.le_add_right _ 2) (Nat.le_trans (Nat.le_add_right _ 2) enough')
  rw [documentOf,← first]
  rfl

theorem room (text other : List Char) : ∃ fuel,3 * text.length + 3 ≤ fuel ∧ 3 * other.length + 3 ≤ fuel :=
  ⟨_,Nat.le_max_left _ _,Nat.le_max_right _ _⟩

-- A scalar as it is written between what stands before and behind it.
def Writes (before literal after : List Char) (content : Scalar) : Prop :=
  readAtom ⟨literal ++ after,byteCount before⟩ = .ok (content,⟨after,byteCount (before ++ literal)⟩)

namespace Writes

theorem inLine (writes : Writes before literal after content) : ∀ c ∈ literal,inLine c := by
  obtain ⟨taken,passes,every⟩ := (readAtom_steady _).passed writes
  rwa [List.append_cancel_right passes.rest]

theorem flag_same (writes : Writes before literal after (.flag value)) (writes' : Writes before other after (.flag value'))
    (size : byteCount other = byteCount literal) : value = value' := by
  have flag := readAtom_flag writes
  have flag' := readAtom_flag writes'
  simp only [byteCount_append,size] at flag flag'
  cases value <;> cases value' <;> first | rfl | (simp only [Bool.false_eq_true,↓reduceIte] at flag flag'; omega)

end Writes

-- A scalar was written in its place, and another one written there in as many bytes
-- takes its place in the node.
theorem readNode_refilled {frames : List Frame} {before literal after : List Char}
    (held : (readNode fuel depth ⟨before ++ literal ++ after,0⟩).value =
      .inside frames (.scalar ⟨byteCount before,byteCount (before ++ literal)⟩ first)) :
    Writes before literal after first ∧ ∀ {other second},Writes before other after second →
      byteCount other = byteCount literal → readNode fuel depth ⟨before ++ other ++ after,0⟩ =
        ⟨.inside frames (.scalar ⟨byteCount before,byteCount (before ++ literal)⟩ second),
          (readNode fuel depth ⟨before ++ literal ++ after,0⟩).stop⟩ := by
  cases (refilling _ first fuel).node depth _ held with
  | @stands before' literal' after' rest start found again =>
    rw [Nat.zero_add] at start
    have rest' : before ++ (literal ++ after) = before' ++ (literal' ++ after') := by
      simpa only [List.append_assoc] using rest
    obtain ⟨rfl,behind⟩ := byteCount_same rest' start
    obtain ⟨taken,passes,-⟩ := (readAtom_steady _).passed found
    have taken' : literal' = taken := List.append_cancel_right passes.rest
    have size : byteCount literal = byteCount literal' := by
      have offset := passes.offset
      rw [← taken',byteCount_append] at offset
      exact Nat.add_left_cancel offset
    obtain ⟨rfl,rfl⟩ := byteCount_same behind size
    refine ⟨found,fun {other second} writes size' => again other second ?_⟩
    rw [Writes,byteCount_append,size',← byteCount_append] at writes
    exact writes

theorem readDocument_refilled {frames : List Frame} {before literal after : List Char}
    (held : (readDocument (String.ofList (before ++ literal ++ after))).root =
      .inside frames (.scalar ⟨byteCount before,byteCount (before ++ literal)⟩ first)) :
    Writes before literal after first ∧ ∀ {other second},Writes before other after second →
      byteCount other = byteCount literal → readDocument (String.ofList (before ++ other ++ after)) =
        ⟨.inside frames (.scalar ⟨byteCount before,byteCount (before ++ literal)⟩ second),
          (readDocument (String.ofList (before ++ literal ++ after))).trailing⟩ := by
  have refilled := fun fuel => @readNode_refilled fuel deepest first frames before literal after
  constructor
  · rw [readDocument_fuel _ (Nat.le_refl _)] at held
    exact (refilled _ held).1
  · intro other second writes size
    obtain ⟨fuel,room,room'⟩ := room (before ++ literal ++ after) (before ++ other ++ after)
    rw [readDocument_fuel _ room] at held ⊢
    rw [readDocument_fuel _ room',(refilled fuel held).2 writes size]
    rfl

-- A text that breaks off reads the same whatever stands far enough behind the break.
theorem readDocument_unread {before literal : List Char}
    (broken : (readDocument (String.ofList (before ++ literal))).root.value = .error cause)
    (earlier : cause.offset < byteCount before) (other : List Char) :
    readDocument (String.ofList (before ++ other)) = readDocument (String.ofList (before ++ literal)) := by
  obtain ⟨fuel,room,room'⟩ := room (before ++ literal) (before ++ other)
  rw [readDocument_fuel _ room] at broken ⊢
  rw [readDocument_fuel _ room']
  have torn : (readNode fuel deepest ⟨before ++ literal,0⟩).value.torn? = some cause := by
    rw [Node.torn?]
    rw [documentOf] at broken
    rw [broken]
  cases (foresees fuel).node deepest ⟨before ++ literal,0⟩ with
  | stops found whole => cases torn.symm.trans whole
  | @breaks cause' taken rest found torn' split within again =>
    cases torn.symm.trans torn'
    rw [Nat.zero_add] at within
    obtain ⟨more,rfl,rfl⟩ := byteCount_cut split.symm (Nat.le_of_lt (Nat.lt_of_le_of_lt within earlier))
    have some' : more ≠ [] := by
      rintro rfl
      rw [List.append_nil] at earlier
      exact Nat.lt_irrefl _ (Nat.lt_of_le_of_lt within earlier)
    have alike : (more ++ other).head? = (more ++ literal).head? := by
      rw [List.head?_append_of_ne_nil _ some',List.head?_append_of_ne_nil _ some']
    have again' := again (more ++ other) alike
    rw [← List.append_assoc] at again'
    rw [again']

theorem behind_nothing (place : Place) (text : List Char) : place.behind 0 text = place := by
  rw [Place.behind]

theorem behind_plain (seen : inLine head) (place : Place) (offset : Nat) (text : List Char) :
    place.behind (offset + 1) (head :: text) =
      Place.behind ⟨place.line,place.column + min head.utf8Size (offset + 1)⟩ (offset + 1 - min head.utf8Size (offset + 1)) text := by
  rw [Place.behind]
  exact seen

theorem behind_line {text : List Char} (line : ∀ c ∈ text,inLine c) (place : Place) (offset : Nat) (after : List Char) :
    place.behind offset (text ++ after) =
      if offset ≤ byteCount text then ⟨place.line,place.column + offset⟩
      else Place.behind ⟨place.line,place.column + byteCount text⟩ (offset - byteCount text) after := by
  induction text generalizing place offset with
  | nil =>
    cases offset with
    | zero => exact behind_nothing place after
    | succ offset => exact (if_neg (Nat.not_succ_le_zero offset)).symm
  | cons head text ih =>
    obtain ⟨seen,line⟩ := List.forall_mem_cons.mp line
    cases offset with
    | zero => exact behind_nothing place _
    | succ offset =>
      rw [List.cons_append,behind_plain seen,ih line,byteCount_cons]
      by_cases within : offset + 1 ≤ head.utf8Size
      · rw [Nat.min_eq_right within,Nat.sub_self,if_pos (Nat.zero_le _),if_pos (Nat.le_add_right_of_le within)]
        rfl
      · rw [Nat.min_eq_left (Nat.le_of_not_le within)]
        by_cases inside : offset + 1 ≤ head.utf8Size + byteCount text
        · rw [if_pos inside,if_pos (by omega)]
          dsimp only
          congr 1
          omega
        · rw [if_neg inside,if_neg (by omega)]
          dsimp only
          congr 1
          · congr 1
            omega
          · omega

theorem behind_same {text other : List Char} (same : ∀ (place : Place) (offset : Nat),place.behind offset text = place.behind offset other)
    (before : List Char) (place : Place) (offset : Nat) : place.behind offset (before ++ text) = place.behind offset (before ++ other) := by
  induction before generalizing place offset with
  | nil => exact same place offset
  | cons head before ih =>
    cases offset with
    | zero => rw [behind_nothing,behind_nothing]
    | succ offset =>
      by_cases line : head = '\n'
      · subst line
        rw [List.cons_append,List.cons_append,Place.behind,Place.behind,ih]
      · rw [List.cons_append,List.cons_append,behind_plain line,behind_plain line,ih]

-- A piece of one line in place of another as long leaves every place where it is.
theorem ofOffset_same {literal other : List Char} (line : ∀ c ∈ literal,inLine c) (line' : ∀ c ∈ other,inLine c)
    (size : byteCount literal = byteCount other) (before after : List Char) (offset : Nat) :
    Place.ofOffset (String.ofList (before ++ literal ++ after)) offset =
      Place.ofOffset (String.ofList (before ++ other ++ after)) offset := by
  rw [Place.ofOffset,Place.ofOffset,String.toList_ofList,String.toList_ofList,List.append_assoc,List.append_assoc]
  apply behind_same
  intro place offset
  rw [behind_line line,behind_line line',size]

end LedgerSettings.Json
