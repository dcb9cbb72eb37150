import LedgerSettings.Json.Printer
import LedgerSettings.Json.Scalar

namespace LedgerSettings.Json

theorem hexDigits_exact (n : Nat) (control : n < 0x20) :
    fourHex '0' '0' (hexDigit (n / 16)) (hexDigit (n % 16)) = some n := by
  have every : ∀ n < 0x20,fourHex '0' '0' (hexDigit (n / 16)) (hexDigit (n % 16)) = some n := by decide
  exact every n control

theorem readUnit_exact (a b c d : Char) (rest : List Char) (offset : Nat)
    (unit : fourHex a b c d = some value) :
    readUnit ⟨a :: b :: c :: d :: rest,offset⟩ = .ok (value,⟨rest,offset + 4⟩) := by
  simp [readUnit,unit]

-- Every character is written raw or behind a backslash, and is found again there.
theorem escape_exact (c : Char) :
    (escape c = [c] ∧ c ≠ '"' ∧ c ≠ '\\' ∧ 0x20 ≤ c.toNat) ∨
    ∃ code,escape c = '\\' :: code ∧
      ∀ rest offset,∃ after,readEscape ⟨code ++ rest,offset⟩ = .ok (c,⟨rest,after⟩) := by
  unfold escape
  split
  case h_8 _ quote slash _ _ _ _ _ =>
    by_cases control : c.toNat < 0x20
    · right
      rw [if_pos control]
      refine ⟨_,rfl,fun rest offset => ⟨offset + 'u'.utf8Size + 4,?_⟩⟩
      have read := readUnit_exact '0' '0' _ _ rest (offset + 'u'.utf8Size) (hexDigits_exact c.toNat control)
      have notTrailing : isTrailing c.toNat = false := by
        simp only [isTrailing,Bool.and_eq_false_iff,decide_eq_false_iff_not]
        omega
      have notLeading : isLeading c.toNat = false := by
        simp only [isLeading,Bool.and_eq_false_iff,decide_eq_false_iff_not]
        omega
      simp only [List.cons_append,List.nil_append,readEscape,Cursor.next,read]
      simp [bind,Except.bind,pure,Except.pure,notTrailing,notLeading,Char.ofNat_toNat]
    · left
      rw [if_neg control]
      exact ⟨rfl,quote,slash,by omega⟩
  all_goals exact .inr ⟨_,rfl,fun rest offset => ⟨_,rfl⟩⟩

theorem readTextFrom_exact (text measure more read : List Char) (offset : Nat)
    (enough : text.length < measure.length) :
    ∃ after,readTextFrom measure ⟨text.flatMap escape ++ '"' :: more,offset⟩ read =
      .ok (String.ofList (read.reverse ++ text),⟨more,after⟩) := by
  induction text generalizing measure offset read with
  | nil =>
    cases measure with
    | nil => simp at enough
    | cons _ measure => exact ⟨offset + '"'.utf8Size,by simp [readTextFrom,Cursor.next]⟩
  | cons c text ih =>
    cases measure with
    | nil => simp at enough
    | cons _ measure =>
      have enough : text.length < measure.length := by simpa using enough
      rw [List.flatMap_cons,List.append_assoc]
      rcases escape_exact c with ⟨raw,quote,slash,visible⟩ | ⟨code,escaped,read'⟩
      · obtain ⟨after,round⟩ := ih measure (c :: read) (offset + c.utf8Size) enough
        refine ⟨after,?_⟩
        rw [raw,List.singleton_append,readTextFrom]
        simp only [List.reverse_cons,List.append_assoc,List.singleton_append] at round
        simp [Nat.not_lt.mpr visible,Cursor.next,round]
      · obtain ⟨next,found⟩ := read' (text.flatMap escape ++ '"' :: more) (offset + '\\'.utf8Size)
        obtain ⟨after,round⟩ := ih measure (c :: read) next enough
        refine ⟨after,?_⟩
        rw [escaped,List.cons_append,readTextFrom]
        simp only [List.reverse_cons,List.append_assoc,List.singleton_append] at round
        simp [Cursor.next,found,bind,Except.bind,round]

theorem escape_length (text : List Char) : text.length ≤ (text.flatMap escape).length := by
  induction text with
  | nil => simp
  | cons c text ih =>
    have some' : 0 < (escape c).length := by
      rcases escape_exact c with ⟨raw,-⟩ | ⟨code,escaped,-⟩
      · simp [raw]
      · simp [escaped]
    simp only [List.flatMap_cons,List.length_append,List.length_cons]
    omega

theorem readText_quote (text : String) (more : List Char) (offset : Nat) :
    ∃ body after,quote text ++ more = '"' :: body ∧ readText ⟨body,offset⟩ = .ok (text,⟨more,after⟩) := by
  have enough : text.toList.length < (text.toList.flatMap escape ++ '"' :: more).length := by
    have := escape_length text.toList
    simp only [List.length_append,List.length_cons]
    omega
  obtain ⟨after,round⟩ := readTextFrom_exact text.toList _ more [] offset enough
  refine ⟨text.toList.flatMap escape ++ '"' :: more,after,by simp [quote],?_⟩
  simpa [readText] using round

end LedgerSettings.Json
