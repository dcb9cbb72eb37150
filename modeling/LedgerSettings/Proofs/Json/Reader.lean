import LedgerSettings.Json.Reader
import LedgerSettings.Proofs.Json.Number
import LedgerSettings.Proofs.Json.Text
import LedgerSettings.Proofs.Node
import LedgerSettings.Proofs.Value

namespace LedgerSettings.Json

-- Nothing but blanks stands between the cursor and the text.
def Cursor.Before (here : Cursor) (text : List Char) : Prop :=
  ∃ blanks : List Char,(∀ c ∈ blanks,isBlank c = true) ∧ here.rest = blanks ++ text

theorem before_self (text : List Char) (offset : Nat) : Cursor.Before ⟨text,offset⟩ text :=
  ⟨[],by simp,rfl⟩

theorem skipBlanksFrom_exact (blanks text : List Char) (offset : Nat)
    (every : ∀ c ∈ blanks,Cursor.isBlank c = true) :
    Cursor.skipBlanksFrom offset (blanks ++ text) = Cursor.skipBlanksFrom (offset + blanks.length) text := by
  induction blanks generalizing offset with
  | nil => rfl
  | cons blank blanks ih =>
    obtain ⟨first,others⟩ := List.forall_mem_cons.mp every
    rw [List.cons_append,Cursor.skipBlanksFrom,if_pos first,ih (offset + 1) others,List.length_cons]
    congr 1
    omega

theorem skipBlanks_head {here : Cursor} (before : here.Before (head :: text))
    (visible : Cursor.isBlank head = false) : ∃ after,here.skipBlanks = ⟨head :: text,after⟩ := by
  obtain ⟨blanks,every,rest⟩ := before
  refine ⟨here.offset + blanks.length,?_⟩
  simp [Cursor.skipBlanks,rest,skipBlanksFrom_exact blanks _ _ every,Cursor.skipBlanksFrom,visible]

theorem skipBlanks_nil {here : Cursor} (before : here.Before []) : here.skipBlanks.rest = [] := by
  obtain ⟨blanks,every,rest⟩ := before
  rw [Cursor.skipBlanks,rest,skipBlanksFrom_exact blanks _ _ every]
  rfl

theorem skipBlanksFrom_cases (text : List Char) (offset : Nat) :
    ∃ blanks,(∀ c ∈ blanks,Cursor.isBlank c = true) ∧
      text = blanks ++ (Cursor.skipBlanksFrom offset text).rest ∧
      ∀ head,(Cursor.skipBlanksFrom offset text).rest.head? = some head → Cursor.isBlank head = false := by
  induction text generalizing offset with
  | nil => exact ⟨[],by simp,rfl,by simp [Cursor.skipBlanksFrom]⟩
  | cons first text ih =>
    by_cases blank : Cursor.isBlank first
    · obtain ⟨blanks,every,same,visible⟩ := ih (offset + 1)
      refine ⟨first :: blanks,List.forall_mem_cons.mpr ⟨blank,every⟩,?_,?_⟩
      · rw [Cursor.skipBlanksFrom,if_pos blank,List.cons_append,← same]
      · rwa [Cursor.skipBlanksFrom,if_pos blank]
    · refine ⟨[],by simp,by simp [Cursor.skipBlanksFrom,blank],?_⟩
      simp [Cursor.skipBlanksFrom,blank]

theorem newline_blank (spacing : Spacing) (level : Nat) : ∀ c ∈ spacing.newline level,Cursor.isBlank c = true := by
  unfold Spacing.newline
  split
  · intro c member
    rcases List.mem_cons.mp member with rfl | space
    · rfl
    · rw [List.eq_of_mem_replicate space]
      rfl
  · simp

-- An atom that is read off its printed form, wherever that stands.
def InPlace (content : Scalar) : Prop :=
  ∀ fuel depth {here more},Ends more → Cursor.Before here (printScalar content ++ more) →
    ∃ span stop,readNode (fuel + 1) depth here = ⟨.scalar span content,some stop⟩ ∧ stop.Before more

theorem null_inPlace : InPlace .null := by
  intro fuel depth here more ends before
  obtain ⟨after,skipped⟩ := skipBlanks_head before (by decide)
  rw [readNode.eq_def]
  simp only [skipped]
  exact ⟨_,_,rfl,before_self _ _⟩

theorem flag_inPlace (value : Bool) : InPlace (.flag value) := by
  intro fuel depth here more ends before
  cases value with
  | true =>
    obtain ⟨after,skipped⟩ := skipBlanks_head before (by decide)
    rw [readNode.eq_def]
    simp only [skipped]
    exact ⟨_,_,rfl,before_self _ _⟩
  | false =>
    obtain ⟨after,skipped⟩ := skipBlanks_head before (by decide)
    rw [readNode.eq_def]
    simp only [skipped]
    exact ⟨_,_,rfl,before_self _ _⟩

theorem text_inPlace (value : String) : InPlace (.text value) := by
  intro fuel depth here more ends before
  obtain ⟨body,-,opened,-⟩ := readText_quote value more 0
  rw [printScalar,opened] at before
  obtain ⟨start,skipped⟩ := skipBlanks_head before (by decide)
  obtain ⟨body',after,again,read⟩ := readText_quote value more (start + '"'.utf8Size)
  rw [opened] at again
  cases again
  rw [readNode.eq_def]
  simp only [skipped,Cursor.next,read]
  exact ⟨_,_,rfl,before_self _ _⟩

theorem readNode_minus {here : Cursor} (skipped : here.skipBlanks = ⟨'-' :: text,offset⟩) :
    readNode (fuel + 1) depth here = scalarFrom offset (readNumber true ⟨text,offset + '-'.utf8Size⟩) := by
  rw [readNode.eq_def]
  simp only [skipped,Cursor.next]

theorem readNode_digit {here : Cursor} (skipped : here.skipBlanks = ⟨head :: text,offset⟩)
    (digit : head.isDigit = true) :
    readNode (fuel + 1) depth here = scalarFrom offset (readNumber false ⟨head :: text,offset⟩) := by
  rw [readNode.eq_def]
  simp only [skipped]
  split
  case h_9 head' _ _ _ _ _ _ _ _ opened =>
    cases opened
    rw [if_pos digit]
  all_goals
    rename_i opened
    cases opened <;> cases digit

theorem digit_visible (digit : head.isDigit = true) : Cursor.isBlank head = false := by
  rw [Char.isDigit_iff_toNat] at digit
  simp only [Cursor.isBlank,Bool.or_eq_false_iff,decide_eq_false_iff_not]
  refine ⟨⟨⟨?_,?_⟩,?_⟩,?_⟩ <;> rintro rfl <;> simp at digit

theorem natural_inPlace (n : Nat) (fits : n < wordLimit) : InPlace (.integer n) := by
  intro fuel depth here more ends before
  have printed : printScalar (.integer n) = Nat.toDigits 10 n := Nat.toList_repr
  have every : ∀ c ∈ Nat.toDigits 10 n,c.isDigit = true :=
    fun c member => Nat.isDigit_of_mem_toDigits (by decide) (by decide) member
  have read := readNumber_whole n fits false
  rw [printed] at before
  generalize Nat.toDigits 10 n = digits at before every read
  cases digits with
  | nil =>
    obtain ⟨after,read⟩ := read 0
    cases read
  | cons head digits =>
    have digit := every head (by simp)
    rw [List.cons_append] at before
    obtain ⟨start,skipped⟩ := skipBlanks_head before (digit_visible digit)
    obtain ⟨after,read⟩ := read start
    obtain ⟨stop,longer⟩ := readNumber_local false read ends start
    rw [readNode_digit skipped digit,← List.cons_append,longer]
    exact ⟨_,_,rfl,before_self _ _⟩

theorem negative_inPlace (n : Nat) (fits : n < 9223372036854775808) : InPlace (.integer (.negSucc n)) := by
  intro fuel depth here more ends before
  have printed : printScalar (.integer (.negSucc n)) = '-' :: Nat.toDigits 10 (n + 1) := by
    simp [printScalar,Int.repr]
  rw [printed,List.cons_append] at before
  obtain ⟨start,skipped⟩ := skipBlanks_head before (by decide)
  obtain ⟨after,read⟩ := readNumber_whole (n + 1) (by simp only [wordLimit]; omega) true 0
  have whole : (⟨n + 1,0,false⟩ : Digits).whole true ⟨[],after⟩ = .ok (.integer (.negSucc n),⟨[],after⟩) := by
    have within : 1 ≤ n + 1 ∧ n + 1 ≤ 9223372036854775808 := by omega
    rw [Digits.whole,if_neg Bool.false_ne_true,if_pos rfl,if_pos within,Int.negSucc_eq,Int.natCast_add]
    rfl
  rw [whole] at read
  obtain ⟨stop,longer⟩ := readNumber_local true read ends (start + '-'.utf8Size)
  rw [readNode_minus skipped,longer]
  exact ⟨_,_,rfl,before_self _ _⟩

theorem integer_inPlace (value : Int) (settled : (Scalar.integer value).Settled) : InPlace (.integer value) := by
  obtain ⟨low,high⟩ := settled
  cases value with
  | ofNat n =>
    rw [Int.ofNat_eq_natCast] at high
    exact natural_inPlace n (by simp only [wordLimit]; omega)
  | negSucc n => exact negative_inPlace n (by omega)

def ReadsBack (value : Value) : Prop :=
  (readDocument (pretty value)).root.value = .ok value ∧ (readDocument (pretty value)).trailing = none

theorem scalarFrom_exact {result : Except Break (Scalar × Cursor)} :
    (scalarFrom start result).value.value = .ok value ↔
      ∃ content stop,result = .ok (content,stop) ∧ .scalar content = value := by
  cases result with
  | error cause => simp [scalarFrom,torn,Node.value]
  | ok read => simp [scalarFrom,Node.value,Prod.ext_iff]

theorem wordFrom_value (read : (wordFrom here rest content).value.value = .ok value) :
    .scalar content = value := by
  obtain ⟨content',stop,mapped,same⟩ := scalarFrom_exact.mp read
  cases word : here.next.word rest.toList with
  | error cause => simp [word,Except.map] at mapped
  | ok stop' =>
    simp only [word,Except.map,Except.ok.injEq,Prod.mk.injEq] at mapped
    rw [mapped.1]
    exact same

theorem readNode_other {here : Cursor} (skipped : here.skipBlanks = ⟨head :: text,offset⟩) (minus : head ≠ '-')
    (digit : ¬head.isDigit = true) : (readNode (fuel + 1) depth here).value.value ≠ .ok (.real real) := by
  intro read
  rw [readNode.eq_def] at read
  simp only [skipped] at read
  split at read
  case h_1 => cases read
  case h_2 => cases wordFrom_value read
  case h_3 => cases wordFrom_value read
  case h_4 => cases wordFrom_value read
  case h_5 =>
    obtain ⟨content,stop,mapped,same⟩ := scalarFrom_exact.mp read
    cases same
    cases text' : readText (Cursor.next ⟨head :: text,offset⟩) with
    | error cause => simp [text',Except.map] at mapped
    | ok _ => simp [text',Except.map] at mapped
  case h_6 opened => exact absurd (List.cons.inj opened).1 minus
  case h_7 =>
    obtain ⟨contents,-,-,same⟩ := Node.value_list.mp read
    cases same
  case h_8 =>
    obtain ⟨contents,-,-,same⟩ := Node.value_table.mp read
    cases same
  case h_9 opened =>
    obtain ⟨rfl,-⟩ := List.cons.inj opened
    rw [if_neg digit] at read
    cases read

-- A real is only ever read behind a sign or from a digit on.
theorem readNode_real {here : Cursor} (read : (readNode fuel depth here).value.value = .ok (.real real)) :
    ∃ head text offset stop,here.skipBlanks = ⟨head :: text,offset⟩ ∧
      (readNode fuel depth here).stop = some stop ∧
      (head = '-' ∧ readNumber true ⟨text,offset + '-'.utf8Size⟩ = .ok (.real real,stop) ∨
        head.isDigit = true ∧ readNumber false ⟨head :: text,offset⟩ = .ok (.real real,stop)) := by
  cases fuel with
  | zero =>
    rw [readNode.eq_1] at read
    cases read
  | succ fuel =>
    rcases skipped : here.skipBlanks with ⟨rest,offset⟩
    cases rest with
    | nil =>
      rw [readNode.eq_def] at read
      simp only [skipped] at read
      cases read
    | cons head text =>
      by_cases minus : head = '-'
      · subst minus
        rw [readNode_minus skipped] at read ⊢
        obtain ⟨content,stop,number,same⟩ := scalarFrom_exact.mp read
        cases same
        exact ⟨_,_,_,stop,rfl,by rw [number]; rfl,.inl ⟨rfl,number⟩⟩
      · by_cases digit : head.isDigit
        · rw [readNode_digit skipped digit] at read ⊢
          obtain ⟨content,stop,number,same⟩ := scalarFrom_exact.mp read
          cases same
          exact ⟨_,_,_,stop,rfl,by rw [number]; rfl,.inr ⟨digit,number⟩⟩
        · exact absurd read (readNode_other skipped minus digit)

theorem skipBlanks_before (here : Cursor) : here.Before here.skipBlanks.rest := by
  obtain ⟨blanks,every,same,-⟩ := skipBlanksFrom_cases here.rest here.offset
  exact ⟨blanks,every,same⟩

theorem before_append {here : Cursor} (before : here.Before text) (more : List Char) (offset : Nat) :
    Cursor.Before ⟨here.rest ++ more,offset⟩ (text ++ more) := by
  obtain ⟨blanks,every,rest⟩ := before
  exact ⟨blanks,every,by simp [rest]⟩

theorem before_trans {here : Cursor} (before : here.Before middle)
    (more : Cursor.Before ⟨middle,offset⟩ text) : here.Before text := by
  obtain ⟨first,blank,rest⟩ := before
  obtain ⟨second,blank',rest'⟩ := more
  exact ⟨first ++ second,List.forall_mem_append.mpr ⟨blank,blank'⟩,by rw [rest,List.append_assoc,← rest']⟩

theorem before_blank {here : Cursor} (before : here.Before (blanks ++ text))
    (every : ∀ c ∈ blanks,Cursor.isBlank c = true) : here.Before text := by
  have inside : Cursor.Before ⟨blanks ++ text,0⟩ text := ⟨blanks,every,rfl⟩
  exact before_trans before inside

theorem trailing_none {reading : Reading Node} {stop : Cursor} (stopped : reading.stop = some stop)
    (none' : (readDocument text).trailing = none) (same : readNode (3 * text.length + 3) deepest (.ofText text) = reading) :
    stop.Before [] := by
  have before := skipBlanks_before stop
  simp only [readDocument,same,stopped,Option.bind_some] at none'
  split at none'
  case h_1 closed => rwa [closed] at before
  case h_2 => cases none'

theorem real_inPlace (back : ReadsBack (.real real)) : InPlace (.real real) := by
  intro fuel depth here more ends before
  obtain ⟨read,trailing⟩ := back
  obtain ⟨head,text,offset,stop,skipped,stopped,number⟩ := readNode_real read
  have closed : stop.Before [] := trailing_none stopped trailing rfl
  have printed : (Cursor.ofText (pretty (.real real))).rest = printScalar (.real real) := String.toList_ofList
  have opened := skipBlanks_before (Cursor.ofText (pretty (.real real)))
  rw [skipped] at opened
  have ahead : here.Before (head :: (text ++ more)) := by
    rw [← printed] at before
    exact before_trans before (before_append opened more 0)
  obtain ⟨rest,stop⟩ := stop
  rcases number with ⟨rfl,number⟩ | ⟨digit,number⟩
  · obtain ⟨start,skipped⟩ := skipBlanks_head ahead (by decide)
    obtain ⟨after,longer⟩ := readNumber_local true number ends (start + '-'.utf8Size)
    rw [readNode_minus skipped,longer]
    exact ⟨_,_,rfl,before_append closed more after⟩
  · obtain ⟨start,skipped⟩ := skipBlanks_head ahead (digit_visible digit)
    obtain ⟨after,longer⟩ := readNumber_local false number ends start
    rw [readNode_digit skipped digit,← List.cons_append,longer]
    exact ⟨_,_,rfl,before_append closed more after⟩

end LedgerSettings.Json
