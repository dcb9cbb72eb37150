import Mathlib.Data.List.TakeWhile
import Mathlib.Tactic.SplitIfs
import LedgerSettings.Json.Printer
import LedgerSettings.Json.Scalar

namespace LedgerSettings.Json

def carriesOn (c : Char) : Bool := c.isDigit || c = '.' || c = 'e' || c = 'E'

-- A text that cannot carry on a number: whatever stands before it ends here.
def Ends (more : List Char) : Prop := ∀ head,more.head? = some head → carriesOn head = false

-- A reader that takes as much of a longer text as of a shorter one it could read,
-- wherever the text stands.
def Local (read : Cursor → Except Break (α × Cursor)) : Prop :=
  ∀ {text offset content rest stop},read ⟨text,offset⟩ = .ok (content,⟨rest,stop⟩) →
    ∀ {more},Ends more → ∀ other,∃ after,read ⟨text ++ more,other⟩ = .ok (content,⟨rest ++ more,after⟩)

theorem ends_head (ends : Ends more) (other : text.head? ≠ some c) (carries : carriesOn c = true) :
    (text ++ more).head? ≠ some c := by
  intro first
  cases text with
  | nil => simp [ends c first] at carries
  | cons head text => exact other first

theorem ends_digit (ends : Ends (head :: more)) : head.isDigit = false := by
  have plain := ends head rfl
  simp only [carriesOn,Bool.or_eq_false_iff] at plain
  exact plain.1.1.1

theorem takeWhile_ends (text : List Char) (ends : Ends more) :
    (text ++ more).takeWhile Char.isDigit = text.takeWhile Char.isDigit := by
  induction text with
  | nil =>
    cases more with
    | nil => rfl
    | cons head more => simp [ends_digit ends]
  | cons head text ih => simp [List.takeWhile_cons,ih]

theorem spanDigits_local (text : List Char) (offset other : Nat) (ends : Ends more) :
    spanDigits ⟨text ++ more,other⟩ = ((spanDigits ⟨text,offset⟩).1,
      ⟨(spanDigits ⟨text,offset⟩).2.rest ++ more,other + (spanDigits ⟨text,offset⟩).1.length⟩) := by
  have within : (text.takeWhile Char.isDigit).length ≤ text.length := (List.takeWhile_sublist _).length_le
  simp only [spanDigits,takeWhile_ends text ends,List.drop_append_of_le_length within]

theorem exponentFrom_local (text : List Char) (here there : Cursor) (value : Nat) (ends : Ends more) :
    ∃ after,exponentFrom there value (text ++ more) = ((exponentFrom here value text).1,
      (exponentFrom here value text).2.1,⟨(exponentFrom here value text).2.2.rest ++ more,after⟩) := by
  induction text generalizing here there value with
  | nil =>
    cases more with
    | nil => exact ⟨there.offset,rfl⟩
    | cons head more => exact ⟨there.offset,by simp [exponentFrom,ends_digit ends]⟩
  | cons head text ih =>
    simp only [List.cons_append,exponentFrom]
    split
    · split
      · exact ⟨_,rfl⟩
      · exact ih _ _ _
    · exact ⟨_,rfl⟩

theorem real_local (digits : Digits) (negative : Bool) : Local (digits.real negative) := by
  intro text offset content rest stop read more _ other
  unfold Digits.real at read ⊢
  cases reached : scaled 4 (Float.ofNat digits.significand) digits.exponent with
  | none => simp [reached] at read
  | some value =>
    simp only [reached,Except.ok.injEq,Prod.mk.injEq,Cursor.mk.injEq] at read
    obtain ⟨rfl,rfl,-⟩ := read
    exact ⟨other,rfl⟩

theorem whole_local (digits : Digits) (negative : Bool) : Local (digits.whole negative) := by
  intro text offset content rest stop read more ends other
  unfold Digits.whole at read ⊢
  by_cases full : digits.full
  · rw [if_pos full] at read ⊢
    exact real_local digits negative read ends other
  · rw [if_neg full] at read ⊢
    split_ifs at read ⊢ <;> cases read <;> exact ⟨other,rfl⟩

def readExponentEnd (digits : Digits) (negative down : Bool) (here : Cursor) : Except Break (Scalar × Cursor) :=
  match here.rest with
  | [] => .error (here.fail .unfinishedValue)
  | head :: _ =>
    if head.isDigit then
      match exponentFrom here 0 here.rest with
      | (value,true,stop) =>
        let shift : Int := if down then -value else value
        {digits with exponent := digits.exponent + shift}.real negative stop
      | (_,false,stop) =>
        if digits.significand ≠ 0 ∧ !down then .error (stop.fail .numberOutOfRange)
        else .ok (.real (if negative then -0.0 else 0.0),(spanDigits stop).2)
    else .error ⟨.invalidNumber,here.offset + 1⟩

theorem readExponent_unsigned (up : here.rest.head? ≠ some '+') (down : here.rest.head? ≠ some '-') :
    readExponent digits negative here = readExponentEnd digits negative false here := by
  obtain ⟨rest,offset⟩ := here
  unfold readExponent
  split
  rename_i down' start reached
  split at reached
  case h_1 opened => exact absurd (congrArg List.head? opened) up
  case h_2 opened => exact absurd (congrArg List.head? opened) down
  case h_3 =>
    cases reached
    rfl

theorem readExponentEnd_local (digits : Digits) (negative down : Bool) :
    Local (readExponentEnd digits negative down) := by
  intro text offset content rest stop read more ends other
  cases text with
  | nil => cases read
  | cons head text =>
    obtain ⟨after,longer⟩ := exponentFrom_local (head :: text) ⟨head :: text,offset⟩
      ⟨head :: text ++ more,other⟩ 0 ends
    unfold readExponentEnd at read ⊢
    simp only [List.cons_append] at read longer ⊢
    by_cases digit : head.isDigit
    · simp only [digit,↓reduceIte,longer] at read ⊢
      generalize exponentFrom ⟨head :: text,offset⟩ 0 (head :: text) = reached at read ⊢
      obtain ⟨value,complete,behind⟩ := reached
      cases complete with
      | true => exact real_local _ negative read ends _
      | false =>
        by_cases beyond : digits.significand ≠ 0 ∧ !down
        · simp [beyond] at read
        · simp only [if_neg beyond,Except.ok.injEq,Prod.mk.injEq] at read ⊢
          obtain ⟨rfl,passed⟩ := read
          have span := spanDigits_local behind.rest behind.offset after ends
          rw [passed] at span
          exact ⟨_,rfl,congrArg Prod.snd span⟩
    · simp [digit] at read

theorem readExponent_local (digits : Digits) (negative : Bool) : Local (readExponent digits negative) := by
  intro text offset content rest stop read more ends other
  cases text with
  | nil => cases read
  | cons head text =>
    by_cases plus : head = '+'
    · subst plus
      exact readExponentEnd_local digits negative false read ends _
    · by_cases minus : head = '-'
      · subst minus
        exact readExponentEnd_local digits negative true read ends _
      · rw [readExponent_unsigned (by simpa using plus) (by simpa using minus)] at read ⊢
        exact readExponentEnd_local digits negative false read ends _

theorem readFractionEnd_plain (small : here.rest.head? ≠ some 'e') (large : here.rest.head? ≠ some 'E') :
    readFractionEnd digits negative here = digits.real negative here := by
  unfold readFractionEnd
  split
  case h_1 opened => exact absurd (congrArg List.head? opened) small
  case h_2 opened => exact absurd (congrArg List.head? opened) large
  case h_3 => rfl

theorem readNumberEnd_plain (point : here.rest.head? ≠ some '.') (small : here.rest.head? ≠ some 'e')
    (large : here.rest.head? ≠ some 'E') : readNumberEnd digits negative here = digits.whole negative here := by
  unfold readNumberEnd
  split
  case h_1 opened => exact absurd (congrArg List.head? opened) point
  case h_2 opened => exact absurd (congrArg List.head? opened) small
  case h_3 opened => exact absurd (congrArg List.head? opened) large
  case h_4 => rfl

theorem readFractionEnd_local (digits : Digits) (negative : Bool) : Local (readFractionEnd digits negative) := by
  intro text offset content rest stop read more ends other
  by_cases small : text.head? = some 'e'
  · obtain ⟨text,rfl⟩ := List.head?_eq_some_iff.mp small
    exact readExponent_local digits negative read ends _
  · by_cases large : text.head? = some 'E'
    · obtain ⟨text,rfl⟩ := List.head?_eq_some_iff.mp large
      exact readExponent_local digits negative read ends _
    · rw [readFractionEnd_plain small large] at read
      rw [readFractionEnd_plain (ends_head ends small rfl) (ends_head ends large rfl)]
      exact real_local digits negative read ends _

theorem readNumberEnd_local (digits : Digits) (negative : Bool) : Local (readNumberEnd digits negative) := by
  intro text offset content rest stop read more ends other
  by_cases point : text.head? = some '.'
  · obtain ⟨text,rfl⟩ := List.head?_eq_some_iff.mp point
    have span := spanDigits_local text (offset + '.'.utf8Size) (other + '.'.utf8Size) ends
    rcases taken : spanDigits ⟨text,offset + '.'.utf8Size⟩ with ⟨fraction,behind⟩
    rw [taken] at span
    simp only [readNumberEnd,List.cons_append,Cursor.next,taken,span] at read ⊢
    cases fraction with
    | nil => cases read
    | cons digit fraction => exact readFractionEnd_local _ negative read ends _
  · by_cases small : text.head? = some 'e'
    · obtain ⟨text,rfl⟩ := List.head?_eq_some_iff.mp small
      exact readExponent_local digits negative read ends _
    · by_cases large : text.head? = some 'E'
      · obtain ⟨text,rfl⟩ := List.head?_eq_some_iff.mp large
        exact readExponent_local digits negative read ends _
      · rw [readNumberEnd_plain point small large] at read
        rw [readNumberEnd_plain (ends_head ends point rfl) (ends_head ends small rfl) (ends_head ends large rfl)]
        exact whole_local digits negative read ends _

theorem readNumber_zero (single : ∀ head tail,text = head :: tail → head.isDigit = false) :
    readNumber negative ⟨'0' :: text,offset⟩ =
      readNumberEnd ⟨0,0,false⟩ negative ⟨text,offset + '0'.utf8Size⟩ := by
  cases text with
  | nil => rfl
  | cons head text => simp [readNumber,single head text rfl,Cursor.next]

theorem readNumber_digits (digit : head.isDigit = true) (open' : head ≠ '0') :
    readNumber negative ⟨head :: text,offset⟩ =
      readNumberEnd ((spanDigits ⟨head :: text,offset⟩).1.foldl Digits.before ⟨0,0,false⟩) negative
        (spanDigits ⟨head :: text,offset⟩).2 := by
  simp [readNumber,digit]

theorem readNumber_local (negative : Bool) : Local (readNumber negative) := by
  intro text offset content rest stop read more ends other
  cases text with
  | nil => cases read
  | cons head text =>
    by_cases zero : head = '0'
    · subst zero
      cases text with
      | nil =>
        rw [readNumber_zero (by simp)] at read
        rw [List.cons_append,readNumber_zero (by rintro head tail rfl; exact ends_digit ends)]
        exact readNumberEnd_local _ negative read ends _
      | cons second text =>
        by_cases digit : second.isDigit
        · simp [readNumber,digit] at read
        · have single : ∀ tail head rest,second :: tail = head :: rest → head.isDigit = false := by
            rintro _ _ _ ⟨⟩
            simpa using digit
          rw [readNumber_zero (single text)] at read
          rw [List.cons_append,List.cons_append,readNumber_zero (single _)]
          exact readNumberEnd_local _ negative read ends _
    · by_cases digit : head.isDigit
      · rw [readNumber_digits digit zero] at read
        rw [List.cons_append,readNumber_digits digit zero,← List.cons_append,
          spanDigits_local (head :: text) offset other ends]
        exact readNumberEnd_local _ negative read ends _
      · simp [readNumber,digit] at read

theorem before_exact (n : Nat) (fits : n < wordLimit) :
    (Nat.toDigits 10 n).foldl Digits.before ⟨0,0,false⟩ = ⟨n,0,false⟩ := by
  induction n using Nat.base_induction 10 (by decide) with
  | single n small =>
    rw [Nat.toDigits_of_lt_base small]
    simp [Digits.before,digitValue,Nat.toNat_digitChar_sub_48_of_lt_ten small,Nat.not_le.mpr fits]
  | digit n last small positive ih =>
    have shorter : n < wordLimit := by omega
    rw [← Nat.toDigits_append_toDigits (by decide) positive small,List.foldl_append,ih shorter,
      Nat.toDigits_of_lt_base small]
    have grown : n * 10 + last < wordLimit := by omega
    simp [Digits.before,digitValue,Nat.toNat_digitChar_sub_48_of_lt_ten small,Nat.not_le.mpr grown,Nat.mul_comm]

theorem spanDigits_all (digits : List Char) (every : ∀ c ∈ digits,c.isDigit = true) (offset : Nat) :
    spanDigits ⟨digits,offset⟩ = (digits,⟨[],offset + digits.length⟩) := by
  have taken : digits.takeWhile Char.isDigit = digits := List.takeWhile_eq_self_iff.mpr every
  simp [spanDigits,taken]

theorem toDigits_head (positive : 0 < n) : (Nat.toDigits 10 n).head? ≠ some '0' := by
  induction n using Nat.base_induction 10 (by decide) with
  | single n small =>
    rw [Nat.toDigits_of_lt_base small]
    simpa using Nat.pos_iff_ne_zero.mp positive
  | digit n last small above ih =>
    rw [← Nat.toDigits_append_toDigits (by decide) above small,List.head?_append]
    cases first : (Nat.toDigits 10 n).head? with
    | none => simp at first
    | some head => simpa [first] using ih above

-- The digits of a word come back as that word, whatever its sign then makes of it.
theorem readNumber_whole (n : Nat) (fits : n < wordLimit) (negative : Bool) (offset : Nat) :
    ∃ after,readNumber negative ⟨Nat.toDigits 10 n,offset⟩ =
      (⟨n,0,false⟩ : Digits).whole negative ⟨[],after⟩ := by
  by_cases zero : n = 0
  · subst zero
    exact ⟨offset + '0'.utf8Size,rfl⟩
  · have first := toDigits_head (Nat.pos_of_ne_zero zero)
    have every : ∀ c ∈ Nat.toDigits 10 n,c.isDigit = true :=
      fun c member => Nat.isDigit_of_mem_toDigits (by decide) (by decide) member
    have span := spanDigits_all _ every offset
    have grown := before_exact n fits
    generalize Nat.toDigits 10 n = digits at first every span grown
    cases digits with
    | nil => cases grown; exact absurd rfl zero
    | cons head digits =>
      rw [readNumber_digits (every head (by simp)) (by simpa using first),span,grown]
      exact ⟨_,rfl⟩

end LedgerSettings.Json
