import LedgerSettings.Proofs.Json.Foresight

namespace LedgerSettings

inductive Kind where
  | null
  | flag
  | number
  | text
  deriving DecidableEq

def Scalar.kind : Scalar → Kind
  | .null => .null
  | .flag _ => .flag
  | .integer _ | .real _ => .number
  | .text _ => .text

namespace Json

def Numeric (read : Cursor → Except Break (Scalar × Cursor)) : Prop :=
  ∀ ⦃here content stop⦄,read here = .ok (content,stop) → content.kind = .number

theorem real_numeric (digits : Digits) (negative : Bool) : Numeric (digits.real negative) := by
  intro here content stop found
  unfold Digits.real at found
  split at found <;> cases found
  rfl

theorem whole_numeric (digits : Digits) (negative : Bool) : Numeric (digits.whole negative) := by
  intro here content stop found
  unfold Digits.whole at found
  split_ifs at found
  · exact real_numeric digits negative found
  all_goals
    cases found
    rfl

theorem readExponent_numeric (digits : Digits) (negative : Bool) : Numeric (readExponent digits negative) := by
  intro here content stop found
  unfold readExponent at found
  split at found
  split at found
  · cases found
  · split at found
    · split at found
      · exact real_numeric _ negative found
      · split at found
        · cases found
        · cases found
          rfl
    · cases found

theorem readFractionEnd_numeric (digits : Digits) (negative : Bool) : Numeric (readFractionEnd digits negative) := by
  intro here content stop found
  unfold readFractionEnd at found
  split at found
  · exact readExponent_numeric digits negative found
  · exact readExponent_numeric digits negative found
  · exact real_numeric digits negative found

theorem readNumberEnd_numeric (digits : Digits) (negative : Bool) : Numeric (readNumberEnd digits negative) := by
  intro here content stop found
  unfold readNumberEnd at found
  split at found
  · split at found
    split at found
    · cases found
    · exact readFractionEnd_numeric _ negative found
  · exact readExponent_numeric digits negative found
  · exact readExponent_numeric digits negative found
  · exact whole_numeric digits negative found

theorem readNumber_numeric (negative : Bool) : Numeric (readNumber negative) := by
  intro here content stop found
  unfold readNumber at found
  split at found
  · cases found
  · split at found
    · split_ifs at found
      exact readNumberEnd_numeric _ negative found
    · exact readNumberEnd_numeric _ negative found
  · split_ifs at found
    exact readNumberEnd_numeric _ negative found

theorem word_exact {expected : List Char} (found : Cursor.word ⟨text,offset⟩ expected = .ok stop) :
    stop.offset = offset + expected.length := by
  induction expected generalizing text offset with
  | nil =>
    cases found
    rfl
  | cons c expected ih =>
    cases text with
    | nil => cases found
    | cons head text =>
      unfold Cursor.word at found
      dsimp only at found
      split_ifs at found
      rw [ih found,List.length_cons]
      omega

theorem wordAtom_exact {expected : List Char} {word content : Scalar}
    (found : (Cursor.word ⟨text,offset⟩ expected).map (fun stop => (word,stop)) = .ok (content,stop)) :
    content = word ∧ stop.offset = offset + expected.length := by
  obtain ⟨_,spelled,same⟩ := map_ok.mp found
  cases same
  exact ⟨rfl,word_exact spelled⟩

theorem readAtom_flag {here : Cursor} (found : readAtom here = .ok (.flag value,stop)) :
    stop.offset = here.offset + if value then 4 else 5 := by
  obtain ⟨text,offset⟩ := here
  cases text with
  | nil => cases found
  | cons head text =>
    by_cases none' : head = 'n'
    · subst none'
      cases (wordAtom_exact found).1
    by_cases true' : head = 't'
    · subst true'
      obtain ⟨same,size⟩ := wordAtom_exact found
      cases same
      exact size
    by_cases false' : head = 'f'
    · subst false'
      obtain ⟨same,size⟩ := wordAtom_exact found
      cases same
      exact size
    by_cases quote : head = '"'
    · subst quote
      obtain ⟨read,-,same⟩ := map_ok.mp found
      cases same
    by_cases minus : head = '-'
    · subst minus
      cases readNumber_numeric true found
    rw [readAtom_other none' true' false' quote minus] at found
    split at found
    · cases readNumber_numeric false found
    · cases found

end Json

end LedgerSettings
