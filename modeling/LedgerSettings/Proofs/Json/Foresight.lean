import LedgerSettings.Json.Reader
import LedgerSettings.Proofs.Json.Number
import LedgerSettings.Proofs.Outcome

namespace LedgerSettings.Json

theorem byteCount_append (text more : List Char) : byteCount (text ++ more) = byteCount text + byteCount more := by
  induction text with
  | nil => exact (Nat.zero_add _).symm
  | cons head text ih => simp only [List.cons_append,byteCount,List.foldr_cons] at ih ⊢; omega

theorem head_append {text more other : List Char} (same : more.head? = other.head?) :
    (text ++ more).head? = (text ++ other).head? := by
  cases text with
  | nil => exact same
  | cons head text => rfl

-- From a cursor to the one behind a piece of its text.
structure Cursor.Passes (here : Cursor) (taken : List Char) (stop : Cursor) : Prop where
  rest : here.rest = taken ++ stop.rest
  offset : stop.offset = here.offset + byteCount taken

namespace Cursor.Passes

theorem nothing (here : Cursor) : here.Passes [] here := ⟨rfl,rfl⟩

theorem trans (first : Passes here taken middle) (second : Passes middle more stop) : Passes here (taken ++ more) stop := by
  constructor
  · rw [first.rest,second.rest,List.append_assoc]
  · rw [second.offset,first.offset,byteCount_append,Nat.add_assoc]

theorem head {start : Nat} (passes : Passes ⟨text,start + c.utf8Size⟩ taken stop) :
    Passes ⟨c :: text,start⟩ (c :: taken) stop := by
  constructor
  · exact congrArg (c :: ·) passes.rest
  · rw [passes.offset]
    exact Nat.add_assoc ..

theorem shorter (passes : Passes here taken stop) : stop.rest.length ≤ here.rest.length := by
  rw [passes.rest,List.length_append]
  exact Nat.le_add_left _ _

end Cursor.Passes

-- What a reader does at a cursor, it does before any other text that opens alike behind
-- what it has taken: it looks one character further and no more.
inductive Steady (plain : Char → Prop) (read : Cursor → Except Break (α × Cursor)) (here : Cursor) : Prop where
  | reads (found : read here = .ok (value,stop)) (passes : here.Passes taken stop) (every : ∀ c ∈ taken,plain c)
      (again : ∀ more,more.head? = stop.rest.head? → read ⟨taken ++ more,here.offset⟩ = .ok (value,⟨more,stop.offset⟩))
  | breaks (found : read here = .error cause) (split : here.rest = taken ++ rest)
      (within : here.offset + byteCount taken ≤ cause.offset)
      (again : ∀ more,more.head? = rest.head? → read ⟨taken ++ more,here.offset⟩ = .error cause)

namespace Steady

variable {plain : Char → Prop} {read other : Cursor → Except Break (α × Cursor)} {here : Cursor}

theorem stays (same : ∀ more,more.head? = here.rest.head? → read ⟨more,here.offset⟩ = .ok (value,⟨more,here.offset⟩)) :
    Steady plain read here :=
  .reads (same here.rest rfl) (.nothing here) (fun _ member => absurd member List.not_mem_nil) same

theorem fails (cause : Break) (onward : here.offset ≤ cause.offset)
    (same : ∀ more,more.head? = here.rest.head? → read ⟨more,here.offset⟩ = .error cause) : Steady plain read here := by
  have split : here.rest = [] ++ here.rest := rfl
  exact .breaks (same here.rest rfl) split onward same

-- The end of the text is an end only as long as nothing is put there.
theorem ends (closed : here.rest = []) (onward : here.offset ≤ cause.offset) (found : read here = .error cause) :
    Steady plain read here := by
  apply fails cause onward
  intro more same
  rw [closed,List.head?_nil,List.head?_eq_none_iff] at same
  obtain ⟨rest,offset⟩ := here
  cases closed
  rw [same]
  exact found

theorem after (steady : Steady plain other middle) (first : here.Passes taken middle) (seen : ∀ c ∈ taken,plain c)
    (same : ∀ more,more.head? = middle.rest.head? → read ⟨taken ++ more,here.offset⟩ = other ⟨more,middle.offset⟩) :
    Steady plain read here := by
  have same' : read here = other middle := by
    have whole := same middle.rest rfl
    rwa [← first.rest] at whole
  cases steady with
  | reads found passes every again =>
    refine .reads (same'.trans found) (first.trans passes) (List.forall_mem_append.mpr ⟨seen,every⟩) fun more alike => ?_
    rw [List.append_assoc,same _ (passes.rest ▸ head_append alike)]
    exact again more alike
  | @breaks cause more rest found split within again =>
    have split' : here.rest = (taken ++ more) ++ rest := by rw [first.rest,split,List.append_assoc]
    have within' : here.offset + byteCount (taken ++ more) ≤ cause.offset := by
      rw [byteCount_append,← Nat.add_assoc,← first.offset]
      exact within
    refine .breaks (same'.trans found) split' within' fun rest' alike => ?_
    rw [List.append_assoc,same _ (split ▸ head_append alike)]
    exact again rest' alike

theorem as (steady : Steady plain other here)
    (same : ∀ more,more.head? = here.rest.head? → read ⟨more,here.offset⟩ = other ⟨more,here.offset⟩) :
    Steady plain read here :=
  steady.after (.nothing here) (fun _ member => absurd member List.not_mem_nil) same

theorem next (steady : Steady plain other ⟨text,offset + c.utf8Size⟩) (seen : plain c)
    (same : ∀ more,read ⟨c :: more,offset⟩ = other ⟨more,offset + c.utf8Size⟩) : Steady plain read ⟨c :: text,offset⟩ :=
  steady.after (Cursor.Passes.nothing _).head (List.forall_mem_singleton.mpr seen) fun more _ => same more

theorem andThen {following : α × Cursor → Except Break (β × Cursor)} (steady : Steady plain read here)
    (behind : ∀ {value stop},read here = .ok (value,stop) → Steady plain (fun there => following (value,there)) stop) :
    Steady plain (fun there => read there >>= following) here := by
  cases steady with
  | reads found passes every again =>
    refine (behind found).after passes every fun more alike => ?_
    simp only [again more alike]
    rfl
  | breaks found split within again =>
    refine .breaks ?_ split within fun more alike => ?_
    · simp only [found]
      rfl
    · simp only [again more alike]
      rfl

theorem map (steady : Steady plain read here) (change : α → β) :
    Steady plain (fun there => (read there).map fun found => (change found.1,found.2)) here := by
  cases steady with
  | @reads value stop taken found passes every again =>
    have found' : (read here).map (fun found => (change found.1,found.2)) = .ok (change value,stop) := by
      rw [found]
      rfl
    refine .reads found' passes every fun more alike => ?_
    rw [again more alike]
    rfl
  | @breaks cause taken rest found split within again =>
    have found' : (read here).map (fun found => (change found.1,found.2)) = .error cause := by
      rw [found]
      rfl
    refine .breaks found' split within fun more alike => ?_
    rw [again more alike]
    rfl

theorem passed (steady : Steady plain read here) (found : read here = .ok (value,stop)) :
    ∃ taken,here.Passes taken stop ∧ ∀ c ∈ taken,plain c := by
  cases steady with
  | reads found' passes every =>
    cases found.symm.trans found'
    exact ⟨_,passes,every⟩
  | breaks found' => cases found.symm.trans found'

theorem shorter (steady : Steady plain read here) (found : read here = .ok (value,stop)) :
    stop.rest.length ≤ here.rest.length := by
  obtain ⟨taken,passes,-⟩ := steady.passed found
  exact passes.shorter

theorem weaken {wide : Char → Prop} (steady : Steady plain read here) (implied : ∀ c,plain c → wide c) :
    Steady wide read here := by
  cases steady with
  | reads found passes every again => exact .reads found passes (fun c member => implied c (every c member)) again
  | breaks found split within again => exact .breaks found split within again

end Steady

-- The readers of one text: none of them takes an end of line.
def inLine (c : Char) : Prop := c ≠ '\n'

instance : DecidablePred inLine := fun c => inferInstanceAs (Decidable (c ≠ '\n'))

theorem word_steady (content : α) (expected : List Char) (ascii : ∀ c ∈ expected,c.utf8Size = 1 ∧ inLine c)
    (here : Cursor) : Steady inLine (fun there => (there.word expected).map fun stop => (content,stop)) here := by
  induction expected generalizing here with
  | nil => exact .stays fun _ _ => rfl
  | cons c expected ih =>
    obtain ⟨⟨single,seen⟩,others⟩ := List.forall_mem_cons.mp ascii
    obtain ⟨rest,offset⟩ := here
    cases rest with
    | nil => exact .ends rfl (Nat.le_refl _) rfl
    | cons head rest =>
      by_cases same : head = c
      · subst same
        refine (ih others ⟨rest,offset + head.utf8Size⟩).next seen fun more => ?_
        simp only [Cursor.word,↓reduceIte,single]
      · refine .fails ⟨.expectedWord,offset + 1⟩ (Nat.le_succ _) fun more alike => ?_
        obtain ⟨text,rfl⟩ := List.head?_eq_some_iff.mp alike
        simp only [Cursor.word,if_neg same]
        rfl

def letters (expected : List Char) : Bool := expected.all fun c => c.utf8Size == 1 && c != '\n'

theorem letters_plain (spelled : letters expected = true) : ∀ c ∈ expected,c.utf8Size = 1 ∧ inLine c := by
  intro c member
  have plain := List.all_eq_true.mp spelled c member
  rw [Bool.and_eq_true,beq_iff_eq,bne_iff_ne] at plain
  exact plain

theorem ascii_size {c : Char} (low : 11 ≤ c.toNat) (high : c.toNat < 128) : c.utf8Size = 1 ∧ inLine c := by
  constructor
  · unfold Char.utf8Size
    rw [if_pos]
    exact UInt32.le_iff_toNat_le.mpr (Nat.le_of_lt_succ high)
  · rintro rfl
    exact absurd low (by decide)

theorem digit_size {c : Char} (digit : c.isDigit = true) : c.utf8Size = 1 ∧ inLine c := by
  obtain ⟨low,high⟩ := Char.isDigit_iff_toNat.mp digit
  exact ascii_size (Nat.le_trans (by decide) low) (Nat.lt_of_le_of_lt high (by decide))

theorem valueOf_size {c : Char} (digit : Text.Hexadecimal.valueOf c = some value) : c.utf8Size = 1 ∧ inLine c := by
  have bounds : ∀ low high : Char,11 ≤ low.toNat → high.toNat < 128 → low ≤ c ∧ c ≤ high → c.utf8Size = 1 ∧ inLine c := by
    rintro low high above below ⟨from',to'⟩
    exact ascii_size (Nat.le_trans above from') (Nat.lt_of_le_of_lt to' below)
  unfold Text.Hexadecimal.valueOf at digit
  split_ifs at digit with decimal small large
  · exact bounds _ _ (by decide) (by decide) decimal
  · exact bounds _ _ (by decide) (by decide) small
  · exact bounds _ _ (by decide) (by decide) large

theorem fourHex_sizes (unit : fourHex a b c d = some value) :
    ∀ digit ∈ [a,b,c,d],digit.utf8Size = 1 ∧ inLine digit := by
  unfold fourHex at unit
  simp only [Option.bind_eq_bind,Option.bind_eq_some_iff] at unit
  obtain ⟨_,first,_,second,_,third,_,fourth,-⟩ := unit
  simp only [List.forall_mem_cons,List.not_mem_nil,false_implies,implies_true,and_true]
  exact ⟨valueOf_size first,valueOf_size second,valueOf_size third,valueOf_size fourth⟩

theorem byteCount_nil : byteCount [] = 0 := rfl

theorem byteCount_cons (head : Char) (text : List Char) : byteCount (head :: text) = head.utf8Size + byteCount text := rfl

theorem byteCount_reaches {text : List Char} (positive : 0 < bytes) (enough : bytes ≤ byteCount text) :
    ∃ taken head rest,text = taken ++ head :: rest ∧ byteCount taken < bytes ∧ bytes ≤ byteCount taken + head.utf8Size := by
  induction text generalizing bytes with
  | nil => exact absurd (Nat.lt_of_lt_of_le positive enough) (Nat.lt_irrefl 0)
  | cons head text ih =>
    by_cases here : bytes ≤ head.utf8Size
    · exact ⟨[],head,text,rfl,positive,by rwa [byteCount,List.foldr_nil,Nat.zero_add]⟩
    · rw [byteCount_cons] at enough
      have less : bytes - head.utf8Size ≤ byteCount text := by omega
      obtain ⟨taken,last,rest,rfl,short,long⟩ := ih (by omega) less
      refine ⟨head :: taken,last,rest,rfl,?_,?_⟩ <;> rw [byteCount_cons] <;> omega

theorem unit_taken (unit : fourHex a b c d = some value) (same : taken ++ head :: more = a :: b :: c :: d :: tail)
    (short : byteCount taken < 4) (long : 4 ≤ byteCount taken + head.utf8Size) : ∃ x y z,taken = [x,y,z] := by
  have sizes := fourHex_sizes unit
  simp only [List.forall_mem_cons] at sizes
  obtain ⟨⟨first,-⟩,⟨second,-⟩,⟨third,-⟩,⟨fourth,-⟩,-⟩ := sizes
  rcases taken with _ | ⟨x,_ | ⟨y,_ | ⟨z,_ | ⟨w,taken⟩⟩⟩⟩
  · obtain ⟨rfl,-⟩ : head = a ∧ _ := List.cons.inj same
    rw [byteCount_nil,first] at long
    omega
  · obtain ⟨rfl,rfl,-⟩ : x = a ∧ head = b ∧ more = c :: d :: tail := by simpa using same
    rw [byteCount_cons,byteCount_nil,first,second] at long
    omega
  · obtain ⟨rfl,rfl,rfl,-⟩ : x = a ∧ y = b ∧ head = c ∧ more = d :: tail := by simpa using same
    rw [byteCount_cons,byteCount_cons,byteCount_nil,first,second,third] at long
    omega
  · exact ⟨x,y,z,rfl⟩
  · obtain ⟨rfl,rfl,rfl,rfl,-⟩ : x = a ∧ y = b ∧ z = c ∧ w = d ∧ taken ++ head :: more = tail := by simpa using same
    rw [byteCount_cons,byteCount_cons,byteCount_cons,byteCount_cons,first,second,third,fourth] at short
    omega

theorem readUnit_invalid {text : List Char} (enough : 4 ≤ byteCount text)
    (invalid : ∀ {a b c d rest},text = a :: b :: c :: d :: rest → fourHex a b c d = none) :
    readUnit ⟨text,offset⟩ = .error ⟨.invalidEscape,offset + 4⟩ := by
  unfold readUnit
  simp only [Nat.not_lt.mpr enough,↓reduceIte]
  split
  · split
    · rename_i found
      cases (invalid rfl).symm.trans found
    · rfl
  · rfl

theorem readUnit_steady (here : Cursor) : Steady inLine readUnit here := by
  obtain ⟨text,offset⟩ := here
  by_cases found : ∃ a b c d rest value,text = a :: b :: c :: d :: rest ∧ fourHex a b c d = some value
  · obtain ⟨a,b,c,d,rest,value,rfl,unit⟩ := found
    have sizes := fourHex_sizes unit
    have exact' : ∀ more,readUnit ⟨[a,b,c,d] ++ more,offset⟩ = .ok (value,⟨more,offset + 4⟩) := by
      intro more
      simp only [List.cons_append,List.nil_append,readUnit,unit]
    refine .reads (exact' rest) ⟨rfl,?_⟩ (fun digit member => (sizes digit member).2) fun more _ => exact' more
    simp only [List.forall_mem_cons] at sizes
    obtain ⟨⟨first,-⟩,⟨second,-⟩,⟨third,-⟩,⟨fourth,-⟩,-⟩ := sizes
    simp only [byteCount_cons,first,second,third,fourth]
    rfl
  · have invalid : ∀ {a b c d rest},text = a :: b :: c :: d :: rest → fourHex a b c d = none := by
      intro a b c d rest same
      cases unit : fourHex a b c d with
      | none => rfl
      | some value => exact absurd ⟨a,b,c,d,rest,value,same,unit⟩ found
    by_cases enough : 4 ≤ byteCount text
    · obtain ⟨taken,head,rest,rfl,short,long⟩ := byteCount_reaches (by decide) enough
      refine .breaks (readUnit_invalid enough invalid) rfl (Nat.add_le_add_left (Nat.le_of_lt short) offset) ?_
      intro more alike
      obtain ⟨more,rfl⟩ := List.head?_eq_some_iff.mp alike
      apply readUnit_invalid
      · rw [byteCount_append,byteCount_cons]
        omega
      · intro a b c d tail same
        cases unit : fourHex a b c d with
        | none => rfl
        | some value =>
          obtain ⟨x,y,z,rfl⟩ := unit_taken unit same short long
          obtain ⟨rfl,rfl,rfl,rfl,-⟩ : x = a ∧ y = b ∧ z = c ∧ head = d ∧ more = tail := by simpa using same
          cases (invalid rfl).symm.trans unit
    · have short := Nat.lt_of_not_le enough
      have found : readUnit ⟨text,offset⟩ = .error ⟨.unfinishedText,offset + byteCount text⟩ := by
        unfold readUnit
        simp only [if_pos short]
        split
        · rename_i a b c d rest
          rw [invalid rfl]
        · rfl
      refine .breaks found (List.append_nil text).symm (Nat.le_refl _) fun more closed => ?_
      rw [List.head?_eq_none_iff.mp closed,List.append_nil]
      exact found

def readTrailingEnd (leading : Nat) (here : Cursor) : Except Break (Char × Cursor) :=
  match here.rest with
  | [] => .error (here.fail .unfinishedText)
  | 'u' :: _ => readUnit here.next >>= fun found =>
    if isTrailing found.1 then .ok (joinSurrogates leading found.1,found.2) else .error (found.2.fail .loneSurrogate)
  | _ => .error ⟨.unfinishedSurrogatePair,here.offset + 1⟩

theorem readTrailingEnd_steady (leading : Nat) (here : Cursor) : Steady inLine (readTrailingEnd leading) here := by
  obtain ⟨text,offset⟩ := here
  cases text with
  | nil => exact .ends rfl (Nat.le_refl _) rfl
  | cons head text =>
    by_cases letter : head = 'u'
    · subst letter
      have judged : Steady inLine (fun there => readUnit there >>= fun found =>
          if isTrailing found.1 then .ok (joinSurrogates leading found.1,found.2)
          else .error (found.2.fail .loneSurrogate)) ⟨text,offset + 'u'.utf8Size⟩ := by
        refine (readUnit_steady _).andThen fun {unit stop} _ => ?_
        by_cases trailing : isTrailing unit
        · simp only [trailing,↓reduceIte]
          exact .stays fun _ _ => rfl
        · simp only [trailing,Bool.false_eq_true,↓reduceIte]
          exact .fails (stop.fail .loneSurrogate) (Nat.le_refl _) fun _ _ => rfl
      exact judged.next (by decide) fun _ => rfl
    · refine .fails ⟨.unfinishedSurrogatePair,offset + 1⟩ (Nat.le_succ _) fun more alike => ?_
      obtain ⟨more,rfl⟩ := List.head?_eq_some_iff.mp alike
      unfold readTrailingEnd
      split
      case h_1 opened => cases opened
      case h_2 opened => exact absurd (List.cons.inj opened).1 letter
      case h_3 => rfl

theorem readTrailing_steady (leading : Nat) (here : Cursor) : Steady inLine (readTrailing leading) here := by
  obtain ⟨text,offset⟩ := here
  cases text with
  | nil => exact .ends rfl (Nat.le_refl _) rfl
  | cons head text =>
    by_cases slash : head = '\\'
    · subst slash
      refine (readTrailingEnd_steady leading ⟨text,offset + '\\'.utf8Size⟩).next (by decide) fun more => ?_
      cases more <;> rfl
    · refine .fails ⟨.unfinishedSurrogatePair,offset + 1⟩ (Nat.le_succ _) fun more alike => ?_
      obtain ⟨more,rfl⟩ := List.head?_eq_some_iff.mp alike
      unfold readTrailing
      split
      case h_1 opened => cases opened
      case h_2 opened => exact absurd (List.cons.inj opened).1 slash
      case h_3 => rfl

def unescape : Char → Option Char
  | '"' => some '"'
  | '\\' => some '\\'
  | '/' => some '/'
  | 'b' => some '\x08'
  | 'f' => some '\x0c'
  | 'n' => some '\n'
  | 'r' => some '\r'
  | 't' => some '\t'
  | _ => none

theorem readEscape_short (short : unescape head = some c) :
    inLine head ∧ ∀ text offset,readEscape ⟨head :: text,offset⟩ = .ok (c,⟨text,offset + head.utf8Size⟩) := by
  unfold unescape at short
  split at short <;> cases short <;> exact ⟨by decide,fun _ _ => rfl⟩

theorem readEscape_invalid (unknown : unescape head = none) (letter : head ≠ 'u') (text : List Char) (offset : Nat) :
    readEscape ⟨head :: text,offset⟩ = .error ⟨.invalidEscape,offset + 1⟩ := by
  unfold readEscape
  dsimp only
  split
  case h_9 => exact absurd rfl letter
  case h_10 => rfl
  all_goals cases unknown

def readCode (here : Cursor) : Except Break (Char × Cursor) :=
  readUnit here >>= fun found =>
    if isTrailing found.1 then .error (found.2.fail .loneSurrogate)
    else if isLeading found.1 then readTrailing found.1 found.2
    else .ok (Char.ofNat found.1,found.2)

theorem readCode_steady (here : Cursor) : Steady inLine readCode here := by
  refine (readUnit_steady here).andThen fun {unit stop} _ => ?_
  by_cases trailing : isTrailing unit
  · simp only [trailing,↓reduceIte]
    exact .fails (stop.fail .loneSurrogate) (Nat.le_refl _) fun _ _ => rfl
  · simp only [trailing,Bool.false_eq_true,↓reduceIte]
    by_cases leading : isLeading unit
    · simp only [leading,↓reduceIte]
      exact readTrailing_steady unit stop
    · simp only [leading,Bool.false_eq_true,↓reduceIte]
      exact .stays fun _ _ => rfl

theorem readEscape_steady (here : Cursor) : Steady inLine readEscape here := by
  obtain ⟨text,offset⟩ := here
  cases text with
  | nil => exact .ends rfl (Nat.le_refl _) rfl
  | cons head text =>
    cases short : unescape head with
    | some c =>
      obtain ⟨seen,read⟩ := readEscape_short short
      have done : Steady inLine (fun there => .ok (c,there)) ⟨text,offset + head.utf8Size⟩ := .stays fun _ _ => rfl
      exact done.next seen fun more => read more offset
    | none =>
      by_cases letter : head = 'u'
      · subst letter
        exact (readCode_steady _).next (by decide) fun _ => rfl
      · refine .fails ⟨.invalidEscape,offset + 1⟩ (Nat.le_succ _) fun more alike => ?_
        obtain ⟨more,rfl⟩ := List.head?_eq_some_iff.mp alike
        exact readEscape_invalid short letter more offset

theorem readTextFrom_cons {head : Char} (quote : head ≠ '"') (slash : head ≠ '\\') (first : Char)
    (measure text read : List Char) (offset : Nat) :
    readTextFrom (first :: measure) ⟨head :: text,offset⟩ read =
      if head.toNat < 0x20 then .error ⟨.controlCharacter,offset + 1⟩
      else readTextFrom measure ⟨text,offset + head.utf8Size⟩ (head :: read) := by
  rw [readTextFrom]
  dsimp only
  split
  case h_1 opened => cases opened
  case h_2 opened => exact absurd (List.cons.inj opened).1 quote
  case h_3 opened => exact absurd (List.cons.inj opened).1 slash
  case h_4 opened =>
    obtain ⟨rfl,-⟩ := List.cons.inj opened
    rfl

theorem readTextFrom_slash (first : Char) (measure text read : List Char) (offset : Nat) :
    readTextFrom (first :: measure) ⟨'\\' :: text,offset⟩ read = readEscape ⟨text,offset + '\\'.utf8Size⟩ >>= fun found =>
      readTextFrom measure found.2 (found.1 :: read) := rfl

-- A measure as long as the text never runs out.
theorem readTextFrom_enough {measure measure' : List Char} {here : Cursor} {read : List Char}
    (enough : here.rest.length ≤ measure.length) (enough' : here.rest.length ≤ measure'.length) :
    readTextFrom measure here read = readTextFrom measure' here read := by
  induction measure generalizing measure' here read with
  | nil =>
    obtain ⟨text,offset⟩ := here
    cases List.length_eq_zero_iff.mp (Nat.le_zero.mp enough)
    cases measure' <;> rfl
  | cons first measure ih =>
    obtain ⟨text,offset⟩ := here
    cases text with
    | nil => cases measure' <;> rfl
    | cons head text =>
      cases measure' with
      | nil => cases enough'
      | cons first' measure' =>
        have within := Nat.le_of_succ_le_succ enough
        have within' := Nat.le_of_succ_le_succ enough'
        by_cases quote : head = '"'
        · subst quote
          rfl
        · by_cases slash : head = '\\'
          · subst slash
            rw [readTextFrom_slash,readTextFrom_slash]
            cases escaped : readEscape ⟨text,offset + '\\'.utf8Size⟩ with
            | error cause => rfl
            | ok found =>
              have less := (readEscape_steady _).shorter escaped
              exact ih (Nat.le_trans less within) (Nat.le_trans less within')
          · rw [readTextFrom_cons quote slash,readTextFrom_cons quote slash,ih within within']

theorem readTextFrom_steady (read : List Char) (here : Cursor) :
    Steady inLine (fun there => readTextFrom there.rest there read) here := by
  induction length : here.rest.length using Nat.strong_induction_on generalizing here read with
  | _ length ih =>
    subst length
    obtain ⟨text,offset⟩ := here
    cases text with
    | nil => exact .ends rfl (Nat.le_refl _) rfl
    | cons head text =>
      by_cases quote : head = '"'
      · subst quote
        have done : Steady inLine (fun there => .ok (String.ofList read.reverse,there)) ⟨text,offset + '"'.utf8Size⟩ :=
          .stays fun _ _ => rfl
        exact done.next (by decide) fun _ => rfl
      · by_cases slash : head = '\\'
        · subst slash
          have escaped : Steady inLine (fun there => readEscape there >>= fun found =>
              readTextFrom found.2.rest found.2 (found.1 :: read)) ⟨text,offset + '\\'.utf8Size⟩ := by
            refine (readEscape_steady _).andThen fun {c stop} found => ?_
            have less := (readEscape_steady _).shorter found
            have behind := ih _ (Nat.lt_succ_of_le less) (c :: read) stop rfl
            exact behind
          refine escaped.next (by decide) fun more => ?_
          rw [readTextFrom_slash]
          cases found : readEscape ⟨more,offset + '\\'.utf8Size⟩ with
          | error cause => rfl
          | ok found' => exact readTextFrom_enough ((readEscape_steady _).shorter found) (Nat.le_refl _)
        · by_cases control : head.toNat < 0x20
          · refine .fails ⟨.controlCharacter,offset + 1⟩ (Nat.le_succ _) fun more alike => ?_
            obtain ⟨more,rfl⟩ := List.head?_eq_some_iff.mp alike
            exact (readTextFrom_cons quote slash ..).trans (if_pos control)
          · have seen : inLine head := by
              rintro rfl
              exact control (by decide)
            refine (ih text.length (Nat.lt_succ_self _) (head :: read) ⟨text,_⟩ rfl).next seen fun more => ?_
            exact (readTextFrom_cons quote slash ..).trans (if_neg control)

theorem readText_steady (here : Cursor) : Steady inLine readText here := readTextFrom_steady [] here

theorem spanDigits_cons (head : Char) (text : List Char) (offset : Nat) : spanDigits ⟨head :: text,offset⟩ =
    if head.isDigit then (head :: (spanDigits ⟨text,offset + 1⟩).1,(spanDigits ⟨text,offset + 1⟩).2)
    else ([],⟨head :: text,offset⟩) := by
  unfold spanDigits
  simp only [List.takeWhile_cons]
  split
  · simp only [List.length_cons,List.drop_succ_cons,Nat.add_assoc,Nat.add_comm 1]
  · rfl

theorem spanDigits_steady (here : Cursor) : Steady inLine (fun there => .ok (spanDigits there)) here := by
  obtain ⟨text,offset⟩ := here
  induction text generalizing offset with
  | nil => exact .stays fun more alike => by rw [List.head?_eq_none_iff.mp alike]; rfl
  | cons head text ih =>
    by_cases digit : head.isDigit
    · obtain ⟨single,seen⟩ := digit_size digit
      refine ((ih (offset + head.utf8Size)).map (head :: ·)).next seen fun more => ?_
      rw [spanDigits_cons,if_pos digit,single]
      rfl
    · have none' : ∀ more,more.head? = some head → spanDigits ⟨more,offset⟩ = ([],⟨more,offset⟩) := by
        intro more alike
        obtain ⟨more,rfl⟩ := List.head?_eq_some_iff.mp alike
        rw [spanDigits_cons,if_neg digit]
      exact .stays fun more alike => congrArg Except.ok (none' more alike)

-- An exponent, and whether it was read to its end.
def readShift (value : Nat) (here : Cursor) : Except Break ((Nat × Bool) × Cursor) :=
  .ok (((exponentFrom here value here.rest).1,(exponentFrom here value here.rest).2.1),
    (exponentFrom here value here.rest).2.2)

theorem readShift_cons (value : Nat) (head : Char) (text : List Char) (offset : Nat) : readShift value ⟨head :: text,offset⟩ =
    if head.isDigit then
      if exponentLimit < value * 10 + digitValue head then .ok ((value,false),⟨text,offset + 1⟩)
      else readShift (value * 10 + digitValue head) ⟨text,offset + 1⟩
    else .ok ((value,true),⟨head :: text,offset⟩) := by
  unfold readShift
  simp only [exponentFrom]
  split
  · split <;> rfl
  · rfl

theorem readShift_steady (value : Nat) (here : Cursor) : Steady inLine (readShift value) here := by
  obtain ⟨text,offset⟩ := here
  induction text generalizing value offset with
  | nil => exact .stays fun more alike => by rw [List.head?_eq_none_iff.mp alike]; rfl
  | cons head text ih =>
    by_cases digit : head.isDigit
    · obtain ⟨single,seen⟩ := digit_size digit
      by_cases beyond : exponentLimit < value * 10 + digitValue head
      · have done : Steady inLine (fun there => .ok ((value,false),there)) ⟨text,offset + head.utf8Size⟩ :=
          .stays fun _ _ => rfl
        refine done.next seen fun more => ?_
        rw [readShift_cons,if_pos digit,if_pos beyond,single]
      · refine (ih (value * 10 + digitValue head) (offset + head.utf8Size)).next seen fun more => ?_
        rw [readShift_cons,if_pos digit,if_neg beyond,single]
    · have whole : ∀ more,more.head? = some head → readShift value ⟨more,offset⟩ = .ok ((value,true),⟨more,offset⟩) := by
        intro more alike
        obtain ⟨more,rfl⟩ := List.head?_eq_some_iff.mp alike
        rw [readShift_cons,if_neg digit]
      exact .stays whole

theorem real_steady (digits : Digits) (negative : Bool) (here : Cursor) : Steady inLine (digits.real negative) here := by
  unfold Digits.real
  cases scaled 4 (Float.ofNat digits.significand) digits.exponent with
  | some value => exact .stays fun _ _ => rfl
  | none => exact .fails (here.fail .numberOutOfRange) (Nat.le_refl _) fun _ _ => rfl

theorem whole_steady (digits : Digits) (negative : Bool) (here : Cursor) : Steady inLine (digits.whole negative) here := by
  unfold Digits.whole
  split_ifs
  · exact real_steady digits negative here
  all_goals exact .stays fun _ _ => rfl

def shifted (digits : Digits) (negative down : Bool) : (Nat × Bool) × Cursor → Except Break (Scalar × Cursor)
  | ((value,true),stop) =>
    {digits with exponent := digits.exponent + if down then -(value : Int) else value}.real negative stop
  | ((_,false),stop) =>
    if digits.significand ≠ 0 ∧ !down then .error (stop.fail .numberOutOfRange)
    else .ok (.real (if negative then -0.0 else 0.0),(spanDigits stop).2)

theorem shifted_steady (digits : Digits) (negative down : Bool) (value : Nat × Bool) (here : Cursor) :
    Steady inLine (fun there => shifted digits negative down (value,there)) here := by
  obtain ⟨value,complete⟩ := value
  cases complete with
  | true => exact real_steady _ negative here
  | false =>
    by_cases beyond : digits.significand ≠ 0 ∧ !down
    · exact .fails (here.fail .numberOutOfRange) (Nat.le_refl _) fun _ _ => if_pos beyond
    · refine ((spanDigits_steady here).map fun _ => Scalar.real (if negative then -0.0 else 0.0)).as fun more _ => ?_
      exact if_neg beyond

theorem readExponentEnd_digit (digit : head.isDigit = true) (text : List Char) (offset : Nat) :
    readExponentEnd digits negative down ⟨head :: text,offset⟩ =
      readShift 0 ⟨head :: text,offset⟩ >>= shifted digits negative down := by
  unfold readExponentEnd readShift
  simp only [digit,↓reduceIte]
  generalize exponentFrom ⟨head :: text,offset⟩ 0 (head :: text) = reached
  obtain ⟨value,complete,stop⟩ := reached
  cases complete <;> rfl

theorem readExponentEnd_steady (digits : Digits) (negative down : Bool) (here : Cursor) :
    Steady inLine (readExponentEnd digits negative down) here := by
  obtain ⟨text,offset⟩ := here
  cases text with
  | nil => exact .ends rfl (Nat.le_refl _) rfl
  | cons head text =>
    by_cases digit : head.isDigit
    · have judged := (readShift_steady 0 ⟨head :: text,offset⟩).andThen fun {value stop} _ =>
        shifted_steady digits negative down value stop
      refine judged.as fun more alike => ?_
      obtain ⟨more,rfl⟩ := List.head?_eq_some_iff.mp alike
      exact readExponentEnd_digit digit more offset
    · refine .fails ⟨.invalidNumber,offset + 1⟩ (Nat.le_succ _) fun more alike => ?_
      obtain ⟨more,rfl⟩ := List.head?_eq_some_iff.mp alike
      simp only [readExponentEnd,digit,Bool.false_eq_true,↓reduceIte]

theorem readExponent_steady (digits : Digits) (negative : Bool) (here : Cursor) :
    Steady inLine (readExponent digits negative) here := by
  obtain ⟨text,offset⟩ := here
  have unsigned : text.head? ≠ some '+' → text.head? ≠ some '-' → Steady inLine (readExponent digits negative) ⟨text,offset⟩ := by
    intro up down
    refine (readExponentEnd_steady digits negative false ⟨text,offset⟩).as fun more alike => ?_
    exact readExponent_unsigned (alike ▸ up) (alike ▸ down)
  cases text with
  | nil => exact unsigned nofun nofun
  | cons head text =>
    by_cases plus : head = '+'
    · subst plus
      exact (readExponentEnd_steady digits negative false ⟨text,_⟩).next (by decide) fun _ => rfl
    · by_cases minus : head = '-'
      · subst minus
        exact (readExponentEnd_steady digits negative true ⟨text,_⟩).next (by decide) fun _ => rfl
      · exact unsigned (by simpa using plus) (by simpa using minus)

theorem readFractionEnd_steady (digits : Digits) (negative : Bool) (here : Cursor) :
    Steady inLine (readFractionEnd digits negative) here := by
  obtain ⟨text,offset⟩ := here
  by_cases small : text.head? = some 'e'
  · obtain ⟨text,rfl⟩ := List.head?_eq_some_iff.mp small
    exact (readExponent_steady digits negative ⟨text,_⟩).next (by decide) fun _ => rfl
  · by_cases large : text.head? = some 'E'
    · obtain ⟨text,rfl⟩ := List.head?_eq_some_iff.mp large
      exact (readExponent_steady digits negative ⟨text,_⟩).next (by decide) fun _ => rfl
    · refine (real_steady digits negative ⟨text,offset⟩).as fun more alike => ?_
      exact readFractionEnd_plain (alike ▸ small) (alike ▸ large)

def readFraction (digits : Digits) (negative : Bool) (found : List Char × Cursor) : Except Break (Scalar × Cursor) :=
  match found.1 with
  | [] => .error (found.2.failNext (if found.2.rest.isEmpty then .unfinishedValue else .invalidNumber))
  | _ => readFractionEnd (found.1.foldl Digits.after {digits with full := false}) negative found.2

theorem readFraction_steady (digits : Digits) (negative : Bool) (fraction : List Char) (here : Cursor) :
    Steady inLine (fun there => readFraction digits negative (fraction,there)) here := by
  cases fraction with
  | cons digit fraction => exact readFractionEnd_steady _ negative here
  | nil =>
    obtain ⟨text,offset⟩ := here
    cases text with
    | nil => exact .ends rfl (Nat.le_refl _) rfl
    | cons head text =>
      refine .fails ⟨.invalidNumber,offset + 1⟩ (Nat.le_succ _) fun more alike => ?_
      obtain ⟨more,rfl⟩ := List.head?_eq_some_iff.mp alike
      rfl

theorem readNumberEnd_steady (digits : Digits) (negative : Bool) (here : Cursor) :
    Steady inLine (readNumberEnd digits negative) here := by
  obtain ⟨text,offset⟩ := here
  by_cases point : text.head? = some '.'
  · obtain ⟨text,rfl⟩ := List.head?_eq_some_iff.mp point
    have fraction := (spanDigits_steady ⟨text,offset + '.'.utf8Size⟩).andThen fun {value stop} _ =>
      readFraction_steady digits negative value stop
    refine fraction.next (by decide) fun more => ?_
    rfl
  · by_cases small : text.head? = some 'e'
    · obtain ⟨text,rfl⟩ := List.head?_eq_some_iff.mp small
      exact (readExponent_steady digits negative ⟨text,_⟩).next (by decide) fun _ => rfl
    · by_cases large : text.head? = some 'E'
      · obtain ⟨text,rfl⟩ := List.head?_eq_some_iff.mp large
        exact (readExponent_steady digits negative ⟨text,_⟩).next (by decide) fun _ => rfl
      · refine (whole_steady digits negative ⟨text,offset⟩).as fun more alike => ?_
        exact readNumberEnd_plain (alike ▸ point) (alike ▸ small) (alike ▸ large)

def readZero (negative : Bool) (here : Cursor) : Except Break (Scalar × Cursor) :=
  if here.rest.head?.any Char.isDigit then .error (here.failNext .invalidNumber)
  else readNumberEnd ⟨0,0,false⟩ negative here

theorem readZero_steady (negative : Bool) (here : Cursor) : Steady inLine (readZero negative) here := by
  by_cases digit : here.rest.head?.any Char.isDigit
  · obtain ⟨text,offset⟩ := here
    cases text with
    | nil => cases digit
    | cons head text =>
      refine .fails ⟨.invalidNumber,offset + 1⟩ (Nat.le_succ _) fun more alike => ?_
      obtain ⟨more,rfl⟩ := List.head?_eq_some_iff.mp alike
      exact if_pos digit
  · refine (readNumberEnd_steady ⟨0,0,false⟩ negative here).as fun more alike => ?_
    exact if_neg (alike ▸ digit)

def readWhole (negative : Bool) (found : List Char × Cursor) : Except Break (Scalar × Cursor) :=
  readNumberEnd (found.1.foldl Digits.before ⟨0,0,false⟩) negative found.2

theorem readWhole_steady (negative : Bool) (digits : List Char) (here : Cursor) :
    Steady inLine (fun there => readWhole negative (digits,there)) here := by
  dsimp only [readWhole]
  exact readNumberEnd_steady (digits.foldl Digits.before ⟨0,0,false⟩) negative here

theorem readNumber_steady (negative : Bool) (here : Cursor) : Steady inLine (readNumber negative) here := by
  obtain ⟨text,offset⟩ := here
  cases text with
  | nil => exact .ends rfl (Nat.le_refl _) rfl
  | cons head text =>
    by_cases zero : head = '0'
    · subst zero
      refine (readZero_steady negative ⟨text,offset + '0'.utf8Size⟩).next (by decide) fun more => ?_
      cases more <;> rfl
    · by_cases digit : head.isDigit
      · have read := (spanDigits_steady ⟨head :: text,offset⟩).andThen fun {digits stop} _ =>
          readWhole_steady negative digits stop
        refine read.as fun more alike => ?_
        obtain ⟨more,rfl⟩ := List.head?_eq_some_iff.mp alike
        exact readNumber_digits digit zero
      · refine .fails ⟨.invalidNumber,offset + 1⟩ (Nat.le_succ _) fun more alike => ?_
        obtain ⟨more,rfl⟩ := List.head?_eq_some_iff.mp alike
        simp only [readNumber,digit,Bool.false_eq_true,↓reduceIte]

def readAtom (here : Cursor) : Except Break (Scalar × Cursor) :=
  match here.rest with
  | [] => .error (here.fail .unfinishedValue)
  | 'n' :: _ => (here.next.word "ull".toList).map fun stop => (.null,stop)
  | 't' :: _ => (here.next.word "rue".toList).map fun stop => (.flag true,stop)
  | 'f' :: _ => (here.next.word "alse".toList).map fun stop => (.flag false,stop)
  | '"' :: _ => (readText here.next).map fun (value,stop) => (.text value,stop)
  | '-' :: _ => readNumber true here.next
  | head :: _ => if head.isDigit then readNumber false here else .error (here.failNext .expectedValue)

theorem readAtom_other {head : Char} (none' : head ≠ 'n') (true' : head ≠ 't') (false' : head ≠ 'f') (quote : head ≠ '"')
    (minus : head ≠ '-') (text : List Char) (offset : Nat) : readAtom ⟨head :: text,offset⟩ =
      if head.isDigit then readNumber false ⟨head :: text,offset⟩ else .error ⟨.expectedValue,offset + 1⟩ := by
  unfold readAtom
  split
  case h_1 opened => cases opened
  case h_7 opened =>
    obtain ⟨rfl,-⟩ := List.cons.inj opened
    rfl
  all_goals
    rename_i opened
    obtain ⟨rfl,-⟩ := List.cons.inj opened
    contradiction

theorem readAtom_steady (here : Cursor) : Steady inLine readAtom here := by
  obtain ⟨text,offset⟩ := here
  cases text with
  | nil => exact .ends rfl (Nat.le_refl _) rfl
  | cons head text =>
    by_cases none' : head = 'n'
    · subst none'
      exact (word_steady Scalar.null "ull".toList (letters_plain rfl) ⟨text,_⟩).next (by decide) fun _ => rfl
    by_cases true' : head = 't'
    · subst true'
      exact (word_steady (Scalar.flag true) "rue".toList (letters_plain rfl) ⟨text,_⟩).next (by decide) fun _ => rfl
    by_cases false' : head = 'f'
    · subst false'
      exact (word_steady (Scalar.flag false) "alse".toList (letters_plain rfl) ⟨text,_⟩).next (by decide) fun _ => rfl
    by_cases quote : head = '"'
    · subst quote
      exact ((readText_steady ⟨text,_⟩).map Scalar.text).next (by decide) fun _ => rfl
    by_cases minus : head = '-'
    · subst minus
      exact (readNumber_steady true ⟨text,_⟩).next (by decide) fun _ => rfl
    have same := readAtom_other none' true' false' quote minus
    by_cases digit : head.isDigit
    · refine (readNumber_steady false ⟨head :: text,offset⟩).as fun more alike => ?_
      obtain ⟨more,rfl⟩ := List.head?_eq_some_iff.mp alike
      exact (same more offset).trans (if_pos digit)
    · refine .fails ⟨.expectedValue,offset + 1⟩ (Nat.le_succ _) fun more alike => ?_
      obtain ⟨more,rfl⟩ := List.head?_eq_some_iff.mp alike
      exact (same more offset).trans (if_neg digit)

end LedgerSettings.Json
