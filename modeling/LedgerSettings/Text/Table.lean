import LedgerSettings.Text.Width

namespace LedgerSettings.Text

-- What stands right behind a character, so far as it may change the room that the character takes.
inductive Neighbour where
  | plain
  | letter (letter : Ligature)
  | vowelE
  | vowelAi
  | tone
  | flagLetter
  | flagLetters
  | picture
  | joinedPicture
  | joinedKeycap
  | joinedFlagLetter
  | joinedFlagPairs
  | joinedFlagOdd
  | joinedTag
  | joinedTagLetters (count : Nat)
  | joinedTagDigits (count : Nat)
  deriving DecidableEq

inductive Look where
  | asPicture
  | asPlain
  | asWide
  deriving DecidableEq

structure Behind where
  neighbour : Neighbour
  looks : List Look
  deriving DecidableEq

namespace Behind

def nothing : Behind := ⟨.plain,[]⟩

def of (neighbour : Neighbour) : Behind := ⟨neighbour,[]⟩

-- Selectors are passed over by letters, and the one for pictures by what is joined behind it as well.
-- All else they part from what they stand for.
def select (behind : Behind) (look : Look) : Behind :=
  match behind.neighbour,look with
  | .letter _,_ => {behind with looks := look :: behind.looks}
  | .joinedPicture,.asPicture => ⟨.joinedPicture,[look]⟩
  | .joinedKeycap,.asPicture => ⟨.joinedKeycap,[look]⟩
  | _,_ => ⟨.plain,[look]⟩

def refuse (behind : Behind) (look : Look) : Behind :=
  match behind.neighbour with
  | .letter _ => {behind with looks := behind.looks.filter (· ≠ look)}
  | _ => if look ∈ behind.looks then nothing else behind

end Behind

def standing (c : Char) : Int × Behind :=
  let behind :=
    match Ligature.of? c with
    | some letter => Behind.of (.letter letter)
    | none =>
      if c.toNat = 0x16d67 then .of .vowelE
      else if c.toNat = 0x16d68 then .of .vowelAi
      else if isFlagLetter c then .of .flagLetter
      else if isTone c then .of .tone
      else if within pictured c then .of .picture
      else .nothing
  (columnsOf c,behind)

def joinedBefore (c : Char) : Option (Int × Behind) :=
  if c = keycap then some (0,.of .joinedKeycap)
  else if isFlagLetter c then some (1,.of .joinedFlagLetter)
  else if isTone c then some (0,.of .tone)
  else if c = closingTag then some (0,.of .joinedTag)
  else if within pictured c then some (0,.of .picture)
  else none

def taggedBefore (letters digits : Nat) (c : Char) : Option (Int × Behind) :=
  if isTagLetter c && digits = 0 && letters < 6 then some (0,.of (.joinedTagLetters (letters + 1)))
  else if isTagDigit c && digits = 0 && letters < 5 then some (0,.of (.joinedTagDigits 1))
  else if isTagDigit c && 0 < digits && digits < 3 then some (0,.of (.joinedTagDigits (digits + 1)))
  else if c = flagpole && (3 ≤ letters || digits = 3) then some (0,.of .picture)
  else none

def vowelBefore (behind : Neighbour) (c : Char) : Option (Int × Behind) :=
  match behind,c.toNat with
  | .vowelE,0x16d63 => some (0,.nothing)
  | .vowelE,0x16d67 => some (0,.of .vowelAi)
  | .vowelE,0x16d68 => some (1,.of .vowelE)
  | .vowelE,0x16d69 => some (0,.nothing)
  | .vowelAi,0x16d63 => some (0,.nothing)
  | _,_ => none

def united (behind : Neighbour) (c : Char) : Option (Int × Behind) :=
  match behind with
  | .plain => none
  | .letter letter =>
    match letter.merge c with
    | some (room,next) => some (room,(next.map fun letter => Behind.of (.letter letter)).getD .nothing)
    | none => (letter.through c).map fun letter => (0,.of (.letter letter))
  | .vowelE => vowelBefore behind c
  | .vowelAi => vowelBefore behind c
  | .tone =>
    if within shadeable c then some (0,.of .picture)
    else if c = joiner then some (0,.of .joinedPicture)
    else none
  | .flagLetter => if isFlagLetter c then some (1,.of .flagLetters) else none
  | .flagLetters =>
    if isFlagLetter c then some (1,.of .flagLetters)
    else if c = joiner then some (0,.of .joinedPicture)
    else none
  | .picture => if c = joiner then some (0,.of .joinedPicture) else none
  | .joinedPicture => joinedBefore c
  | .joinedKeycap => none
  | .joinedFlagLetter => if isFlagLetter c then some (-1,.of .joinedFlagPairs) else none
  | .joinedFlagPairs =>
    if isFlagLetter c then some (3,.of .joinedFlagOdd)
    else if c = joiner then some (0,.of .joinedPicture)
    else none
  | .joinedFlagOdd =>
    if isFlagLetter c then some (-1,.of .joinedFlagPairs)
    else if c = joiner then some (0,.of .joinedPicture)
    else none
  | .joinedTag => taggedBefore 0 0 c
  | .joinedTagLetters count => taggedBefore count 0 c
  | .joinedTagDigits count => taggedBefore 0 count c

def isCurlyQuote (c : Char) : Bool := c = '‘' || c = '’' || c = '“' || c = '”'

def take (look : Look) (behind : Behind) (c : Char) : Option (Int × Behind) :=
  if look ∈ behind.looks then
    match look with
    | .asPicture =>
      let joined := behind.neighbour = .joinedPicture || behind.neighbour = .joinedKeycap
      if within selectable c then some (if joined then 0 else 2,.of .picture) else none
    | .asPlain => if isPlainable c then some (1,.nothing) else none
    | .asWide => if isCurlyQuote c then some (2,.nothing) else none
  else none

def selected (c : Char) : Option Look :=
  if c = pictureSelector then some .asPicture
  else if c = plainSelector then some .asPlain
  else if c = wideSelector then some .asWide
  else none

def stepBeyond (behind : Behind) (c : Char) : Int × Behind :=
  let unplain := behind.refuse .asPlain
  match take .asPlain behind c <|> take .asWide unplain c with
  | some answer => answer
  | none => (united (unplain.refuse .asWide).neighbour c).getD (standing c)

def step (behind : Behind) (c : Char) : Int × Behind :=
  match take .asPicture behind c with
  | some answer => answer
  | none =>
    let behind := behind.refuse .asPicture
    if c.toNat ≤ 0xa0 then (1,.nothing)
    else
      match selected c with
      | some look => (0,behind.select look)
      | none => stepBeyond behind c

-- Measured from its end, for what follows a character may change the character's room.
def columns (text : List Char) : Nat :=
  (text.foldr (fun c measured =>
    let (room,behind) := step measured.2 c
    (measured.1 + room,behind)) ((0 : Int),Behind.nothing)).1.toNat

def linesOf : List Char → List (List Char)
  | [] => [[]]
  | head :: rest =>
    if head = '\n' then [] :: linesOf rest
    else match linesOf rest with
      | [] => [[head]]
      | first :: others => (head :: first) :: others

structure Table where
  header : List String
  rows : List (List String)

namespace Table

def cellWidth (cell : String) : Nat := (linesOf cell.toList).foldl (fun widest line => max widest (columns line)) 0

def widths (table : Table) : List Nat :=
  (table.header :: table.rows).foldl (fun widest row =>
    widest.zipWith max (row.map cellWidth)) (table.header.map cellWidth)

def padded (width : Nat) (line : List Char) : List Char :=
  ' ' :: (line ++ List.replicate (width - columns line) ' ' ++ [' '])

def rowLines (widths : List Nat) (row : List String) : List String :=
  let cells := row.map fun cell => linesOf cell.toList
  let height := cells.foldl (fun tallest cell => max tallest cell.length) 1
  (List.range height).map fun index =>
    let parts := widths.zipWith (fun width cell => padded width (cell.getD index [])) cells
    String.ofList ('│' :: (List.intercalate [' '] parts ++ ['│']))

def ruler (widths : List Nat) (left line right : Char) : String :=
  let inner := widths.foldr (fun width rest => width + 2 + rest) 0 + (widths.length - 1)
  String.ofList (left :: (List.replicate inner line ++ [right]))

def render (table : Table) : String :=
  let widths := table.widths
  String.intercalate "\n" (
    [ruler widths '┌' '─' '┐'] ++ rowLines widths table.header ++ [ruler widths '╞' '═' '╡']
      ++ table.rows.flatMap (rowLines widths) ++ [ruler widths '└' '─' '┘'])

end Table

end LedgerSettings.Text
