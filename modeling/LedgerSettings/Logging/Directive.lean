import LedgerSettings.Logging.Pattern
import LedgerSettings.Logging.Record

namespace LedgerSettings.Logging

def dropSign : List Char → List Char
  | '+' :: rest | '-' :: rest => rest
  | text => text

def isCount (text : List Char) : Bool := !text.isEmpty && text.all Char.isDigit

def isExponent : List Char → Bool
  | [] => true
  | 'e' :: rest | 'E' :: rest => isCount (dropSign rest)
  | _ => false

def isDecimal (text : List Char) : Bool :=
  let whole := text.takeWhile Char.isDigit
  match text.dropWhile Char.isDigit with
  | '.' :: rest =>
    isCount (whole ++ rest.takeWhile Char.isDigit) && isExponent (rest.dropWhile Char.isDigit)
  | rest => isCount whole && isExponent rest

def isNumber (text : List Char) : Bool :=
  let magnitude := dropSign text
  isDecimal magnitude || ["inf","infinity","nan"].contains (String.ofList (magnitude.map Char.toLower))

def isComparable (text : List Char) : Bool := isNumber text || Pattern.isWellFormed text

-- No level at all lets nothing pass. A directive for spans, or for facts of a certain value, speaks of
-- no record.
structure Directive where
  target : List Char
  fact : Option (List Char)
  forSpans : Bool
  least : Option Level
  deriving DecidableEq

def Directive.start : Directive := ⟨[],none,false,some .trace⟩

def digitsValue (digits : List Char) : Nat :=
  digits.foldl (fun value digit => 10 * value + (digit.toNat - '0'.toNat)) 0

def parseCount (text : List Char) : Option Nat :=
  let digits := if text.head? = some '+' then text.tail else text
  if digits.isEmpty || !digits.all Char.isDigit then none else some (digitsValue digits)

def parseLevel (text : List Char) : Option (Option Level) :=
  match parseCount text with
  | some 0 => some none
  | some 1 => some (some .error)
  | some 2 => some (some .warn)
  | some 3 => some (some .info)
  | some 4 => some (some .debug)
  | some 5 => some (some .trace)
  | some _ => none
  | none =>
    match String.ofList (text.map Char.toLower) with
    | "off" => some none
    | "error" => some (some .error)
    | "warn" => some (some .warn)
    | "info" => some (some .info)
    | "debug" => some (some .debug)
    | "trace" => some (some .trace)
    | _ => none

def opensDirective (c : Char) : Bool := Text.isAlphanumeric c || c = '-' || c = ':' || c = '_'

inductive Stage where
  | opening
  | word
  | span (start : Nat)
  | fact (start : Nat)
  | closing
  | aimed
  | level (start : Nat)

def placed : Nat → List Char → List (Nat × Char)
  | _,[] => []
  | offset,head :: rest => (offset,head) :: placed (offset + head.utf8Size) rest

def sliceFrom (text : List Char) (start : Nat) : List (Nat × Char) :=
  (placed 0 text).filter fun (offset,_) => start ≤ offset

def slice (text : List Char) (start stop : Nat) : List Char :=
  ((sliceFrom text start).filter fun (offset,_) => offset < stop).map Prod.snd

-- A value behind a fact ends at a second equals sign; nothing is said behind that.
def Directive.withFact (directive : Directive) (text : List Char) : Option Directive :=
  let named := {directive with fact := some (text.takeWhile (· ≠ '='))}
  match text.dropWhile (· ≠ '=') with
  | [] => some named
  | _ :: rest => if isComparable (rest.takeWhile (· ≠ '=')) then some {named with forSpans := true} else none

def advance (text : List Char) : Stage × Directive → Nat × Char → Option (Stage × Directive)
  | (.opening,directive),(index,c) =>
    if c = '[' then some (.span (index + 1),directive)
    else if opensDirective c then some (.word,directive)
    else none
  | (.word,directive),(index,c) =>
    if c = '=' then some (.level (index + 1),{directive with target := slice text 0 index})
    else if c = '[' then some (.span (index + 1),{directive with target := slice text 0 index})
    else some (.word,directive)
  | (.span start,directive),(index,c) =>
    if c = ']' then some (.aimed,{directive with forSpans := true})
    else if c = '\x7b' then some (.fact (index + 1),{directive with forSpans := start < index})
    else some (.span start,directive)
  | (.fact start,directive),(index,c) =>
    if c ≠ '\x7d' then some (.fact start,directive)
    else if start = index then none
    else (directive.withFact (slice text start index)).map fun directive => (.closing,directive)
  | (.closing,directive),(_,c) => if c = ']' then some (.aimed,directive) else none
  | (.aimed,directive),(index,c) => if c = '=' then some (.level (index + 1),directive) else none
  | (.level start,directive),_ => some (.level start,directive)

def finish (text : List Char) : Stage × Directive → Option Directive
  | (.word,directive) =>
    match parseLevel text with
    | some least => some {directive with least := least}
    | none => some {directive with target := text}
  | (.aimed,directive) => some directive
  | (.level start,directive) =>
    match (sliceFrom text start).map Prod.snd with
    | [] => some directive
    | level => (parseLevel level).map fun least => {directive with least := least}
  | _ => none

-- Blanks around a directive are passed over, but they count where its parts are cut out of the text.
def parseDirective (text : List Char) : Option Directive :=
  ((placed 0 (Text.trim text)).foldlM (advance text) (.opening,.start)).bind (finish text)

-- The longer target decides, then the one that names a fact, then the one whose fact comes later in
-- order; a directive written later stands in for an equal one.
def Directive.yieldsTo (before after : Directive) : Bool :=
  before.target.length < after.target.length ||
    (before.target.length = after.target.length &&
      match before.fact,after.fact with
      | none,_ => true
      | some _,none => false
      | some left,some right => !decide (right < left))

def Record.factNames (record : Record) : List (List Char) :=
  "message".toList :: record.facts.map fun fact => fact.1.toList

def Directive.speaksOf (directive : Directive) (record : Record) : Bool :=
  !directive.forSpans && directive.target.isPrefixOf record.target.toList &&
    directive.fact.all fun fact => record.factNames.contains fact

def splitCommas : List Char → List (List Char)
  | [] => [[]]
  | head :: rest =>
    if head = ',' then [] :: splitCommas rest
    else match splitCommas rest with
      | [] => [[head]]
      | first :: others => (head :: first) :: others

structure Filter where
  directives : List Directive
  deriving DecidableEq

def Filter.parse (text : String) : Option Filter :=
  (((splitCommas text.toList).filter fun part => !part.isEmpty).mapM parseDirective).map Filter.mk

def Filter.deciding (filter : Filter) (record : Record) : Option Directive :=
  (filter.directives.filter fun directive => directive.speaksOf record).foldl (fun chosen directive =>
    match chosen with
    | none => some directive
    | some best => if best.yieldsTo directive then some directive else chosen) none

def Filter.permits (filter : Filter) (record : Record) : Bool :=
  match (filter.deciding record).bind Directive.least with
  | some least => least.severity ≤ record.level.severity
  | none => false

end LedgerSettings.Logging
