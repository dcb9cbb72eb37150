namespace LedgerSettings.Decimal

structure Amount where
  digits : Nat
  exponent : Int
  deriving DecidableEq

-- Below a power of two the reals stand twice as close as above it.
structure Exact where
  mantissa : Nat
  exponent : Int
  narrowBelow : Bool

def exactOf (bits : UInt64) : Exact :=
  let fraction := bits.toNat % Nat.pow 2 52
  let scale := bits.toNat / Nat.pow 2 52 % Nat.pow 2 11
  if scale = 0 then ⟨fraction,-1074,false⟩
  else ⟨Nat.pow 2 52 + fraction,(scale : Int) - 1075,fraction = 0 && 1 < scale⟩

-- The ends of the interval round to the number exactly when the mantissa is even.
structure Interval where
  low : Nat
  value : Nat
  high : Nat
  denominator : Nat
  closed : Bool

def Exact.interval (exact : Exact) : Interval :=
  let up := Nat.pow 2 (exact.exponent - 2).toNat
  let down := Nat.pow 2 (2 - exact.exponent).toNat
  let middle := 4 * exact.mantissa
  ⟨(if exact.narrowBelow then middle - 1 else middle - 2) * up,middle * up,(middle + 2) * up,down,
    exact.mantissa % 2 = 0⟩

def digitCount (n : Nat) : Nat := (Nat.toDigits 10 n).length

def Interval.magnitude (interval : Interval) : Int :=
  if interval.denominator ≤ interval.value then
    (digitCount (interval.value / interval.denominator) : Int) - 1
  else
    let count := digitCount (interval.denominator / interval.value)
    if interval.denominator ≤ interval.value * Nat.pow 10 (count - 1) then -((count - 1 : Nat) : Int)
    else -(count : Int)

def Interval.contains (interval : Interval) (amount : Amount) : Bool :=
  let up := Nat.pow 10 amount.exponent.toNat
  let down := Nat.pow 10 (-amount.exponent).toNat
  let point := amount.digits * up * interval.denominator
  if interval.closed then interval.low * down ≤ point && point ≤ interval.high * down
  else interval.low * down < point && point < interval.high * down

inductive Tie where
  | even
  | up
  deriving DecidableEq

def Tie.raises (tie : Tie) (lower : Nat) : Bool :=
  match tie with
  | .even => lower % 2 = 1
  | .up => true

def Interval.neighbours (interval : Interval) (tie : Tie) (count : Nat) : Amount × Amount × Bool :=
  let exponent := interval.magnitude - (count - 1 : Nat)
  let up := Nat.pow 10 exponent.toNat
  let down := Nat.pow 10 (-exponent).toNat
  let numerator := interval.value * down
  let denominator := interval.denominator * up
  let floor := numerator / denominator
  let twice := 2 * (numerator % denominator)
  (⟨floor,exponent⟩,⟨floor + 1,exponent⟩,
    denominator < twice || (twice = denominator && tie.raises floor))

def Interval.best (interval : Interval) (tie : Tie) (count : Nat) : Option Amount :=
  let (lower,upper,upward) := interval.neighbours tie count
  match interval.contains lower,interval.contains upper with
  | true,true => some (if upward then upper else lower)
  | true,false => some lower
  | false,true => some upper
  | false,false => none

def withoutZeros : Nat → Amount → Amount
  | 0,amount => amount
  | steps+1,amount =>
    if amount.digits % 10 = 0 then withoutZeros steps ⟨amount.digits / 10,amount.exponent + 1⟩
    else amount

-- The counts are tried upwards, and seventeen digits always suffice.
def Interval.shortest (interval : Interval) (tie : Tie) : Amount :=
  match (List.range 17).findSome? fun before => interval.best tie (before + 1) with
  | some amount => withoutZeros 17 amount
  | none => ⟨0,0⟩

def shortest (tie : Tie) (value : Float) : Amount := (exactOf value.toBits).interval.shortest tie

def isNegative (value : Float) : Bool := Nat.pow 2 63 ≤ value.toBits.toNat

structure Spelling where
  tie : Tie
  lowestPoint : Option Int
  highestPoint : Option Int
  fraction : Bool

def Spelling.json : Spelling := ⟨.even,some (-4),some 16,true⟩

def Spelling.plain : Spelling := ⟨.up,none,none,false⟩

def Spelling.plainReal : Spelling := ⟨.up,none,none,true⟩

def zeros (count : Nat) : String := String.ofList (List.replicate count '0')

def Spelling.positive (rules : Spelling) (amount : Amount) : String :=
  let digits := Nat.toDigits 10 amount.digits
  let point : Int := digits.length + amount.exponent
  let plain := rules.lowestPoint.all (· ≤ point) && rules.highestPoint.all (point ≤ ·)
  if plain then
    if point ≤ 0 then s!"0.{zeros (-point).toNat}{String.ofList digits}"
    else if digits.length ≤ point.toNat then
      let whole := String.ofList digits ++ zeros (point.toNat - digits.length)
      if rules.fraction then whole ++ ".0" else whole
    else s!"{String.ofList (digits.take point.toNat)}.{String.ofList (digits.drop point.toNat)}"
  else
    let exponent := point - 1
    let scale := if exponent < 0 then s!"e-{exponent.natAbs}" else s!"e+{exponent.natAbs}"
    match digits with
    | first :: rest@(_ :: _) => s!"{first}.{String.ofList rest}" ++ scale
    | _ => String.ofList digits ++ scale

def Spelling.write (rules : Spelling) (value : Float) : String :=
  if value.isNaN then "NaN"
  else
    let sign := if isNegative value then "-" else ""
    if value.isInf then sign ++ "inf"
    else if value == 0 then sign ++ (if rules.fraction then "0.0" else "0")
    else sign ++ rules.positive (shortest rules.tie value)

end LedgerSettings.Decimal
