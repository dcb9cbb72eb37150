namespace LedgerSettings

-- Whole numbers and reals stay apart: no reader turns one into the other behind the decoder's back.
inductive Scalar where
  | null
  | flag (value : Bool)
  | integer (value : Int)
  | real (value : Float)
  | text (value : String)
  deriving DecidableEq

-- Tables keep the written order and repeated keys: it is the decoder that judges them.
inductive Value where
  | scalar (content : Scalar)
  | list (items : List Value)
  | table (rows : List (String × Value))

namespace Value

def null : Value := .scalar .null
def flag (value : Bool) : Value := .scalar (.flag value)
def integer (value : Int) : Value := .scalar (.integer value)
def natural (value : Nat) : Value := .scalar (.integer value)
def real (value : Float) : Value := .scalar (.real value)
def text (value : String) : Value := .scalar (.text value)

def ofPresent (rows : List (String × Option Value)) : Value :=
  .table (rows.filterMap fun row => row.2.map fun value => (row.1,value))

end Value

-- Reals meet as numbers here: 0.0 and -0.0 agree and NaN disagrees with itself.
def Scalar.agrees : Scalar → Scalar → Bool
  | .real x,.real y => x == y
  | left,right => decide (left = right)

mutual
def Value.agrees : Value → Value → Bool
  | .scalar left,.scalar right => left.agrees right
  | .list left,.list right => Value.itemsAgree left right
  | .table left,.table right => Value.rowsAgree left right
  | _,_ => false
def Value.itemsAgree : List Value → List Value → Bool
  | [],[] => true
  | left :: lefts,right :: rights => left.agrees right && Value.itemsAgree lefts rights
  | _,_ => false
def Value.rowsAgree : List (String × Value) → List (String × Value) → Bool
  | [],[] => true
  | (key,left) :: lefts,(name,right) :: rights =>
    key == name && left.agrees right && Value.rowsAgree lefts rights
  | _,_ => false
end

instance : BEq Value := ⟨Value.agrees⟩

end LedgerSettings
