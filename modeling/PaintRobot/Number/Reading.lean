import PaintRobot.Number.Decimal

/-! Reading numbers: integers of at most thirty-two bits, and reals with or without an exponent. -/
namespace PaintRobot.Number

/-- The value of a run of decimal digits. -/
def digitsValue (s : List Char) : Nat :=
  s.foldl (fun n c => 10 * n + (c.toNat - '0'.toNat)) 0

def natural? (s : List Char) : Option Nat :=
  if !s.isEmpty && s.all Char.isDigit then some (digitsValue s) else none

/-- Decimal digits after at most one sign. -/
def signed? : List Char → Option Int
  | '-' :: s => (natural? s).map fun n => -n
  | '+' :: s => (natural? s).map fun n => n
  | s => (natural? s).map fun n => n

/-- Whether thirty-two bits hold an integer. -/
def fitsInteger (n : Int) : Bool := -2147483648 ≤ n && n ≤ 2147483647

/-- Reads an integer that fits thirty-two bits. -/
def integer? (s : List Char) : Option Int32 :=
  ((signed? s).filter fitsInteger).map Int32.ofInt

/-- What may follow the digits of a real: nothing, or `e` and a signed integer. -/
def exponent? : List Char → Option Int
  | [] => some 0
  | c :: s => if c == 'e' || c == 'E' then signed? s else none

/-- The decimal of the digits before and after a point, unless there are none, and an exponent. -/
def decimal? (whole places ending : List Char) : Option Decimal :=
  if whole.isEmpty && places.isEmpty then none
  else (exponent? ending).map fun e => ⟨digitsValue (whole ++ places), e - places.length⟩

/-- Reads a real without a sign. -/
def real? (s : List Char) : Option Float :=
  let whole := s.takeWhile Char.isDigit
  let decimal :=
    match s.dropWhile Char.isDigit with
    | '.' :: tail => decimal? whole (tail.takeWhile Char.isDigit) (tail.dropWhile Char.isDigit)
    | ending => decimal? whole [] ending
  decimal.map Decimal.toFloat

end PaintRobot.Number
