import PaintRobot.Number.Decimal

/-!
The shortest decimal that stands for a real: of the decimals that round to it one with the fewest
digits, and of those the nearest. It is the text in which reals are shown.
-/
namespace PaintRobot.Number

/-- A real and the bounds of the numbers that round to it, all over one denominator. -/
structure Neighbourhood where
  value : Nat
  lower : Nat
  upper : Nat
  denominator : Nat
  closed : Bool

/-- The numbers nearer to a real than to the reals beside it. Below a power of two the reals lie
twice as close. A bound itself rounds to the even mantissa. -/
def neighbourhood (b : Binary) : Neighbourhood :=
  let (n, d) := scaleDown 1 1 (2 - b.exponent)
  let m := 4 * b.mantissa
  let below := if b.mantissa = twoTo 52 && b.exponent != leastExponent then 1 else 2
  ⟨m * n, (m - below) * n, (m + 2) * n, d, b.mantissa % 2 == 0⟩

/-- How decimals of one exponent compare with the numbers of a neighbourhood: the former are
multiplied by `unit`, the latter by `factor`. -/
structure Grid where
  unit : Nat
  factor : Nat

def Neighbourhood.grid (s : Neighbourhood) (exponent : Int) : Grid :=
  if 0 ≤ exponent then ⟨tenTo exponent.toNat * s.denominator, 1⟩
  else ⟨s.denominator, tenTo (-exponent).toNat⟩

def Neighbourhood.contains (s : Neighbourhood) (g : Grid) (c : Nat) : Bool :=
  let lower := s.lower * g.factor
  let upper := s.upper * g.factor
  if s.closed then lower ≤ c * g.unit && c * g.unit ≤ upper
  else lower < c * g.unit && c * g.unit < upper

/-- Of the two decimals around the value the nearer one that lies in the neighbourhood; a value
halfway between them goes up. -/
def Neighbourhood.pick? (s : Neighbourhood) (exponent : Int) : Option Nat :=
  let g := s.grid exponent
  let value := s.value * g.factor
  let c := value / g.unit
  let nearer := if 2 * (value - c * g.unit) < g.unit then [c, c + 1] else [c + 1, c]
  nearer.find? (s.contains g)

/-- The exponent of the first digit of `num / den`. -/
def leadingExponent (num den : Nat) : Int :=
  let e : Int := (digitCount num : Int) - digitCount den
  let reaches : Bool :=
    if 0 ≤ e then den * tenTo e.toNat ≤ num else den ≤ num * tenTo (-e).toNat
  if reaches then e else e - 1

/-- Tries ever finer decimals, from `exponent` downwards. -/
def Neighbourhood.shortestFrom (s : Neighbourhood) (exponent : Int) : Nat → Decimal
  | 0 => ⟨s.value * (s.grid exponent).factor / (s.grid exponent).unit, exponent⟩
  | tries + 1 =>
    match s.pick? exponent with
    | some c => ⟨c, exponent⟩
    | none => s.shortestFrom (exponent - 1) tries

/-- The shortest decimal for a positive mantissa. Seventeen digits always suffice. -/
def Binary.shortest (b : Binary) : Decimal :=
  let s := neighbourhood b
  s.shortestFrom (leadingExponent s.value s.denominator) 17

/-- The text of a real. -/
def realText (x : Float) : String :=
  match decode x with
  | .nan => "NaN"
  | .infinite negative => if negative then "-inf" else "inf"
  | .finite b =>
    let magnitude := if b.mantissa = 0 then "0" else b.shortest.text
    if b.negative then "-" ++ magnitude else magnitude

end PaintRobot.Number
