import PaintRobot.Number.Binary

/-! Decimal numbers: their text in full, never with an exponent, and the reals nearest to them. -/
namespace PaintRobot.Number

/-- A power of ten. -/
def tenTo (n : Nat) : Nat := Nat.pow 10 n

/-- The number `digits * 10 ^ exponent`. -/
structure Decimal where
  digits : Nat
  exponent : Int
  deriving DecidableEq, Repr

def digitCount (n : Nat) : Nat := (Nat.toDigits 10 n).length

/-- Writes a decimal without the zeros that end its digits, with a point only before digits. -/
def Decimal.text (d : Decimal) : String :=
  let digits := Nat.toDigits 10 d.digits
  let kept := (digits.reverse.dropWhile (· == '0')).reverse
  let exponent : Int := d.exponent + (digits.length - kept.length : Nat)
  if 0 ≤ exponent then String.ofList (kept ++ List.replicate exponent.toNat '0')
  else
    let places := (-exponent).toNat
    if places < kept.length then
      let whole := kept.length - places
      String.ofList (kept.take whole ++ '.' :: kept.drop whole)
    else String.ofList ('0' :: '.' :: (List.replicate (places - kept.length) '0' ++ kept))

/-- The real nearest to a decimal. Where the place of its first digit decides alone, the power of
ten is not computed. -/
def Decimal.toFloat (d : Decimal) : Float :=
  let place := d.exponent + digitCount d.digits
  if d.digits = 0 || place < -400 then 0
  else if 400 < place then infinity
  else if 0 ≤ d.exponent then nearest (d.digits * tenTo d.exponent.toNat) 1
  else nearest d.digits (tenTo (-d.exponent).toNat)

end PaintRobot.Number
