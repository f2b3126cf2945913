/-!
Reals as exact binary numbers: decoding, the nearest integer, the real nearest to a quotient, and
the remainder of a division. All arithmetic is on integers, so each result is rounded at most once.
-/
namespace PaintRobot.Number

/-- A power of two. -/
def twoTo (n : Nat) : Nat := Nat.pow 2 n

/-- The number `± mantissa * 2 ^ exponent`. -/
structure Binary where
  negative : Bool
  mantissa : Nat
  exponent : Int
  deriving DecidableEq, Repr

/-- What a real stands for. -/
inductive Decoded where
  | nan
  | infinite (negative : Bool)
  | finite (b : Binary)
  deriving DecidableEq, Repr

/-- The least exponent of a finite real. -/
def leastExponent : Int := -1074

/-- Reads a real off its bits: a sign, eleven bits of exponent and fifty-two of fraction. -/
def decode (x : Float) : Decoded :=
  let bits := x.toBits.toNat
  let negative : Bool := twoTo 63 ≤ bits
  let scale : Nat := bits / twoTo 52 % twoTo 11
  let fraction := bits % twoTo 52
  if scale = 2047 then if fraction = 0 then .infinite negative else .nan
  else if scale = 0 then .finite ⟨negative, fraction, leastExponent⟩
  else .finite ⟨negative, twoTo 52 + fraction, leastExponent + scale - 1⟩

/-- The integer nearest to a number, a half away from zero. -/
def Binary.nearestInteger (b : Binary) : Int :=
  let magnitude :=
    if 0 ≤ b.exponent then b.mantissa * twoTo b.exponent.toNat
    else (2 * b.mantissa + twoTo (-b.exponent).toNat) / (2 * twoTo (-b.exponent).toNat)
  if b.negative then -magnitude else magnitude

/-- The integer nearest to a real, unless it is infinite or no number. -/
def nearestInteger? (x : Float) : Option Int :=
  match decode x with
  | .finite b => some b.nearestInteger
  | _ => none

/-- A quotient rounded to the nearest integer, a half to the even one. -/
def roundQuotient (num den : Nat) : Nat :=
  let q := num / den
  let r := 2 * (num % den)
  if r < den then q else if den < r then q + 1 else q + q % 2

/-- The integers whose quotient is `num / den / 2 ^ e`. -/
def scaleDown (num den : Nat) (e : Int) : Nat × Nat :=
  if 0 ≤ e then (num, den * twoTo e.toNat) else (num * twoTo (-e).toNat, den)

/-- The exponent at which `num / den` has a mantissa of fifty-three bits, or the least one where it
never has. -/
def quotientExponent (num den : Nat) : Int :=
  if num = 0 then leastExponent
  else
    let e : Int := (num.log2 : Int) - den.log2 - 53
    let (n, d) := scaleDown num den e
    max leastExponent (if twoTo 53 * d ≤ n then e + 1 else e)

/-- The non-negative real nearest to `num / den`; infinity from where reals end. -/
def nearest (num den : Nat) : Float :=
  let e := quotientExponent num den
  let (n, d) := scaleDown num den e
  let bits := (e - leastExponent).toNat * twoTo 52 + roundQuotient n d
  Float.ofBits (UInt64.ofNat (min bits (2047 * twoTo 52)))

def withSign (negative : Bool) (x : Float) : Float := if negative then -x else x

/-- The real nearest to `± mantissa * 2 ^ exponent`. -/
def Binary.toFloat (b : Binary) : Float :=
  let (n, d) := scaleDown b.mantissa 1 (-b.exponent)
  withSign b.negative (nearest n d)

def notANumber : Float := 0.0 / 0.0

def infinity : Float := 1.0 / 0.0

/-- The remainder of `a` by `b`, smaller than `b` and with the sign of `a`. -/
def Binary.remainder (a b : Binary) : Binary :=
  let e := min a.exponent b.exponent
  let m := a.mantissa * twoTo (a.exponent - e).toNat
  let n := b.mantissa * twoTo (b.exponent - e).toNat
  ⟨a.negative, m % n, e⟩

/-- The remainder of a division whose quotient is cut towards zero. It is exact. -/
def remainder (x y : Float) : Float :=
  match decode x, decode y with
  | .finite a, .finite b => if b.mantissa = 0 then notANumber else (a.remainder b).toFloat
  | .finite _, .infinite _ => x
  | _, _ => notANumber

end PaintRobot.Number
