/-!
Doubles as exact numbers. A finite double is a mantissa times a power of two, and `nearest?` finds
the double next to a quotient, a tie going to the even mantissa.
-/
namespace CharacterSheet.Number

inductive Shape where
  | finite (negative : Bool) (mantissa : Nat) (exponent : Int)
  | infinite (negative : Bool)
  | undefined
  deriving DecidableEq, Repr

def shape (x : Float) : Shape :=
  let bits : Nat := x.toBits.toNat
  let negative := bits / Nat.pow 2 63 == 1
  let biased : Nat := bits / Nat.pow 2 52 % 2048
  let fraction : Nat := bits % Nat.pow 2 52
  if biased == 2047 then (if fraction == 0 then .infinite negative else .undefined)
  else if biased == 0 then .finite negative fraction (-1074)
  else .finite negative (fraction + Nat.pow 2 52) ((biased : Int) - 1075)

/-- A quotient rounded to the nearest natural number, a tie going to the even one. -/
def roundQuotient (num den : Nat) : Nat :=
  let q := num / den
  let r := num % den
  if 2 * r < den then q
  else if den < 2 * r then q + 1
  else if q % 2 == 0 then q else q + 1

/-- The quotient of `num` by `den * 2 ^ exponent` as a pair of natural numbers. -/
def scaled (num den : Nat) (exponent : Int) : Nat × Nat :=
  if 0 ≤ exponent then (num, den * Nat.pow 2 exponent.toNat)
  else (num * Nat.pow 2 (-exponent).toNat, den)

/-- The place of the last bit that the double next to `num / den` keeps. -/
def lastPlace (num den : Nat) : Int :=
  let guess : Int := max ((Nat.log2 num : Int) - Nat.log2 den - 53) (-1074)
  let (n, d) := scaled num den guess
  if num == 0 then -1074 else if n / d < Nat.pow 2 53 then guess else guess + 1

/-- The double nearest to `num / den`, or nothing if that lies beyond the largest double. -/
def nearest? (negative : Bool) (num den : Nat) : Option Float :=
  let place := lastPlace num den
  let (n, d) := scaled num den place
  let bits := (place + 1074).toNat * Nat.pow 2 52 + roundQuotient n d
  if 2047 * Nat.pow 2 52 ≤ bits then none
  else some (.ofBits (UInt64.ofNat (if negative then bits + Nat.pow 2 63 else bits)))

def infinity (negative : Bool) : Float :=
  .ofBits (UInt64.ofNat ((if negative then Nat.pow 2 63 else 0) + 2047 * Nat.pow 2 52))

def notANumber : Float := .ofBits (UInt64.ofNat (2047 * Nat.pow 2 52 + Nat.pow 2 51))

def ofInt? (n : Int) : Option Float := nearest? (n < 0) n.natAbs 1

/-- The double nearest to `digits * 10 ^ exponent`; what is too large becomes an infinity. The count
of digits settles the far ends without raising ten to a large power. -/
def ofDecimal (negative : Bool) (digits : Nat) (exponent : Int) : Float :=
  let size : Int := (Nat.toDigits 10 digits).length + exponent
  if digits == 0 || size < -400 then (nearest? negative 0 1).getD 0
  else if 400 < size then infinity negative
  else
    let (num, den) := if 0 ≤ exponent then (digits * Nat.pow 10 exponent.toNat, 1)
      else (digits, Nat.pow 10 (-exponent).toNat)
    (nearest? negative num den).getD (infinity negative)

end CharacterSheet.Number
