import CharacterSheet.Number.Binary64

/-!
The decimal text of a double. `shortest` finds the fewest digits that read back as the same double,
and among those the ones nearest to it; `RealLayout` says how digits are set.
-/
namespace CharacterSheet.Number

/-- Digits `d₁d₂…` and a point position `k`, standing for `0.d₁d₂… * 10 ^ k`. -/
structure Digits where
  digits : List Char
  point : Int
  deriving DecidableEq, Repr

/-- The value and the two ends of the interval that rounds to it, over one denominator. -/
structure Span where
  low : Nat
  mid : Nat
  high : Nat
  den : Nat
  closed : Bool

def span (mantissa : Nat) (exponent : Int) : Span :=
  let low :=
    if mantissa == Nat.pow 2 52 && -1074 < exponent then 4 * mantissa - 1 else 4 * mantissa - 2
  let e := exponent - 2
  let up := Nat.pow 2 e.toNat
  { low := low * up
    mid := 4 * mantissa * up
    high := (4 * mantissa + 2) * up
    den := Nat.pow 2 (-e).toNat
    closed := mantissa % 2 == 0 }

/-- Multiplying numerators or the denominator, so that a unit is `10 ^ place`. -/
def Span.inUnits (s : Span) (place : Int) : Span :=
  let down := Nat.pow 10 (-place).toNat
  { s with low := s.low * down, mid := s.mid * down, high := s.high * down
           den := s.den * Nat.pow 10 place.toNat }

def Span.holds (s : Span) (n : Nat) : Bool :=
  if s.closed then s.low ≤ n * s.den && n * s.den ≤ s.high
  else s.low < n * s.den && n * s.den < s.high

/-- The multiple of the unit that lies in the span next to its middle, a tie going to the even one.
-/
def Span.pick? (s : Span) : Option Nat :=
  let n := s.mid / s.den
  let r := s.mid % s.den
  let nearer := if 2 * r < s.den || (2 * r == s.den && n % 2 == 0) then n else n + 1
  let other := if nearer == n then n + 1 else n
  if s.holds nearer then some nearer else if s.holds other then some other else none

/-- The `k` with `10 ^ (k - 1) ≤ num / den < 10 ^ k`. -/
def pointOf (num den : Nat) : Int :=
  if den ≤ num then (Nat.toDigits 10 (num / den)).length
  else
    let k : Int := (Nat.toDigits 10 (den / num)).length
    if num * Nat.pow 10 k.toNat < den * 10 then 1 - k else 2 - k

def trimZeros (ds : List Char) : List Char := (ds.reverse.dropWhile (· == '0')).reverse

def digitsOf (n : Nat) (place : Int) : Digits :=
  let ds := Nat.toDigits 10 n
  ⟨trimZeros ds, ds.length + place⟩

/-- Seventeen digits tell any two doubles apart. -/
def shortest (mantissa : Nat) (exponent : Int) : Digits :=
  let s := span mantissa exponent
  let k := pointOf s.mid s.den
  let hit := (List.range 17).findSome? fun n =>
    let place := k - (n + 1 : Nat)
    ((s.inUnits place).pick?).map (digitsOf · place)
  hit.getD ⟨['0'], 1⟩

/-- How a number with a fraction part is written. -/
structure RealLayout where
  /-- the point positions below which and from which an exponent is written -/
  lowest : Int
  highest : Int
  exponentWidth : Nat
  infinite : String
  undefined : String

/-- Positional from 0.0001 up to 10^16, with at least one place after the point; the exponent has a
sign and at least two digits. -/
def plainLayout : RealLayout := ⟨-3, 16, 2, "inf", "nan"⟩

def exponentText (width : Nat) (e : Int) : List Char :=
  let ds := Nat.toDigits 10 e.natAbs
  'e' :: (if e < 0 then '-' else '+') :: (List.replicate (width - ds.length) '0' ++ ds)

def RealLayout.unsigned (l : RealLayout) (d : Digits) : List Char :=
  if d.point < l.lowest || l.highest < d.point then
    let rest := d.digits.drop 1
    d.digits.take 1 ++ (if rest.isEmpty then [] else '.' :: rest) ++
      exponentText l.exponentWidth (d.point - 1)
  else if d.point ≤ 0 then '0' :: '.' :: (List.replicate (-d.point).toNat '0' ++ d.digits)
  else
    let k := d.point.toNat
    let rest := d.digits.drop k
    d.digits.take k ++ List.replicate (k - d.digits.length) '0' ++
      '.' :: (if rest.isEmpty then ['0'] else rest)

def RealLayout.write (l : RealLayout) (x : Float) : String :=
  let signed (negative : Bool) (s : String) := if negative then "-" ++ s else s
  match shape x with
  | .undefined => l.undefined
  | .infinite negative => signed negative l.infinite
  | .finite negative 0 _ => signed negative "0.0"
  | .finite negative m e => signed negative (String.ofList (l.unsigned (shortest m e)))

def realText (x : Float) : String := plainLayout.write x

end CharacterSheet.Number
