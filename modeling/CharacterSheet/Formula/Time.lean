import CharacterSheet.Fault

/-!
Days and spans of time in formulas. Days are counted from the first of January of the year one, and
spans in microseconds. A span can be scaled, and two of them give a number.
-/
namespace CharacterSheet

namespace Date

def daysBeforeYear (year : Nat) : Nat :=
  let y := year - 1
  y * 365 + y / 4 - y / 100 + y / 400

def daysBeforeMonth (year month : Nat) : Nat :=
  (List.range' 1 (month - 1)).foldr (fun m n => daysIn year m + n) 0

def ordinal (d : Date) : Nat := daysBeforeYear d.year + daysBeforeMonth d.year d.month + d.day

end Date

namespace Time

/-- The last day of the year 9999. -/
def lastDay : Int := 3652059

def dayLength : Int := 24 * 60 * 60 * 1000000

def longestDays : Int := 999999999

def wordBound : Int := Int.pow 2 31

def day? (n : Int) : Number.Result Int :=
  if 1 ≤ n && n ≤ lastDay then .ok n else .error .dayOutOfRange

def span? (microseconds : Int) : Number.Result Int :=
  let days := microseconds / dayLength
  if days < -wordBound || wordBound ≤ days then .error .beyondWord
  else if longestDays < days.natAbs then .error (.spanTooLong days)
  else .ok microseconds

/-- A quotient rounded to the nearest integer, a tie going to the even one. -/
def nearest (num den : Int) : Int :=
  Number.signed (decide (num < 0) != decide (den < 0)) (Number.roundQuotient num.natAbs den.natAbs)

/-- A finite number as a quotient of integers. -/
def ratio? : Number → Number.Result (Int × Int)
  | .int n => .ok (n, 1)
  | .real x => match Number.shape x with
    | .finite negative m e =>
      let (n, d) := Number.scaled m 1 (-e)
      .ok (Number.signed negative n, d)
    | .infinite _ => .error .ratioOfInfinity
    | .undefined => .error .ratioOfUndefined

def scale (span : Int) (factor : Number) : Number.Result Int := do
  let (n, d) ← ratio? factor
  span? (nearest (span * n) d)

/-- The divisor is not zero. -/
def divide (span : Int) (divisor : Number) : Number.Result Int := do
  let (n, d) ← ratio? divisor
  span? (nearest (span * d) n)

end Time

end CharacterSheet
