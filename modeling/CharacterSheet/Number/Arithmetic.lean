import CharacterSheet.Number.Binary64

/-!
Arithmetic on integers and doubles. Integers stay exact until a division or a power makes a double
of them; a double stays a double. `Number.round` goes back to an integer, a half going to the even
neighbour.
-/
namespace CharacterSheet

inductive ArithmeticFault where
  | intTooLarge
  | quotientTooLarge
  | powerUndefined
  | powerTooLarge
  | roundInfinity
  | roundUndefined
  | beyondWord
  | countTooLarge
  | dayOutOfRange
  | spanTooLong (days : Int)
  | ratioOfInfinity
  | ratioOfUndefined
  deriving DecidableEq, Repr

def ArithmeticFault.message : ArithmeticFault → String
  | .intTooLarge => "int too large to convert to float"
  | .quotientTooLarge => "integer division result too large for a float"
  | .powerUndefined => "math domain error"
  | .powerTooLarge => "math range error"
  | .roundInfinity => "cannot convert float infinity to integer"
  | .roundUndefined => "cannot convert float NaN to integer"
  | .beyondWord => "Python int too large to convert to C int"
  | .countTooLarge => "cannot fit 'int' into an index-sized integer"
  | .dayOutOfRange => "date value out of range"
  | .spanTooLong days =>
    "days=" ++ toString days ++ "; must have magnitude <= 999999999"
  | .ratioOfInfinity => "cannot convert Infinity to integer ratio"
  | .ratioOfUndefined => "cannot convert NaN to integer ratio"

inductive Number where
  | int (n : Int)
  | real (x : Float)

namespace Number

abbrev Result (α : Type) := Except ArithmeticFault α

def toReal : Number → Result Float
  | .int n => match ofInt? n with
    | some x => .ok x
    | none => .error .intTooLarge
  | .real x => .ok x

/-- Integers meet exactly; with a double on either side both become doubles. -/
def mixed (exact : Int → Int → Int) (approximate : Float → Float → Float) :
    Number → Number → Result Number
  | .int a, .int b => .ok (.int (exact a b))
  | a, b => do return .real (approximate (← a.toReal) (← b.toReal))

def add : Number → Number → Result Number := mixed (· + ·) (· + ·)
def sub : Number → Number → Result Number := mixed (· - ·) (· - ·)
def mul : Number → Number → Result Number := mixed (· * ·) (· * ·)

def isZero : Number → Bool
  | .int n => n == 0
  | .real x => x == 0

/-- The quotient of two integers is the double nearest to the exact quotient. The divisor is not
zero. -/
def div : Number → Number → Result Number
  | .int a, .int b =>
    match nearest? (decide (a < 0) != decide (b < 0)) a.natAbs b.natAbs with
    | some x => .ok (.real x)
    | none => .error .quotientTooLarge
  | a, b => do return .real ((← a.toReal) / (← b.toReal))

def isFinite (x : Float) : Bool :=
  match shape x with
  | .finite .. => true
  | _ => false

/-- A power of finite doubles that is no finite double is a fault. -/
def power (x y : Float) : Result Float :=
  let r := x.pow y
  if isFinite r || !isFinite x || !isFinite y then .ok r
  else if shape r == .undefined || x == 0 then .error .powerUndefined
  else .error .powerTooLarge

def pow (a b : Number) : Result Number := do
  return .real (← power (← a.toReal) (← b.toReal))

def signed (negative : Bool) (n : Nat) : Int := if negative then -n else n

def round : Number → Result Int
  | .int n => .ok n
  | .real x => match shape x with
    | .finite negative m e =>
      let (n, d) := scaled m 1 (-e)
      .ok (signed negative (roundQuotient n d))
    | .infinite _ => .error .roundInfinity
    | .undefined => .error .roundUndefined

/-- A number without what stands behind its point. -/
def cut : Number → Result Int
  | .int n => .ok n
  | .real x => match shape x with
    | .finite negative m e =>
      let (n, d) := scaled m 1 (-e)
      .ok (signed negative (n / d))
    | .infinite _ => .error .roundInfinity
    | .undefined => .error .roundUndefined

/-- The least integer that is not below a number. -/
def ceil : Number → Result Int
  | .int n => .ok n
  | .real x => match shape x with
    | .finite negative m e =>
      let (n, d) := scaled m 1 (-e)
      .ok (if negative then -(n / d : Nat) else ((n + d - 1) / d : Nat))
    | .infinite _ => .error .roundInfinity
    | .undefined => .error .roundUndefined

end Number

end CharacterSheet
