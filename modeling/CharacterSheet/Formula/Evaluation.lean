import CharacterSheet.Data.Scalar
import CharacterSheet.Formula.Basic
import CharacterSheet.Formula.Time

/-!
The value of a formula, given what its names stand for. The operands are looked up from left to
right, and the result becomes an integer at the end: that of an operation is rounded, and a lone
operand is cut at its point.
-/
namespace CharacterSheet

namespace Data

def ofNumber : Number → Data
  | .int n => .int n
  | .real x => .real x

/-- Whether two values of this kind can be joined to one. -/
def isJoined : Data → Data → Bool
  | .list _, .list _ | .tuple _, .tuple _ => true
  | a, b => a.codes?.isSome && b.codes?.isSome

def isRepeatable : Data → Bool
  | .list _ | .tuple _ => true
  | v => v.codes?.isSome

/-- Nothing is repeated more often. -/
def repeatBound : Int := Int.pow 2 63

/-- Doubles count nothing. -/
def count? : Data → Option Int
  | .int n => some n
  | .bool b => some b.toNat
  | _ => none

/-- Something that is repeated so many times. -/
def repeated (v times : Data) : Result Data :=
  match times.count? with
  | some n =>
    if -repeatBound ≤ n && n < repeatBound then .ok v else .error (.arithmetic .countTooLarge)
  | none => .error .wrongKind

def isSet : Data → Bool
  | .set _ => true
  | _ => false

/-- A value as a formula that has no operation: a text may spell an integer. -/
def whole (v : Data) : Result Int :=
  match v.number?, v with
  | some n, _ => n.cut.mapError .arithmetic
  | none, .text s => match Text.looseDigits? s with
    | some (negative, ds) =>
      .ofDigits ds.length (Text.signedValue negative (Text.digitsValue ds))
    | none => .error (.value (.unreadableInteger 10 (Text.codes s)))
  | none, .broken cs => .error (.value (.unreadableInteger 10 cs))
  | none, _ => .error .wrongKind

end Data

/-- What operations work on: days and spans of time, and all other values. -/
inductive Operand where
  | plain (v : Data)
  | day (n : Int)
  | span (microseconds : Int)

namespace Operand

def of : Data → Operand
  | .date d => .day d.ordinal
  | v => .plain v

def ofNumber (n : Number) : Operand := .plain (.ofNumber n)

def number? : Operand → Option Number
  | .plain v => v.number?
  | _ => none

/-- Days and spans are of no kind that other values are of. -/
def toData : Operand → Data
  | .plain v => v
  | _ => .null

end Operand

namespace Operator

/-- `formula` is there for the faults to quote. -/
def applyNumbers (op : Operator) (formula : Formula) (a b : Number) : Result Number :=
  match op with
  | .add => (a.add b).mapError .arithmetic
  | .sub => (a.sub b).mapError .arithmetic
  | .mul => (a.mul b).mapError .arithmetic
  | .div =>
    if b.isZero then .error (.evaluation (.divisionByZero formula.text))
    else (a.div b).mapError .arithmetic
  | .pow => (a.pow b).mapError fun cause => .evaluation (.power formula.text cause)

/-- Of what is no number only the kind counts, since no formula has it for its value. Texts and
lists can be joined and repeated, and sets taken from each other. -/
def applyOthers (op : Operator) (formula : Formula) (a b : Data) : Result Data :=
  match op with
  | .add => if a.isJoined b then .ok a else .error .wrongKind
  | .sub => if a.isSet && b.isSet then .ok a else .error .wrongKind
  | .mul => match a.isRepeatable, b.isRepeatable with
    | true, _ => a.repeated b
    | false, true => b.repeated a
    | false, false => .error .wrongKind
  | .div =>
    if b.number?.any Number.isZero then .error (.evaluation (.divisionByZero formula.text))
    else .error .wrongKind
  | .pow => match a.number?.map Number.toReal with
    | some (.error cause) => .error (.evaluation (.power formula.text cause))
    | _ => .error .wrongKind

/-- What days and spans of time give together, where they give anything. A span is scaled by what is
not zero. -/
def applyTimes? (op : Operator) (a b : Operand) : Option (Result Operand) :=
  let day (n : Int) : Result Operand := ((Time.day? n).map .day).mapError .arithmetic
  let span (r : Number.Result Int) : Result Operand := (r.map .span).mapError .arithmetic
  match op, a, b with
  | .add, .day n, .span s | .add, .span s, .day n => some (day (n + s / Time.dayLength))
  | .sub, .day n, .span s => some (day (n - s / Time.dayLength))
  | .sub, .day m, .day n => some (span (Time.span? ((m - n) * Time.dayLength)))
  | .add, .span s, .span t => some (span (Time.span? (s + t)))
  | .sub, .span s, .span t => some (span (Time.span? (s - t)))
  | .mul, .span s, .plain v | .mul, .plain v, .span s =>
    v.number?.map fun n => span (Time.scale s n)
  | .div, .span s, .plain v => (v.number?.filter (!·.isZero)).map fun n => span (Time.divide s n)
  | .div, .span s, .span t =>
    if t == 0 then some (.error .zeroSpan)
    else some (((Number.div (.int s) (.int t)).map .ofNumber).mapError .arithmetic)
  | _, _, _ => none

def apply (op : Operator) (formula : Formula) (a b : Operand) : Result Operand :=
  match a.number?, b.number? with
  | some x, some y => do return .ofNumber (← op.applyNumbers formula x y)
  | _, _ => (op.applyTimes? a b).getD do
    return .plain (← op.applyOthers formula a.toData b.toData)

end Operator

namespace Formula

abbrev Resolver := String → Result (Option Data)

def operandValue (resolve : Resolver) (name : String) : Result Data := do
  match ← resolve name with
  | some v => return v
  | none => .error (.evaluation (.noValue name))

def value (resolve : Resolver) : Formula → Result Operand
  | .operand name => do return .of (← operandValue resolve name)
  | .operation op l r => do
    let a ← l.value resolve
    let b ← r.value resolve
    op.apply (.operation op l r) a b

def rounded (v : Operand) : Result Int :=
  match v.number? with
  | some n => n.round.mapError .arithmetic
  | none => .error .wrongKind

def evaluate (resolve : Resolver) : Formula → Result Int
  | .operand name => do (← operandValue resolve name).whole
  | f => do rounded (← f.value resolve)

end Formula

end CharacterSheet
