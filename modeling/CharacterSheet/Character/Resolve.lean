import CharacterSheet.Character.Basic
import CharacterSheet.Formula.Evaluation

/-!
Values of traits and variables. A trait's value may hang on variables, and a variable on a trait, so
a reading carries the names that are being looked up: meeting one of them again is a fault.
Subtraits and the reserved names are read without such a guard, and `endless` is the outcome of
reading them in a circle.
-/
namespace CharacterSheet

inductive Value where
  | int (n : Int)
  | bool (b : Bool)
  | text (s : String)
  deriving DecidableEq, Repr

namespace Value

def toData : Value → Data
  | .int n => .int n
  | .bool b => .bool b
  | .text s => .text s

def display (v : Value) : String := v.toData.display

/-- The text of a value, if it can be written. -/
def shown (v : Value) : Result String := v.toData.shown

def int? : Value → Option Int
  | .int n => some n
  | _ => none

/-- The integer that a value is or spells. -/
def integer? (v : Value) : Result (Option Int) := v.toData.integer?

/-- Whether a value counts as selected. -/
def isSelected : Value → Result Bool
  | .int n => .ok (0 < n)
  | .bool b => .ok b
  | .text s => do
    match ← integerText? s with
    | some n => return 0 < n
    | none => return !s.isEmpty

end Value

namespace Character

inductive Query where
  | value (v : Value)
  | trait (t : Trait)

/-- An answer to a query while some names are being looked up. -/
abbrev Ask := List String → Query → Result Value

/-- A name, and whether a minus sign stands before it. -/
def splitSign (s : String) : Bool × String :=
  match s.toList with
  | '-' :: r => (true, String.ofList r)
  | _ => (false, s)

def negate (negative : Bool) (v : Value) : Result Value := do
  match ← v.integer? with
  | some n => return .int (if negative then -n else n)
  | none => match v with
    | .text s => return .text (if negative then "-" ++ s else s)
    | v => return v

def virtuesPenalty (c : Character) (ask : Ask) (busy : List String) : Result Int := do
  match c.named? c.engine.ruleset.virtuesTrait with
  | some t => return resolvePenalty (← (← ask busy (.trait t)).shown)
  | none => return resolvePenalty ""

def pathScore (c : Character) (ask : Ask) (busy : List String) : Result Int := do
  match c.named? c.engine.ruleset.pathScoreTrait with
  | some t => return ((← ask busy (.trait t)).int?).getD 0
  | none => return 0

/-- Half of a number, rounded up. -/
def halfUp (n : Int) : Result Int :=
  ((Number.div (.int n) (.int 2)).bind Number.ceil).mapError .arithmetic

def effectiveHumanity (c : Character) (ask : Ask) (busy : List String) : Result Int := do
  let score ← c.pathScore ask busy
  match ← c.virtuesPenalty ask busy with
  | 0 => return score
  | -1 => halfUp score
  | _ => return if 0 < score then 1 else 0

def reserved (c : Character) (ask : Ask) (busy : List String) (name : String) : Result Int :=
  if name == "RESOLVEPENALTY" then c.virtuesPenalty ask busy
  else if name == "EFFECTIVEHUMANITY" then c.effectiveHumanity ask busy
  else .ok (c.engine.ruleset.constant name)

/-- What a registered name stands for: the value of its trait, itself expanded. -/
def registered (c : Character) (ask : Ask) (busy : List String) (name : String) (id : Int) :
    Result Value :=
  if busy.contains name then .error (.evaluation (.circular name))
  else match c.trait? id with
    | none => .error .missingEntry
    | some t => do
      let v ← ask (name :: busy) (.trait t)
      ask (name :: busy) (.value v)

/-- A text that names nothing stands for itself. -/
def reference (c : Character) (ask : Ask) (busy : List String) (s : String) : Result Value :=
  let (negative, name) := splitSign s
  if Ruleset.isReserved name then do
    negate negative (.int (← c.reserved ask busy name))
  else match c.bindings.get? name with
    | some id => do negate negative (← c.registered ask busy name id)
    | none => .ok (.text s)

/-- Numeric texts become integers, and the words for truth become truth values. -/
def expand (c : Character) (ask : Ask) (busy : List String) : Value → Result Value
  | .text s =>
    if s.isEmpty then .ok (.text s)
    else do
      match ← integerText? s with
      | some n => return .int n
      | none => match boolText? s with
        | some b => return .bool b
        | none => c.reference ask busy s
  | v => .ok v

def intVariable (ask : Ask) (busy : List String) (s : String) : Result (Option Int) := do
  return (← ask busy (.value (.text s))).int?

def bound (ask : Ask) (busy : List String) : Option String → Result (Option Int)
  | none => .ok none
  | some s => intVariable ask busy s

/-- Both bounds, if both are integers. -/
def bounds (ask : Ask) (busy : List String) (p : Profile) : Result (Option (Int × Int)) := do
  let low ← bound ask busy p.minimum
  let high ← bound ask busy p.maximum
  return match low, high with
    | some l, some h => some (l, h)
    | _, _ => none

def present (c : Character) (ids : List Int) : List Trait := ids.filterMap c.trait?

def countSelected (ask : Ask) (busy : List String) : List Trait → Result Int
  | [] => .ok 0
  | t :: r => do
    let selected ← (← ask busy (.trait t)).isSelected
    let n ← countSelected ask busy r
    return if selected then n + 1 else n

def integersOf (ask : Ask) (busy : List String) : List Trait → Result (List Int)
  | [] => .ok []
  | t :: r => do
    let v ← ask busy (.trait t)
    match ← v.integer? with
    | some n => return n :: (← integersOf ask busy r)
    | none => throw (.evaluation (.notNumeric t.name v.toData))

/-- The greatest of some numbers, or zero if there are none. -/
def greatest : List Int → Int
  | [] => 0
  | n :: r => r.foldl max n

def unclamped (c : Character) (ask : Ask) (busy : List String) (t : Trait) : Result Value :=
  match t.profile.derivation with
  | .standard | .options => ask busy (.value (.text t.raw))
  | .switched labels => do
    let s ← (← ask busy (.value (.text t.raw))).shown
    return .text ((labels.get? s).getD s)
  | .arithmetic f => do
    return .int (← f.evaluate fun name => do return (← intVariable ask busy name).map .int)
  | .highest => do return .int (greatest (← integersOf ask busy (c.present (c.group t.id))))
  | .tally => do return .int (← countSelected ask busy (c.present (c.group t.id)))

def clamp (n : Int) : Option (Int × Int) → Int
  | some (low, high) => max low (min high n)
  | none => n

def expanded (c : Character) (ask : Ask) (busy : List String) (t : Trait) : Result Value := do
  match ← c.unclamped ask busy t with
  | .int n => return .int (clamp n (← bounds ask busy t.profile))
  | v => return v

def answer (c : Character) (ask : Ask) (busy : List String) : Query → Result Value
  | .value v => c.expand ask busy v
  | .trait t => c.expanded ask busy t

def askWithin (c : Character) : Nat → Ask
  | 0, _, _ => .error .endless
  | n + 1, busy, q => c.answer (c.askWithin n) busy q

/-- Between two names no trait is read twice unless the reading is endless, each trait takes one
more query for its raw value, and no name is looked up within itself. -/
def depth (c : Character) : Nat := (c.bindings.entries.length + 1) * (2 * c.traits.length + 2)

def ask (c : Character) : Ask := c.askWithin c.depth

/-! Readings from outside. -/

def value (c : Character) (v : Value) : Result Value := c.ask [] (.value v)

/-- A trait's value, within its bounds if it is an integer. -/
def expandedValue (c : Character) (t : Trait) : Result Value := c.ask [] (.trait t)

/-- Whether a text names something other than itself. -/
def refers (c : Character) (s : String) : Bool :=
  let name := (splitSign s).2
  Ruleset.isReserved name || c.bindings.contains name

/-- What any value stands for; one that is no text may still be spelled like a variable. -/
def lookup (c : Character) (v : Data) : Result Data :=
  match v with
  | .null => .ok v
  | .bool _ | .int _ => .ok v
  | .text s => do return (← c.value (.text s)).toData
  | v => do
    let s ← v.shown
    if c.refers s then return (← c.value (.text s)).toData else return v

def lookupInt (c : Character) (v : Data) : Result (Option Int) := do
  match ← c.lookup v with
  | .int n => return some n
  | _ => return none

def minimum (c : Character) (t : Trait) : Result (Option Int) := bound c.ask [] t.profile.minimum

def maximum (c : Character) (t : Trait) : Result (Option Int) := bound c.ask [] t.profile.maximum

def boundsOf (c : Character) (t : Trait) : Result (Option (Int × Int)) :=
  bounds c.ask [] t.profile

def selectedCount (c : Character) (ids : List Int) : Result Int :=
  countSelected c.ask [] (c.present ids)

def highestOf (c : Character) (ids : List Int) : Result Int := do
  return greatest (← integersOf c.ask [] (c.present ids))

end Character

end CharacterSheet
