import CharacterSheet.Character.Resolve
import CharacterSheet.Definition.Decision

/-!
Assigning raw values. A value is weighed first: a computed trait takes none, an integer has to lie
within the bounds, and a trait with options takes only those.
-/
namespace CharacterSheet.Character

def outOfBounds (t : Trait) (low high : Int) : Result Decision := do
  return .refused (t.name ++ " must be between " ++ (← (Data.int low).shown) ++ " and " ++
    (← (Data.int high).shown) ++ ".")

def noOption (t : Trait) (s : String) : Decision :=
  .refused (Text.quote s ++ " is not an option for " ++ t.name ++ ".")

/-- What the bounds say of a value; they are asked only about integers. -/
def weighBounds (c : Character) (t : Trait) (v : Data) : Result (Option Decision) := do
  match ← v.integer? with
  | none => return none
  | some n => match ← c.boundsOf t with
    | none => return none
    | some (low, high) =>
      if low ≤ n && n ≤ high then return none else return some (← outOfBounds t low high)

/-- Whether a value would be accepted. -/
def weigh (c : Character) (t : Trait) (v : Data) : Result Decision := do
  if !t.profile.derivation.isAssignable then return .computed
  match ← c.weighBounds t v with
  | some refusal => return refusal
  | none => match ← v.textOf? with
    | none => return .refused (t.name ++ " needs a value.")
    | some s =>
      let options := t.profile.possible
      return if options.isEmpty || options.contains s then .accepted else noOption t s

def setRaw (c : Character) (id : Int) (raw : String) : Character :=
  { c with traits := c.traits.map fun t => if t.id = id then { t with raw } else t }

/-- Stores a value's text if the value is accepted, and says whether it was. What is refused is noted
with the value, which has to be written for that. -/
def assign (c : Character) (t : Trait) (v : Data) : Result (Character × Bool) := do
  if (← c.weigh t v).success then return (c.setRaw t.id ((← v.textOf?).getD ""), true)
  else
    let _ ← v.shown
    return (c, false)

end CharacterSheet.Character
