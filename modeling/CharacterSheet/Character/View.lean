import CharacterSheet.Character.Resolve

/-!
How a character's traits show: their texts, whether they are visible, and selections of them.
-/
namespace CharacterSheet.Character

/-- The label of an option, or a value's own text. -/
def display (c : Character) (t : Trait) : Result String := do
  let s ← (← c.expandedValue t).shown
  let p := t.profile
  match p.derivation, p.deciders.get? s with
  | .options, some decider => do
    let chosen ← (← c.value (.text decider)).shown
    return (((p.labels.get? s).getD .empty).get? chosen).getD s
  | _, _ => return s

def isPositive : Value → Bool
  | .int n => 0 < n
  | _ => false

/-- A power is on offer from one level below its own. -/
def isOffered (c : Character) (t : Trait) : Result Bool := do
  let p := t.profile
  match p.level with
  | none => return true
  | some level =>
    match p.mainTrait.bind c.trait? with
    | none => return false
    | some main => match ← c.expandedValue main with
      | .int n => return level - 1 ≤ n
      | _ => return false

def visibility (c : Character) (t : Trait) : Result Visibility := do
  let v ← c.expandedValue t
  match t.definition.category with
  | .power => return if isPositive v then .visible else .hidden
  | .specificPower =>
    if v = .bool true then return .visible
    else return if ← c.isOffered t then .selectable else .hidden
  | .background => return if isPositive v then .visible else .selectable
  | .meritFlaw | .weapon => return if v = .bool true then .visible else .selectable
  | _ => return .visible

/-- Whether a trait that hides itself has nothing to show. -/
def isHidden (c : Character) (t : Trait) : Result Bool := do
  if !t.profile.hidesItself then return false
  match ← c.expandedValue t with
  | .bool b => return !b
  | .text s => return s.isEmpty
  | .int n => return n == 0

structure Filter where
  category : Option TraitCategory
  subcategory : Option TraitSubcategory
  visibility : Option Visibility

def passes (c : Character) (f : Filter) (t : Trait) : Result Bool := do
  if f.category.any (· != t.definition.category) then return false
  if f.subcategory.any (· != t.definition.subcategory) then return false
  match f.visibility with
  | none => return true
  | some v => return (← c.visibility t) == v

def select (c : Character) (f : Filter) : Result (List Trait) := c.traits.filterM (c.passes f)

/-! Summary. -/

def name (c : Character) : Result String :=
  match c.named? c.engine.ruleset.nameTrait with
  | some t => do (← c.expandedValue t).shown
  | none => .ok ""

/-- A character of one template bears its title. -/
def title (c : Character) : String :=
  let r := c.engine.ruleset
  match c.templates with
  | [key] => (r.titles.get? key).getD r.standardTitle
  | _ => r.standardTitle

def moralPath (c : Character) : Result (Option MoralPath) :=
  match c.named? c.engine.ruleset.pathNameTrait with
  | some t => do return c.engine.paths.get? (← (← c.expandedValue t).shown)
  | none => .ok none

def label (c : Character) : String :=
  "Character(" ++ toString c.id ++ ", templates=[" ++
    ", ".intercalate (c.templates.map Vocabulary.name) ++ "], traits=" ++
    toString c.traits.length ++ ")"

end CharacterSheet.Character

namespace CharacterSheet

def Trait.label (t : Trait) : String :=
  "Trait(" ++ toString t.id ++ ", " ++ Text.quote t.name ++ ", raw=" ++ Text.quote t.raw ++ ")"

end CharacterSheet
