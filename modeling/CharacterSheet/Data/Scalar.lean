import CharacterSheet.Fault
import CharacterSheet.Text.Case
import CharacterSheet.Text.Integer

/-!
Reading single values leniently: texts as integers and truth values, anything as text.
-/
namespace CharacterSheet

/-- Whether an information separator is among the blanks that characters begin with. -/
def beginsSeparated (cs : List Char) : Bool := (cs.takeWhile Text.isBlank).any Text.isSeparator

/-- The integer that a text spells, if it spells one. A number among information separators is taken
for an integer and then can not be read, and neither can one of too many digits. -/
def integerText? (s : String) : Result (Option Int) :=
  let unreadable : Result (Option Int) := .error (.value (.unreadableInteger 10 (Text.codes s)))
  match Text.plain? s with
  | none => .ok none
  | some n =>
    if beginsSeparated s.toList then unreadable
    else do
      let n ← .ofDigits (Text.digitCount s) n
      if beginsSeparated s.toList.reverse then unreadable else return some n

def boolText? (s : String) : Option Bool :=
  match Text.lower (Text.trim s) with
  | "true" => some true
  | "false" => some false
  | _ => none

namespace Data

/-- Truth values, doubles and broken texts are never taken for integers. -/
def integer? : Data → Result (Option Int)
  | .null | .bool _ | .real _ | .undefined | .broken _ => .ok none
  | .int n => .ok (some n)
  | v => do integerText? (← v.shown)

def textOf? : Data → Result (Option String)
  | .null => .ok none
  | v => v.shown.map some

def bool? : Data → Option Bool
  | .bool b => some b
  | .text s => boolText? s
  | _ => none

def isInteger : Data → Bool
  | .int _ => true
  | _ => false

/-- Whether a value counts as selected, where that can be said. -/
def selected? : Data → Result (Option Bool)
  | .bool b => .ok (some b)
  | v => do
    match ← v.integer? with
    | some n => return some (0 < n)
    | none => match v with
      | .text s => return some (!s.isEmpty)
      | .broken _ => return some true
      | _ => return none

/-- The items of a list or tuple, a lone value as its own only item, and no items for nothing. -/
def items (v : Data) : List Data :=
  if v.isEmpty then [] else match v.face with
    | .list xs | .tuple xs => xs
    | _ => [v]

end Data

end CharacterSheet
