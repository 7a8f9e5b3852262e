import CharacterSheet.Data.Scalar

/-!
Closed vocabularies of the records: each member has a code and a name. Data may give either, the
name in any case and with blanks, hyphens and low lines anywhere.
-/
namespace CharacterSheet

/-- A member's name is its published one, with low lines between words. -/
class Vocabulary (α : Type) where
  title : String
  all : List α
  code : α → Int
  name : α → String

namespace Vocabulary

variable {α : Type} [Vocabulary α]

def isNoise (c : Char) : Bool := Text.isBlank c || c == '_' || c == '-'

/-- A name as it is compared: without noise, in lower case. -/
def bare (s : String) : String := Text.lower (String.ofList (s.toList.filter fun c => !isNoise c))

def ofCode? (n : Int) : Option α := (all (α := α)).find? fun m => code m == n

def ofName? (s : String) : Option α := (all (α := α)).find? fun m => bare (name m) == bare s

def notMember (α : Type) [Vocabulary α] (v : Data) : Fault := .value (.notMember v (title α))

def read (v : Data) : Result α := do
  let found : Option α ← match ← v.integer? with
    | some n => match ofCode? n with
      | some m => pure (some m)
      | none => throw (notMember α (.int n))
    | none => match v with
      | .text s => pure (ofName? s)
      | _ => pure none
  match found with
  | some m => return m
  | none => throw (notMember α v)

/-- A member as a message shows it. -/
def label (m : α) : String :=
  "<" ++ title α ++ "." ++ name m ++ ": " ++ toString (code m) ++ ">"

end Vocabulary

inductive TemplateKey where
  | mortal
  | kindred
  | kalebite
  | fae
  | mage
  deriving DecidableEq, Repr

/-- Governs how a trait is shown, not how it is evaluated. -/
inductive TraitType where
  | freeText
  | dropdown
  | integer
  | path
  | weapon
  | derived
  | meritFlaw
  | selectable
  deriving DecidableEq, Repr

inductive TraitCategory where
  | topText
  | attribute
  | skill
  | progression
  | power
  | specificPower
  | background
  | vitalStatistic
  | meritFlaw
  | moralPath
  | weapon
  | physicalDescription
  | hidden
  deriving DecidableEq, Repr

inductive TraitSubcategory where
  | none
  | physical
  | social
  | mental
  | faith
  | discipline
  | lore
  | tapestry
  | knit
  | arcanum
  | naturalWeapon
  | selectableWeapon
  deriving DecidableEq, Repr

inductive Visibility where
  | visible
  | selectable
  | hidden
  deriving DecidableEq, Repr

instance : Vocabulary TemplateKey where
  title := "TemplateKey"
  all := [.mortal, .kindred, .kalebite, .fae, .mage]
  code
    | .mortal => 0
    | .kindred => 1
    | .kalebite => 2
    | .fae => 3
    | .mage => 4
  name
    | .mortal => "MORTAL"
    | .kindred => "KINDRED"
    | .kalebite => "KALEBITE"
    | .fae => "FAE"
    | .mage => "MAGE"

instance : Vocabulary TraitType where
  title := "TraitType"
  all := [.freeText, .dropdown, .integer, .path, .weapon, .derived, .meritFlaw, .selectable]
  code
    | .freeText => 0
    | .dropdown => 1
    | .integer => 2
    | .path => 3
    | .weapon => 4
    | .derived => 5
    | .meritFlaw => 6
    | .selectable => 7
  name
    | .freeText => "FREE_TEXT"
    | .dropdown => "DROPDOWN"
    | .integer => "INTEGER"
    | .path => "PATH"
    | .weapon => "WEAPON"
    | .derived => "DERIVED"
    | .meritFlaw => "MERIT_FLAW"
    | .selectable => "SELECTABLE"

instance : Vocabulary TraitCategory where
  title := "TraitCategory"
  all := [.topText, .attribute, .skill, .progression, .power, .specificPower, .background,
    .vitalStatistic, .meritFlaw, .moralPath, .weapon, .physicalDescription, .hidden]
  code
    | .topText => 0
    | .attribute => 1
    | .skill => 2
    | .progression => 3
    | .power => 4
    | .specificPower => 5
    | .background => 6
    | .vitalStatistic => 7
    | .meritFlaw => 8
    | .moralPath => 9
    | .weapon => 10
    | .physicalDescription => 11
    | .hidden => 12
  name
    | .topText => "TOP_TEXT"
    | .attribute => "ATTRIBUTE"
    | .skill => "SKILL"
    | .progression => "PROGRESSION"
    | .power => "POWER"
    | .specificPower => "SPECIFIC_POWER"
    | .background => "BACKGROUND"
    | .vitalStatistic => "VITAL_STATISTIC"
    | .meritFlaw => "MERIT_FLAW"
    | .moralPath => "MORAL_PATH"
    | .weapon => "WEAPON"
    | .physicalDescription => "PHYSICAL_DESCRIPTION"
    | .hidden => "HIDDEN"

instance : Vocabulary TraitSubcategory where
  title := "TraitSubCategory"
  all := [.none, .physical, .social, .mental, .faith, .discipline, .lore, .tapestry, .knit,
    .arcanum, .naturalWeapon, .selectableWeapon]
  code
    | .none => -1
    | .physical => 0
    | .social => 1
    | .mental => 2
    | .faith => 3
    | .discipline => 4
    | .lore => 5
    | .tapestry => 6
    | .knit => 7
    | .arcanum => 8
    | .naturalWeapon => 9
    | .selectableWeapon => 10
  name
    | .none => "NONE"
    | .physical => "PHYSICAL"
    | .social => "SOCIAL"
    | .mental => "MENTAL"
    | .faith => "FAITH"
    | .discipline => "DISCIPLINE"
    | .lore => "LORE"
    | .tapestry => "TAPESTRY"
    | .knit => "KNIT"
    | .arcanum => "ARCANUM"
    | .naturalWeapon => "NATURAL_WEAPON"
    | .selectableWeapon => "SELECTABLE_WEAPON"

instance : Vocabulary Visibility where
  title := "Visibility"
  all := [.visible, .selectable, .hidden]
  code
    | .visible => 0
    | .selectable => 1
    | .hidden => 2
  name
    | .visible => "VISIBLE"
    | .selectable => "SELECTABLE"
    | .hidden => "HIDDEN"

/-- The name of a template that no record describes. -/
def TemplateKey.properName : TemplateKey → String
  | .mortal => "Mortal"
  | .kindred => "Kindred"
  | .kalebite => "Kalebite"
  | .fae => "Fae"
  | .mage => "Mage"

end CharacterSheet
