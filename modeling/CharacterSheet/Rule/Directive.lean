import CharacterSheet.Data.Table
import CharacterSheet.Formula.Basic

/-!
Directives: the single statements of a trait's rule.
-/
namespace CharacterSheet

/-- Labels by the text of a value. -/
abbrev Switch := Table String String

/-- A main trait, by its ID or by the name that stands for it. -/
inductive ParentRef where
  | id (n : Int)
  | name (s : String)
  deriving DecidableEq, Repr

/-- `minMax` bounds a trait by literals or variables. `values` lists what it may be. `isVariable`
lets other traits refer to it. `derivedInteger` computes it by a formula, `derivedSwitch` from
another variable through labels. `derivedOption` makes the label of one of its options depend on a
variable. `mainTraitMax` and `mainTraitCount` compute it from its subtraits, which may refer to it
by a group name. `subTrait` names the trait's own main trait. `powerLevel` without a level takes it
from the trait's name. -/
inductive Directive where
  | minMax (minimum maximum : String)
  | values (options : List String)
  | autoHide
  | isVariable (name : String)
  | derivedInteger (source : String) (formula : Formula)
  | derivedOption (dummy name : String) (switch : Switch)
  | derivedSwitch (name : String) (switch : Switch)
  | mainTraitMax (group : Option String)
  | mainTraitCount (group : Option String)
  | subTrait (parent : ParentRef)
  | powerLevel (level : Option Int)
  deriving DecidableEq

inductive Keyword where
  | minMax
  | values
  | autoHide
  | isVariable
  | derivedInteger
  | derivedOption
  | derivedSwitch
  | mainTraitMax
  | mainTraitCount
  | subTrait
  | powerLevel
  deriving DecidableEq, Repr

namespace Keyword

def word : Keyword → String
  | .minMax => "MINMAX"
  | .values => "VALUES"
  | .autoHide => "AUTOHIDE"
  | .isVariable => "IS_VARIABLE"
  | .derivedInteger => "DERIVED_INTEGER"
  | .derivedOption => "DERIVED_OPTION"
  | .derivedSwitch => "DERIVED_SWITCH"
  | .mainTraitMax => "MAINTRAIT_MAX"
  | .mainTraitCount => "MAINTRAIT_COUNT"
  | .subTrait => "SUBTRAIT"
  | .powerLevel => "POWER_LEVEL"

def all : List Keyword :=
  [.minMax, .values, .autoHide, .isVariable, .derivedInteger, .derivedOption, .derivedSwitch,
    .mainTraitMax, .mainTraitCount, .subTrait, .powerLevel]

def ofWord? (s : String) : Option Keyword := all.find? fun k => k.word == s

theorem ofWord?_word (k : Keyword) : ofWord? k.word = some k := by
  cases k <;> decide

/-- How many arguments a directive needs at least. -/
def needed : Keyword → Nat
  | .minMax | .derivedOption => 2
  | .values | .isVariable | .derivedInteger | .derivedSwitch | .subTrait => 1
  | .autoHide | .mainTraitMax | .mainTraitCount | .powerLevel => 0

end Keyword

def Directive.keyword : Directive → Keyword
  | .minMax .. => .minMax
  | .values .. => .values
  | .autoHide => .autoHide
  | .isVariable .. => .isVariable
  | .derivedInteger .. => .derivedInteger
  | .derivedOption .. => .derivedOption
  | .derivedSwitch .. => .derivedSwitch
  | .mainTraitMax .. => .mainTraitMax
  | .mainTraitCount .. => .mainTraitCount
  | .subTrait .. => .subTrait
  | .powerLevel .. => .powerLevel

end CharacterSheet
