import CharacterSheet.Definition.Trait

/-!
Profiles: what the directives of a trait make of it, apart from the traits around it. Later
directives override earlier ones.
-/
namespace CharacterSheet

/-- How a trait's raw value becomes its expanded value. -/
inductive Derivation where
  | standard
  | arithmetic (formula : Formula)
  | switched (labels : Switch)
  | options
  | highest
  | tally
  deriving DecidableEq

namespace Derivation

def word : Derivation → String
  | .standard => "standard"
  | .arithmetic _ => "derived-arithmetic"
  | .switched _ => "derived-switch"
  | .options => "derived-options"
  | .highest => "main-trait-max"
  | .tally => "main-trait-count"

def isAssignable : Derivation → Bool
  | .standard | .options => true
  | _ => false

end Derivation

/-- `deciders` gives the variable behind each option that has labels, and `labels` the labels. -/
structure Profile where
  raw : String
  derivation : Derivation
  minimum : Option String
  maximum : Option String
  possible : List String
  level : Option Int
  mainTrait : Option Int
  hidesItself : Bool
  deciders : Table String String
  labels : Table String Switch
  deriving DecidableEq

namespace Profile

/-- The labels of a switched value stand among those of the options, under this key. -/
def valueKey : String := "Value"

def initial (standard : String) : Profile where
  raw := standard
  derivation := .standard
  minimum := none
  maximum := none
  possible := []
  level := none
  mainTrait := none
  hidesItself := false
  deciders := .empty
  labels := .empty

def parentId : ParentRef → Option Int
  | .id n => some n
  | .name s => Text.plain? s

def groupRaw (name : String) (group : Option String) : String :=
  match group with
  | some g => if g.isEmpty then name else g
  | none => name

def apply (name : String) (p : Profile) : Directive → Profile
  | .minMax minimum maximum => { p with minimum := some minimum, maximum := some maximum }
  | .values options =>
    { p with possible := options, raw := if p.raw.isEmpty then options.headD "" else p.raw }
  | .autoHide => { p with hidesItself := true }
  | .isVariable _ => p
  | .derivedInteger source f => { p with derivation := .arithmetic f, raw := source }
  | .derivedOption dummy decider switch =>
    { p with derivation := .options, deciders := p.deciders.insert dummy decider,
             labels := p.labels.insert dummy switch }
  | .derivedSwitch source switch =>
    { p with derivation := .switched switch, raw := source,
             labels := p.labels.insert valueKey switch }
  | .mainTraitMax group => { p with derivation := .highest, raw := groupRaw name group }
  | .mainTraitCount group => { p with derivation := .tally, raw := groupRaw name group }
  | .subTrait parent => { p with mainTrait := parentId parent }
  | .powerLevel level => { p with level := level }

def of (t : TraitDefinition) : Profile := t.directives.foldl (apply t.name) (initial t.standard)

end Profile

end CharacterSheet
