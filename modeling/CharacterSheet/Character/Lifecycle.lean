import CharacterSheet.Character.Assignment
import CharacterSheet.Definition.Snapshot

/-!
Making characters, saving them and loading what was saved. Traits that a ruleset does not know, and
values for traits that a character does not have, are passed over with a warning.
-/
namespace CharacterSheet

inductive Warning where
  | unknownTrait (character trait : Int)
  | strayValue (character trait : Int)
  deriving DecidableEq, Repr

def Warning.message : Warning → String
  | .unknownTrait c t =>
    "Character " ++ toString c ++ " has unknown trait " ++ toString t ++ "; ignoring it"
  | .strayValue c t =>
    "Character " ++ toString c ++ " has a value for trait " ++ toString t ++
      ", which it doesn't have; ignoring it"

/-- What a new character is made of. -/
structure Blueprint where
  id : Int
  templates : List TemplateKey
  addedTraits : List Int
  values : Table Int Data

namespace Character

def addListed (c : Character) (ids : List Int) : Change :=
  Change.each addTrait (ids.filter c.engine.traits.contains) c

def assignListed (c : Character) : List (Int × Data) → Result Character
  | [] => .ok c
  | (id, v) :: r => match c.trait? id with
    | some t => do assignListed (← c.assign t v).1 r
    | none => assignListed c r

def Blueprint.keys (b : Blueprint) : List TemplateKey :=
  if b.templates.isEmpty then [.mortal] else b.templates

/-- A character that takes on its templates, then its added traits, then its values. -/
def create (e : Engine) (b : Blueprint) : Result (Character × List Warning) := do
  let added := (Change.each addTemplate (Blueprint.keys b) (empty e b.id)).andThen
    (addListed · b.addedTraits)
  match added.fault with
  | some f => throw f
  | none =>
    let c := added.after
    let unknown := b.addedTraits.filter fun id => !e.traits.contains id
    let stray := b.values.keys.filter fun id => !c.has id
    return (← c.assignListed b.values.entries,
      unknown.map (.unknownTrait b.id) ++ stray.map (.strayValue b.id))

def save (c : Character) : Snapshot where
  id := c.id
  ruleset := c.engine.ruleset.id
  version := c.engine.ruleset.version
  templates := c.templates
  addedTraits := c.traitIds.filter fun id => !(c.granted c.templates).contains id
  values := .ofList ((c.traits.filter fun t => t.profile.derivation.isAssignable).map
    fun t => (t.id, t.raw))

def ofSnapshot (e : Engine) (s : Snapshot) : Result (Character × List Warning) :=
  create e ⟨s.id, s.templates, s.addedTraits, s.values.mapValues fun _ v => .text v⟩

def load (e : Engine) (saved : Data) : Result (Character × List Warning) := do
  Engine.checkSaved e.ruleset saved
  ofSnapshot e (← Record.whole "CharacterModel" (Snapshot.read saved))

end Character

end CharacterSheet
