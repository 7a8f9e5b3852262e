import CharacterSheet.Character.Profile
import CharacterSheet.Engine

/-!
Characters: the templates and traits of one character, the variables that its traits have
registered, and the groups of subtraits under their main traits.
-/
namespace CharacterSheet

/-- One character's instance of a trait. All else about it follows from its definition. -/
structure Trait where
  definition : TraitDefinition
  raw : String
  deriving DecidableEq

namespace Trait

def id (t : Trait) : Int := t.definition.id

def name (t : Trait) : String := t.definition.name

def profile (t : Trait) : Profile := Profile.of t.definition

def fresh (d : TraitDefinition) : Trait := ⟨d, (Profile.of d).raw⟩

end Trait

/-- Templates stand in the order of their keys and traits in that of their IDs. -/
structure Character where
  engine : Engine
  id : Int
  templates : List TemplateKey
  traits : List Trait
  bindings : Table String Int
  groups : Table Int (List Int)

/-- What an operation leaves behind, and what it failed with, if it failed. -/
structure Change where
  after : Character
  fault : Option Fault

namespace Change

def done (c : Character) : Change := ⟨c, none⟩

def failed (c : Character) (f : Fault) : Change := ⟨c, some f⟩

/-- Going on where the first change left off, unless it failed. -/
def andThen (a : Change) (f : Character → Change) : Change :=
  match a.fault with
  | none => f a.after
  | some _ => a

def each {α : Type} (f : Character → α → Change) : List α → Character → Change
  | [], c => done c
  | x :: r, c => (f c x).andThen (each f r)

end Change

namespace Character

def empty (e : Engine) (id : Int) : Character := ⟨e, id, [], [], .empty, .empty⟩

def trait? (c : Character) (id : Int) : Option Trait := c.traits.find? fun t => t.id == id

def has (c : Character) (id : Int) : Bool := (c.trait? id).isSome

def traitIds (c : Character) : List Int := c.traits.map Trait.id

/-- The members of a main trait's group, in the order of their IDs. -/
def group (c : Character) (id : Int) : List Int := (c.groups.get? id).getD []

/-- The first trait by that name which the character has. -/
def named? (c : Character) (name : String) : Option Trait :=
  (c.engine.traits.idsForName name).findSome? c.trait?

/-! Registration. -/

/-- Variables and groups while a trait registers itself. -/
structure Registry where
  bindings : Table String Int
  groups : Table Int (List Int)
  deriving DecidableEq

namespace Registry

/-- Empty, numeric and reserved names are passed over; the answer says whether the name was taken.
-/
def addVariable (r : Registry) (name : String) (t : TraitDefinition) :
    Result (Registry × Bool) := do
  if name.isEmpty then return (r, false)
  if (← integerText? name).isSome then return (r, false)
  if Ruleset.isReserved name then return (r, false)
  match r.bindings.get? name with
  | some owner => throw (RuleFault.sharedVariable name owner t.name).fault
  | none => return ({ r with bindings := r.bindings.insert name t.id }, true)

def addMember (r : Registry) (main id : Int) : Registry :=
  let members := TraitCatalog.insertId id ((r.groups.get? main).getD [])
  { r with groups := r.groups.insert main members }

def add (t : TraitDefinition) (r : Registry) : Directive → Result Registry
  | .isVariable name => do return (← r.addVariable name t).1
  | .subTrait parent => match Profile.parentId parent with
    | some main => .ok (r.addMember main t.id)
    | none => .ok r
  | _ => .ok r

def addAll (t : TraitDefinition) : Registry → List Directive → Result Registry
  | r, [] => .ok r
  | r, d :: ds => do addAll t (← add t r d) ds

/-- Forgetting a trait; groups that lose their last member go. -/
def purge (r : Registry) (id : Int) : Registry where
  bindings := r.bindings.filter fun _ owner => owner != id
  groups := (r.groups.mapValues fun _ members => members.filter (· != id)).filter
    fun _ members => !members.isEmpty

end Registry

def registry (c : Character) : Registry := ⟨c.bindings, c.groups⟩

def withRegistry (c : Character) (r : Registry) : Character :=
  { c with bindings := r.bindings, groups := r.groups }

def insertTrait (t : Trait) : List Trait → List Trait
  | [] => [t]
  | u :: r =>
    if t.id < u.id then t :: u :: r else if t.id = u.id then t :: r else u :: insertTrait t r

/-- A trait that can not register itself is not added and leaves nothing behind. -/
def addTrait (c : Character) (id : Int) : Change :=
  if c.has id then .done c
  else match c.engine.traits.get? id with
    | none => .failed c (.value (.unknownTrait id))
    | some d => match c.registry.addAll d d.directives with
      | .ok r => .done { c.withRegistry r with traits := insertTrait (.fresh d) c.traits }
      | .error f => .failed (c.withRegistry (c.registry.purge id)) f

def removeTrait (c : Character) (id : Int) : Character :=
  if c.has id then
    { c.withRegistry (c.registry.purge id) with traits := c.traits.filter fun t => t.id != id }
  else c

def removeTraits (c : Character) (ids : List Int) : Character := ids.foldl removeTrait c

def registerVariable (c : Character) (name : String) (t : Trait) : Result (Character × Bool) := do
  let (r, taken) ← c.registry.addVariable name t.definition
  return (c.withRegistry r, taken)

def registerSubtrait (c : Character) (main : Int) (t : Trait) : Character :=
  c.withRegistry (c.registry.addMember main t.id)

/-! Templates. -/

def insertKey (k : TemplateKey) : List TemplateKey → List TemplateKey
  | [] => [k]
  | l :: r =>
    if Vocabulary.code k < Vocabulary.code l then k :: l :: r
    else if k = l then l :: r else l :: insertKey k r

def granted (c : Character) (keys : List TemplateKey) : List Int := c.engine.templates.granted keys

/-- Once a character has another template it is no longer a mere mortal, and loses the mortal traits
that no template of its own carries. -/
def supersedeMortal (c : Character) : Character :=
  if c.templates.contains .mortal && c.templates != [.mortal] then
    let keys := c.templates.filter (· != .mortal)
    let kept := c.granted keys
    { c with templates := keys }.removeTraits
      ((c.granted [.mortal]).filter fun id => !kept.contains id)
  else c

def addTemplate (c : Character) (key : TemplateKey) : Change :=
  match c.engine.templates.get? key with
  | none => .failed c (.value (.unknownTemplate (Vocabulary.label key)))
  | some t =>
    if c.templates.contains key || (key == .mortal && !c.templates.isEmpty) then .done c
    else (Change.each addTrait t.traitIds { c with templates := insertKey key c.templates }).andThen
      fun c => .done c.supersedeMortal

/-- The mortal template can not be removed, and comes back when the last other one goes. -/
def removeTemplate (c : Character) (key : TemplateKey) : Change :=
  if key == .mortal || !c.templates.contains key then .done c
  else
    let keys := c.templates.filter (· != key)
    let kept := c.granted (.mortal :: keys)
    let rest := { c with templates := keys }.removeTraits
      (c.traitIds.filter fun id => !kept.contains id)
    if keys.isEmpty && c.engine.templates.contains .mortal then rest.addTemplate .mortal
    else .done rest

end Character

end CharacterSheet
