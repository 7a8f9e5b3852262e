import CharacterSheet.Data.Scalar
import CharacterSheet.Definition.Trait
import CharacterSheet.Rule.Directives

/-!
Trait catalogs. Building one reads every rule, finds the parent that each `SUBTRAIT` means, collects
each trait's children, and takes missing power levels from the traits' names. Whatever does not fit
together is refused here.
-/
namespace CharacterSheet

/-- The traits in the order of their IDs, and the main traits by the name subtraits use for them. -/
structure TraitCatalog where
  definitions : List TraitDefinition
  mainTraits : Table String Int

namespace TraitCatalog

/-- A trait's definition while a catalog is built, with the directives read from its rule. -/
structure Draft where
  definition : TraitDefinition
  directives : List Directive

namespace Draft

def id (d : Draft) : Int := d.definition.id

def name (d : Draft) : String := d.definition.name

end Draft

def checkIds : List TraitDefinition → List TraitDefinition → Result Unit
  | _, [] => .ok ()
  | seen, t :: r => match seen.find? fun s => s.id == t.id with
    | some s => .error (RuleFault.sharedId t.id s.name t.name).fault
    | none => checkIds (seen ++ [t]) r

def draft (d : Delimiters) (t : TraitDefinition) : Result Draft :=
  match t.rule.directives d with
  | .ok ds => .ok ⟨t, ds⟩
  | .error (.rule cause) => .error (RuleFault.onTrait t.id t.name cause).fault
  | .error f => .error f

/-- The names under which a trait is a main trait. -/
def mainNames (d : Draft) : List String :=
  let own (group : Option String) :=
    match group with
    | some g => if g.isEmpty then d.name else g
    | none => d.name
  d.directives.filterMap fun
    | .mainTraitMax group => some (own group)
    | .mainTraitCount group => some (own group)
    | _ => none

def claim (t : Table String Int) (name : String) (id : Int) : Result (Table String Int) :=
  match t.get? name with
  | none => .ok (t.insert name id)
  | some other =>
    if other = id then .ok t else .error (RuleFault.sharedMainName name other id).fault

def claimAll : Table String Int → List (String × Int) → Result (Table String Int)
  | t, [] => .ok t
  | t, (name, id) :: r => do claimAll (← claim t name id) r

def mainTraitsOf (ds : List Draft) : Result (Table String Int) :=
  claimAll .empty (ds.flatMap fun d => (mainNames d).map (·, d.id))

def isKnown (ds : List Draft) (id : Int) : Bool := ds.any fun d => d.id == id

/-- A parent is named as a main trait is, or by an ID. -/
def resolveParent (mains : Table String Int) (ds : List Draft) (d : Draft) (parent : ParentRef) :
    Result Int := do
  let unknown (shown : Data) : Result Int :=
    .error (RuleFault.unknownParent d.id d.name shown).fault
  let byId (n : Int) : Result Int := if isKnown ds n then .ok n else unknown (.int n)
  match parent with
  | .id n => byId n
  | .name s => match mains.get? s with
    | some id => return id
    | none => match ← integerText? s with
      | some n => byId n
      | none => unknown (.text s)

/-- A directive with its parent as an ID and with its power level. -/
def settle (glyph : String) (mains : Table String Int) (ds : List Draft) (d : Draft) :
    Directive → Result Directive
  | .subTrait parent => do return .subTrait (.id (← resolveParent mains ds d parent))
  | .powerLevel none => .ok (.powerLevel (some (Text.count glyph d.name)))
  | x => .ok x

def settleDraft (glyph : String) (mains : Table String Int) (ds : List Draft) (d : Draft) :
    Result Draft := do
  return { d with directives := ← d.directives.mapM (settle glyph mains ds d) }

/-- The traits that a settled trait names as its parents. -/
def parentsOf (directives : List Directive) : List Int :=
  directives.filterMap fun
    | .subTrait (.id n) => some n
    | _ => none

/-- Writing an ID into an ascending list that holds it at most once. -/
def insertId (n : Int) : List Int → List Int
  | [] => [n]
  | m :: r => if n < m then n :: m :: r else if n = m then m :: r else m :: insertId n r

def sortIds (ns : List Int) : List Int := ns.foldr insertId []

def childrenOf (ds : List Draft) (id : Int) : List Int :=
  sortIds ((ds.filter fun d => (parentsOf d.directives).contains id).map Draft.id)

def checkDeclared (ds : List Draft) (d : Draft) : Result Unit :=
  let children := childrenOf ds d.id
  let undeclared := sortIds (d.definition.subtraits.filter fun n => !children.contains n)
  if undeclared.isEmpty then .ok ()
  else .error (RuleFault.undeclaredChildren d.id d.name undeclared).fault

def finish (ds : List Draft) (d : Draft) : TraitDefinition :=
  { d.definition with directives := d.directives, subtraits := childrenOf ds d.id }

def insertDefinition (t : TraitDefinition) : List TraitDefinition → List TraitDefinition
  | [] => [t]
  | u :: r => if t.id < u.id then t :: u :: r else u :: insertDefinition t r

def sortDefinitions (ts : List TraitDefinition) : List TraitDefinition :=
  ts.foldr insertDefinition []

def build (d : Delimiters) (glyph : String) (ts : List TraitDefinition) : Result TraitCatalog := do
  checkIds [] ts
  let drafts ← ts.mapM (draft d)
  let mains ← mainTraitsOf drafts
  let settled ← drafts.mapM (settleDraft glyph mains drafts)
  settled.forM (checkDeclared settled)
  return ⟨sortDefinitions (settled.map (finish settled)), mains⟩

def get? (c : TraitCatalog) (id : Int) : Option TraitDefinition :=
  c.definitions.find? fun t => t.id == id

def contains (c : TraitCatalog) (id : Int) : Bool := (c.get? id).isSome

def idsForName (c : TraitCatalog) (name : String) : List Int :=
  (c.definitions.filter fun t => t.name == name).map TraitDefinition.id

def childrenIn (c : TraitCatalog) (id : Int) : List Int :=
  ((c.get? id).map TraitDefinition.subtraits).getD []

/-- The children of some traits that were not found before. -/
def discover (c : TraitCatalog) (found frontier : List Int) : List Int :=
  sortIds ((frontier.flatMap c.childrenIn).filter fun n => !found.contains n)

/-- Each round but the last finds a trait that was not found before, so there are no more rounds
than children. -/
def closeWithin (c : TraitCatalog) : Nat → List Int → List Int → List Int
  | 0, found, _ => found
  | n + 1, found, frontier =>
    match c.discover found frontier with
    | [] => found
    | new => closeWithin c n (found ++ new) new

/-- The given traits with all that can be reached from them through subtraits. -/
def closure (c : TraitCatalog) (ids : List Int) : List Int :=
  let start := sortIds ids
  sortIds (c.closeWithin ((c.definitions.flatMap TraitDefinition.subtraits).length + 1) start start)

end TraitCatalog

end CharacterSheet
