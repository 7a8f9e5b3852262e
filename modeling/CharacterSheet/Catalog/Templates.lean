import CharacterSheet.Catalog.Traits
import CharacterSheet.Definition.Path
import CharacterSheet.Definition.Template

/-!
Template catalogs and path catalogs. A template's entries are resolved to IDs, rows add to them, and
the subtraits of all of them come along.
-/
namespace CharacterSheet

/-- The templates in the order of their keys. -/
structure TemplateCatalog where
  definitions : List TemplateDefinition

namespace TemplateCatalog

def checkKeys : List TemplateDefinition → List TemplateDefinition → Result Unit
  | _, [] => .ok ()
  | seen, t :: r =>
    if seen.any fun s => s.key == t.key then
      .error (.rule (.sharedTemplate (Vocabulary.name t.key)))
    else checkKeys (seen ++ [t]) r

/-- The template of a key that only rows mention. -/
def bare (key : TemplateKey) : TemplateDefinition := ⟨none, key, key.properName, [], []⟩

def declared (ts : List TemplateDefinition) (rows : List TemplateRow) (key : TemplateKey) :
    Option TemplateDefinition :=
  match ts.find? fun t => t.key == key with
  | some t => some t
  | none => if rows.any fun r => r.template == key then some (bare key) else none

def resolveEntry (traits : TraitCatalog) (t : TemplateDefinition) (entry : TraitRef) :
    Result (List Int) := do
  let unknown : Result (List Int) :=
    .error (RuleFault.unknownEntry t.name entry.toData).fault
  match entry with
  | .id n => if traits.contains n then return [n] else unknown
  | .name s => match traits.idsForName s with
    | [] => match ← integerText? s with
      | some n => if traits.contains n then return [n] else unknown
      | none => unknown
    | ids => return ids

/-- The entries of a template with those of its rows. -/
def entriesOf (rows : List TemplateRow) (t : TemplateDefinition) : List TraitRef :=
  t.traits ++ (rows.filter fun r => r.template == t.key).map fun r => .id r.trait

def finish (traits : TraitCatalog) (rows : List TemplateRow) (t : TemplateDefinition) :
    Result TemplateDefinition := do
  let ids ← (entriesOf rows t).mapM (resolveEntry traits t)
  return { t with traitIds := traits.closure ids.flatten }

def build (traits : TraitCatalog) (ts : List TemplateDefinition) (rows : List TemplateRow) :
    Result TemplateCatalog := do
  checkKeys [] ts
  return ⟨← ((Vocabulary.all (α := TemplateKey)).filterMap (declared ts rows)).mapM
    (finish traits rows)⟩

def get? (c : TemplateCatalog) (key : TemplateKey) : Option TemplateDefinition :=
  c.definitions.find? fun t => t.key == key

def contains (c : TemplateCatalog) (key : TemplateKey) : Bool := (c.get? key).isSome

/-- The traits that some templates grant. -/
def granted (c : TemplateCatalog) (keys : List TemplateKey) : List Int :=
  keys.flatMap fun k => ((c.get? k).map TemplateDefinition.traitIds).getD []

end TemplateCatalog

/-- Moral paths by name. -/
abbrev PathCatalog := Table String MoralPath

namespace PathCatalog

def add (c : PathCatalog) (p : MoralPath) : Result PathCatalog :=
  if c.contains p.name then .error (.rule (.sharedPath p.name)) else .ok (c.insert p.name p)

def build (ps : List MoralPath) : Result PathCatalog := ps.foldlM add .empty

end PathCatalog

end CharacterSheet
