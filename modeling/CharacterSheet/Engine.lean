import CharacterSheet.Catalog.Templates
import CharacterSheet.Definition.Ruleset
import CharacterSheet.Version

/-!
Engines: rulesets with their catalogs. What does not fit together is found when an engine is built,
not when some character first touches it.
-/
namespace CharacterSheet

structure Engine where
  ruleset : Ruleset
  traits : TraitCatalog
  templates : TemplateCatalog
  paths : PathCatalog

namespace Engine

def build (r : Ruleset) : Result Engine := do
  let traits ← TraitCatalog.build r.delimiters r.levelGlyph r.traits
  let templates ← TemplateCatalog.build traits r.templates r.rows
  return ⟨r, traits, templates, ← PathCatalog.build r.paths⟩

def entry (name : String) (es : List (Data × Data)) : Result Data :=
  match Data.field? name es with
  | some v => .ok v
  | none => .error .missingEntry

/-- Saved data is accepted if it belongs to this ruleset, in this version or an earlier one. -/
def checkSaved (r : Ruleset) (saved : Data) : Result Unit := do
  let .map es := saved | .error .wrongKind
  let id := (Data.field? "id" es).getD .null
  let given ← entry "ruleset_id" es
  if given != .text r.id then
    throw (.value (.otherRuleset id given.display r.id))
  let own ← Version.read (.text r.version)
  let version ← entry "ruleset_version" es
  if own.before (← Version.read version) then
    throw (.value (.newerVersion id given.display version.display r.id r.version))

end Engine

end CharacterSheet
