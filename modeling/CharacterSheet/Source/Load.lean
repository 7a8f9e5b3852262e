import CharacterSheet.Definition.Ruleset
import CharacterSheet.Record.Members
import CharacterSheet.Source.Drafts

/-!
Loading a ruleset from a folder. The ruleset's own file stands in the folder or in one of the
folders in it, and the folders beside that file hold the records.
-/
namespace CharacterSheet

/-- How a folder is called, and what stands before the names of the files in it. -/
structure Location where
  shown : String
  base : String
  deriving DecidableEq, Repr

/-- What a draft that can not be read does: it ends the loading, or is set aside as a defect. -/
inductive Strictness where
  | strict
  | lenient
  deriving DecidableEq, Repr

namespace Ruleset

/-- The file of a ruleset with the folder that it stands in, and what stands before the names there.
-/
structure Home where
  base : String
  file : File
  folder : Folder

def rulesetFile? (f : Folder) : Option File := f.files.find? fun g => g.stem == "ruleset"

def homeAt? (base : String) (f : Folder) : Option Home :=
  (rulesetFile? f).map fun file => ⟨base, file, f⟩

/-- The ruleset file of a folder, or else that of the first folder in it which has one. -/
def home? (base : String) (f : Folder) : Option Home :=
  (homeAt? base f).or
    ((f.folders.filter fun g => !g.isSpecial).findSome? fun g => homeAt? (base ++ g.name ++ "/") g)

def issueCount (record : String) (issues : List Issue) : String :=
  toString issues.length ++ " validation error" ++ (if issues.length == 1 then "" else "s") ++
    " for " ++ record

/-- What defects of this kind are called. -/
def invalidKind : String := "<class 'pydantic_core._pydantic_core.ValidationError'>"

def defectOf (record : String) (d : Draft) (issues : List Issue) : Defect :=
  ⟨d.origin, d.merged, d.raw, invalidKind, issueCount record issues⟩

/-- The records that some drafts give, and the defects among the drafts. -/
structure Harvest (α : Type) where
  records : List α
  defects : List Defect

def gather {α : Type} (mode : Strictness) (record : String) (read : Record.Reader α) :
    List Draft → Result (Harvest α)
  | [] => .ok ⟨[], []⟩
  | d :: r => match read d.merged, mode with
    | .valid a, _ => do
      let h ← gather mode record read r
      return { h with records := a :: h.records }
    | .invalid issues, .strict => .error (.invalid record issues)
    | .invalid issues, .lenient => do
      let h ← gather mode record read r
      return { h with defects := defectOf record d issues :: h.defects }

def gatherAll {α : Type} (mode : Strictness) (record : String) (read : Record.Reader α)
    (drafts : Readout Draft) : Result (Harvest α) := do
  let h ← gather mode record read drafts.items
  match drafts.fault with
  | some f => throw f
  | none => return h

/-- Adds what one folder holds. Folders of other names hold no records. -/
def addFolder (mode : Strictness) (base : String) (r : Ruleset) (f : Folder) : Result Ruleset := do
  let drafts := Draft.ofFolder (base ++ f.name ++ "/") [] f
  match f.name with
  | "traits" => do
    let h ← gatherAll mode "TraitDefinition" TraitDefinition.read drafts
    return { r with traits := r.traits ++ h.records, defects := r.defects ++ h.defects }
  | "templates" => do
    let h ← gatherAll mode "TemplateDefinition" TemplateDefinition.read drafts
    return { r with templates := r.templates ++ h.records, defects := r.defects ++ h.defects }
  | "template_traits" => do
    let h ← gatherAll mode "TemplateTraitRow" TemplateRow.read drafts
    return { r with rows := r.rows ++ h.records, defects := r.defects ++ h.defects }
  | "paths" => do
    let h ← gatherAll mode "MoralPath" MoralPath.read drafts
    return { r with paths := r.paths ++ h.records, defects := r.defects ++ h.defects }
  | _ => return r

/-- The settings of a ruleset, from its own file. -/
def settings (shown : String) (file : File) : Result Ruleset := do
  match ← file.documents.first? with
  | none => throw (.value (.emptyRuleset shown))
  | some v =>
    if v.isEmpty then throw (.value (.emptyRuleset shown))
    Record.whole "Ruleset" (read v)

def load (mode : Strictness) (place : Location) (root : Folder) : Result Ruleset := do
  match home? place.base root.inOrder with
  | none => throw (.value (.noRuleset place.shown))
  | some home =>
    let own ← settings place.shown home.file
    (home.folder.folders.filter fun g => !g.isSpecial).foldlM (addFolder mode home.base)
      { own with defects := [] }

end Ruleset

end CharacterSheet
