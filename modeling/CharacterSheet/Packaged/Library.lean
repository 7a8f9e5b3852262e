import CharacterSheet.Packaged.Core.Condition
import CharacterSheet.Packaged.Core.Paths
import CharacterSheet.Packaged.Core.People
import CharacterSheet.Packaged.Core.Powers
import CharacterSheet.Packaged.Core.Settings
import CharacterSheet.Packaged.Core.Templates
import CharacterSheet.Source.Load

/-!
The rulesets that come with the library, and where rulesets are found: in a folder, in an archive,
or under the dotted name of a package of the library.
-/
namespace CharacterSheet

namespace Library

def coreTraits : Folder :=
  ⟨"traits", [],
    [Core.topFolder, Core.attributesFolder, Core.skillsFolder, Core.backgroundsFolder,
      Core.descriptionFolder, Core.meritsFolder, Core.moralityFolder, Core.vitalsFolder,
      Core.weaponsFolder, Core.disciplinesFolder, Core.powersFolder]⟩

def core : Folder :=
  ⟨"core", [Core.settings], [coreTraits, Core.templates, Core.rows, Core.paths]⟩

/-- All packages: the rules engine holds no ruleset. -/
def packages : Folder :=
  ⟨"", [],
    [⟨"vte", [], [⟨"engine", [], [⟨"rules", [], []⟩]⟩, ⟨"rulesets", [], [core]⟩]⟩]⟩

/-- The packages that say they are one; any other folder is a package by its place alone. -/
def declared : List (List String) :=
  [["vte"], ["vte", "engine"], ["vte", "engine", "rules"], ["vte", "rulesets"],
    ["vte", "rulesets", "core"]]

def location (path : List String) : Location :=
  let folder := "/".intercalate path
  let shown := if declared.contains path then folder else "MultiplexedPath('" ++ folder ++ "')"
  ⟨shown, folder ++ "/"⟩

def within? : List String → Folder → Option Folder
  | [], f => some f
  | name :: path, f => (f.folder? name).bind (within? path)

/-- The parts of the library that are no packages. -/
def modules : List (List String) :=
  ["base", "errors", "loader", "models", "utils"].map (["vte", "engine", ·]) ++
    ["character", "decision", "directives", "engine", "expressions", "registry", "trait"].map
      (["vte", "engine", "rules", ·]) ++
    declared.map (· ++ ["__init__"])

/-- A package by its dotted name. -/
def open? (name : String) : Result (Location × Folder) :=
  let path := name.splitOn "."
  if name.isEmpty then .error (.value .unnamedPackage)
  else if name.startsWith "." || modules.contains path then .error .wrongKind
  else match within? path packages with
    | some f => .ok (location path, f)
    | none => .error (.path .noPackage)

end Library

/-- The folder that is worked in, and the archives in it. -/
structure Disk where
  folder : Folder
  archives : List (String × Folder)

namespace Disk

/-- What a path leads to. A file may stand in the folder that is worked in itself. -/
inductive Target where
  | folder (f : Folder)
  | file (isTop : Bool) (f : File)

/-- Nothing is known outside of the folder that is worked in. -/
def outside : Folder := ⟨"", [], []⟩

def longestName : Nat := 255

def longestPath : Nat := 4095

/-- Follows a path from a folder; two points lead back to the folder around it, the innermost of
those above. -/
def walk : List Folder → List String → Folder → Result Target
  | _, [], f => .ok (.folder f)
  | [], ".." :: path, _ => walk [] path outside
  | outer :: above, ".." :: path, _ => walk above path outer
  | above, name :: path, f =>
    if longestName < name.utf8ByteSize then .error (.path .tooLong)
    else match f.folder? name, f.file? name with
      | some g, _ => walk (f :: above) path g
      | none, some file =>
        if path.isEmpty then .ok (.file above.isEmpty file) else .error (.path .notFolder)
      | none, none => .error (.path .missing)

/-- The names of a path; single points and doubled strokes name nothing. -/
def names (path : String) : List String :=
  (path.splitOn "/").filter fun n => !n.isEmpty && n != "."

/-- The strokes that a path begins with. Two of them are kept, and more count as one. -/
def rootOf (path : String) : String :=
  if path.startsWith "///" then "/" else if path.startsWith "//" then "//"
  else if path.startsWith "/" then "/" else ""

def folderLocation (path : String) : Location :=
  let root := rootOf path
  if (names path).isEmpty then ⟨if root.isEmpty then "." else root, root⟩
  else
    let shown := root ++ "/".intercalate (names path)
    ⟨shown, shown ++ "/"⟩

def target (d : Disk) (path : String) : Result Target :=
  if path.toList.contains '\x00' then .error (.value .zeroInPath)
  else if longestPath < path.utf8ByteSize then .error (.path .tooLong)
  else walk [] (names path) (if path.startsWith "/" then outside else d.folder)

def openArchive? (d : Disk) (path : String) : Result (Location × Folder) := do
  match ← d.target path with
  | .folder _ => throw (.path .isFolder)
  | .file isTop f => match d.archives.find? fun a => isTop && a.1 == f.name with
    | some a => return (⟨path ++ "/", path ++ "/"⟩, a.2)
    | none => throw (.path .notArchive)

def openFolder? (d : Disk) (path : String) : Result (Location × Folder) := do
  let place := folderLocation path
  match ← d.target place.shown with
  | .folder f => return (place, f)
  | .file .. => throw (.path .notFolder)

/-- What a path stands for: a package if it starts with a dollar sign, an archive if it ends like
one, and a folder otherwise. -/
def open? (d : Disk) (path : String) : Result (Location × Folder) :=
  if path.startsWith "$" then Library.open? (String.ofList (path.toList.drop 1))
  else if path.endsWith ".zip" then d.openArchive? path
  else d.openFolder? path

def load (mode : Strictness) (found : Result (Location × Folder)) : Result Ruleset := do
  let (place, root) ← found
  Ruleset.load mode place root

end Disk

/-- The ruleset that comes with the library. -/
def coreRuleset : Result Ruleset :=
  Ruleset.load .strict (Library.location ["vte", "rulesets", "core"]) Library.core

end CharacterSheet
