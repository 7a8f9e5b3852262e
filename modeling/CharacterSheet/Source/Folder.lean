import CharacterSheet.Text.Split

/-!
Folders of text files, as a ruleset is laid out in them.
-/
namespace CharacterSheet

structure File where
  name : String
  text : String
  deriving DecidableEq, Repr

structure Folder where
  name : String
  files : List File
  folders : List Folder

/-- Names that begin with a low line or a point are kept for other purposes. -/
def isSpecialName (name : String) : Bool :=
  match name.toList with
  | c :: _ => c == '_' || c == '.'
  | [] => false

/-- A name, cut before the last point in it, unless nothing stands before the point or after it. -/
def cutName (name : String) : List Char × List Char :=
  let reversed := name.toList.reverse
  let ending := reversed.takeWhile (· != '.')
  match reversed.drop ending.length with
  | '.' :: stem =>
    if stem.isEmpty || ending.isEmpty then (name.toList, [])
    else (stem.reverse, '.' :: ending.reverse)
  | _ => (name.toList, [])

namespace File

/-- A file of lines, each of which ends with a line feed. -/
def ofLines (name : String) (lines : List String) : File :=
  ⟨name, "".intercalate (lines.map fun l => l ++ "\n")⟩

def stem (f : File) : String := String.ofList (cutName f.name).1

/-- The last point of the name and what stands after it. -/
def ending (f : File) : String := String.ofList (cutName f.name).2

def isSpecial (f : File) : Bool := isSpecialName f.stem

end File

namespace Folder

def isSpecial (f : Folder) : Bool := isSpecialName f.name

def sortFiles (fs : List File) : List File := fs.mergeSort fun a b => a.name ≤ b.name

def sortFolders (fs : List Folder) : List Folder := fs.mergeSort fun a b => a.name ≤ b.name

mutual

/-- The same folder with all files and folders, at every depth, in the order of their names. -/
def inOrder (f : Folder) : Folder :=
  match f with
  | ⟨name, files, folders⟩ => ⟨name, sortFiles files, sortFolders (inOrderAll folders)⟩

def inOrderAll : List Folder → List Folder
  | [] => []
  | f :: r => f.inOrder :: inOrderAll r

end

def folder? (f : Folder) (name : String) : Option Folder := f.folders.find? fun g => g.name == name

def file? (f : Folder) (name : String) : Option File := f.files.find? fun g => g.name == name

/-- Puts a folder in the place of the one that bears its name, or behind the others. -/
def replace (g : Folder) : List Folder → List Folder
  | [] => [g]
  | f :: r => if f.name == g.name then g :: r else f :: replace g r

/-- Adds a file under a path of folders, which are made if they are missing. -/
def addFile (file : File) : List String → Folder → Folder
  | [], f => { f with files := f.files ++ [file] }
  | name :: path, f =>
    let inner := (f.folder? name).getD ⟨name, [], []⟩
    { f with folders := replace (addFile file path inner) f.folders }

/-- Adds a path of folders. -/
def addFolder : List String → Folder → Folder
  | [], f => f
  | name :: path, f =>
    let inner := (f.folder? name).getD ⟨name, [], []⟩
    { f with folders := replace (addFolder path inner) f.folders }

end Folder

end CharacterSheet
