import CharacterSheet.Data.Merge
import CharacterSheet.Data.Sets
import CharacterSheet.Source.Documents

/-!
Drafts: the records of a data folder before they are read as such. A file of standard fields holds
for all records of its folder and of those below, and a document of standard fields for the
documents that follow it in its file.
-/
namespace CharacterSheet

abbrev Entries := List (Data × Data)

/-- A record with its standard fields merged in, and as it stands in its file. -/
structure Draft where
  origin : String
  merged : Data
  raw : Data

namespace Draft

/-- Marks the files and the documents that hold standard fields. -/
def standardMark : String := "__defaults__"

/-- The standard fields that a document holds. Texts and lists that only mention the mark, and
values that can not be searched for it, are faults. -/
def embedded? (raw : Data) : Result (Option Data) :=
  match raw.face with
  | .map es => .ok (Data.field? standardMark es)
  | .text s => if Text.occursIn standardMark.toList s.toList then .error .wrongKind else .ok none
  | .broken cs =>
    if Text.occursIn standardMark.toList (Text.repaired cs).toList then .error .wrongKind
    else .ok none
  | .list xs | .tuple xs | .set xs =>
    if xs.contains (.text standardMark) then .error .wrongKind else .ok none
  | _ => .error .wrongKind

def mergedOver (standard : Entries) (v : Data) : Result Entries := do
  Data.mergeEntries standard (← Data.mergeable? v)

/-- A record over its standard fields; it always tells its own file. -/
def of (origin : String) (standard : Entries) (raw : Data) : Result Draft := do
  let es := Data.renewedEntries (← mergedOver standard raw)
  return ⟨origin, .map (Data.put (.text "def_path") (.text origin) es), raw⟩

/-- The drafts of a file's documents. Empty documents are passed over. -/
def ofDocuments (origin : String) (fault : Option Fault) : Entries → List Data → Readout Draft
  | _, [] => ⟨[], fault⟩
  | standard, raw :: r =>
    if raw.isEmpty then ofDocuments origin fault standard r
    else match embedded? raw with
      | .error f => .failed f
      | .ok (some v) => match mergedOver standard v with
        | .ok standard => ofDocuments origin fault standard r
        | .error f => .failed f
      | .ok none => match of origin standard raw with
        | .ok d => (ofDocuments origin fault standard r).cons d
        | .error f => .failed f

def ofFile (base : String) (standard : Entries) (f : File) : Readout Draft :=
  let ds := f.documents
  ofDocuments (base ++ f.name) ds.fault standard ds.items

def ofFiles (base : String) (standard : Entries) : List File → Readout Draft
  | [] => .empty
  | f :: r =>
    if f.isSpecial then ofFiles base standard r
    else ofFile base standard f ++ ofFiles base standard r

/-- Standard fields with those of further documents written over them. -/
def addDocuments : Entries → List Data → Result Entries
  | standard, [] => .ok standard
  | standard, v :: r => do addDocuments (← mergedOver standard v) r

/-- Standard fields with those of a folder's own files written over them. -/
def addStandard : Entries → List File → Result Entries
  | standard, [] => .ok standard
  | standard, f :: r =>
    if f.stem == standardMark then do
      let standard ← addDocuments standard f.documents.items
      match f.documents.fault with
      | some fault => throw fault
      | none => addStandard standard r
    else addStandard standard r

mutual

/-- The drafts of a folder in order: those of its files, then those of its folders. -/
def ofFolder (base : String) (standard : Entries) (f : Folder) : Readout Draft :=
  match f with
  | ⟨_, files, folders⟩ => match addStandard standard files with
    | .error fault => .failed fault
    | .ok standard => ofFiles base standard files ++ ofFolders base standard folders

def ofFolders (base : String) (standard : Entries) : List Folder → Readout Draft
  | [] => .empty
  | f :: r =>
    if f.isSpecial then ofFolders base standard r
    else ofFolder (base ++ f.name ++ "/") standard f ++ ofFolders base standard r

end

end Draft

end CharacterSheet
