import CharacterSheet.Data.Json.Reader
import CharacterSheet.Data.Toml.Reader
import CharacterSheet.Data.Yaml.Reader
import CharacterSheet.Source.Folder

/-!
The documents of data files. What a file is written in shows in the ending of its name; files with
other endings hold no documents.
-/
namespace CharacterSheet

def Format.ofEnding? (ending : String) : Option Format :=
  if ending == ".toml" then some .toml
  else if ending == ".json" then some .json
  else if ending == ".yaml" || ending == ".yml" then some .yaml
  else none

/-- A list in a JSON file counts as its elements. -/
def jsonDocuments : Data → List Data
  | .list xs => xs
  | v => [v]

def Format.documents (text : String) : Format → Documents
  | .toml => .ofResult ((Data.Toml.read text).map ([·]))
  | .json => .ofResult ((Data.Json.read text).map jsonDocuments)
  | .yaml => Data.Yaml.read text

namespace File

def format? (f : File) : Option Format := Format.ofEnding? f.ending

def documents (f : File) : Documents :=
  match f.format? with
  | some format => format.documents f.text
  | none => .empty

end File

end CharacterSheet
