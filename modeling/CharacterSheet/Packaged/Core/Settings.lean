import CharacterSheet.Source.Folder

/-!
The settings of the core ruleset, and the rows that add traits to its templates.
-/
namespace CharacterSheet.Core

def settings : File := .ofLines "ruleset.toml" [
  "id = \"vte-core\"",
  "name = \"Vampire: The Everything (Core)\"",
  "version = \"1.0\"",
  "",
  "[reserved_values]",
  "TRAITMAX = 5",
  "MAGICMAX = 5",
  "BACKGROUNDMAX = 5",
  "PATHMAX = 10",
  "GENERATIONMAX = 5",
  "",
  "[game_titles]",
  "Kindred = \"Vampire: The Masquerade\"",
  "Kalebite = \"Werewolf: The Hunt\"",
  "Fae = \"Changeling: The Journey\"",
  "Mage = \"Mage: The Illumination\""]

def mageRows : File := .ofLines "mage.yaml" [
  "template: mage",
  "trait: 14",
  "---",
  "template: mage",
  "trait: 15"]

def rows : Folder := ⟨"template_traits", [mageRows], []⟩

end CharacterSheet.Core
