import CharacterSheet.Source.Folder

/-!
Disciplines in the core ruleset, and the powers that they give.
-/
namespace CharacterSheet.Core

def disciplinesStandard : File := .ofLines "__defaults__.yaml" [
  "category: power",
  "subcategory: discipline",
  "type: derived"]

def disciplinesAssamiteSorcery : File := .ofLines "assamite_sorcery.yaml" [
  "# Assamite Sorcery shares path names with Thaumaturgy, so its paths carry an",
  "# annotated main trait name for their powers to refer to.",
  "id: 45",
  "name: Assamite Sorcery",
  "rule: |",
  "  AUTOHIDE",
  "  MINMAX|0|MAGICMAX",
  "  MAINTRAIT_MAX",
  "---",
  "id: 46",
  "name: The Path of Blood",
  "rule: |",
  "  AUTOHIDE",
  "  MINMAX|0|MAGICMAX",
  "  SUBTRAIT|Assamite Sorcery",
  "  MAINTRAIT_COUNT|A:The Path of Blood"]

def disciplinesAll : File := .ofLines "disciplines.yaml" [
  "id: 40",
  "name: Animalism",
  "rule: |",
  "  AUTOHIDE",
  "  MINMAX|0|TRAITMAX",
  "  MAINTRAIT_COUNT",
  "---",
  "id: 41",
  "name: Auspex",
  "rule: |",
  "  AUTOHIDE",
  "  MINMAX|0|TRAITMAX",
  "  MAINTRAIT_COUNT"]

def disciplinesThaumaturgy : File := .ofLines "thaumaturgy.yaml" [
  "# Blood magic is rated by its best path. Each path is rated by how many of",
  "# its powers the character has learned.",
  "id: 42",
  "name: Thaumaturgy",
  "rule: |",
  "  AUTOHIDE",
  "  MINMAX|0|MAGICMAX",
  "  MAINTRAIT_MAX",
  "---",
  "id: 43",
  "name: The Path of Blood",
  "rule: |",
  "  AUTOHIDE",
  "  MINMAX|0|MAGICMAX",
  "  SUBTRAIT|Thaumaturgy",
  "  MAINTRAIT_COUNT",
  "---",
  "id: 44",
  "name: The Lure of Flames",
  "type: integer",
  "default: 0",
  "rule: |",
  "  AUTOHIDE",
  "  MINMAX|0|MAGICMAX",
  "  SUBTRAIT|Thaumaturgy"]

def powersStandard : File := .ofLines "__defaults__.yaml" [
  "category: specific-power",
  "subcategory: discipline",
  "type: selectable"]

def powersAnimalism : File := .ofLines "animalism.yaml" [
  "__defaults__:",
  "  rule: |",
  "    AUTOHIDE",
  "    MINMAX|0|TRAITMAX",
  "    SUBTRAIT|Animalism",
  "    POWER_LEVEL",
  "---",
  "id: 50",
  "name: Feral Whispers (•)",
  "---",
  "id: 51",
  "name: Beckoning (••)",
  "---",
  "id: 52",
  "name: Animal Succulence (•••)",
  "---",
  "id: 53",
  "name: Quell the Beast (••••)"]

def powersAuspex : File := .ofLines "auspex.yaml" [
  "__defaults__:",
  "  rule: |",
  "    AUTOHIDE",
  "    MINMAX|0|TRAITMAX",
  "    SUBTRAIT|Auspex",
  "    POWER_LEVEL",
  "---",
  "id: 54",
  "name: Heightened Senses (•)",
  "---",
  "id: 55",
  "name: Aura Perception (••)"]

def powersPathOfBlood : File := .ofLines "path_of_blood.yaml" [
  "__defaults__:",
  "  rule: |",
  "    AUTOHIDE",
  "    MINMAX|0|TRAITMAX",
  "    SUBTRAIT|The Path of Blood",
  "    POWER_LEVEL",
  "---",
  "id: 56",
  "name: A Taste for Blood (•)",
  "---",
  "id: 57",
  "name: Blood Rage (••)",
  "---",
  "id: 58",
  "name: Potency of Blood (•••)",
  "---",
  "id: 59",
  "name: A Taste for Blood (•)",
  "rule: |",
  "  AUTOHIDE",
  "  MINMAX|0|TRAITMAX",
  "  SUBTRAIT|A:The Path of Blood",
  "  POWER_LEVEL",
  "---",
  "id: 60",
  "name: Blood Rage (••)",
  "rule: |",
  "  AUTOHIDE",
  "  MINMAX|0|TRAITMAX",
  "  SUBTRAIT|A:The Path of Blood",
  "  POWER_LEVEL"]

def disciplinesFolder : Folder :=
  ⟨"disciplines",
    [disciplinesStandard, disciplinesAssamiteSorcery, disciplinesAll, disciplinesThaumaturgy], []⟩

def powersFolder : Folder :=
  ⟨"powers", [powersStandard, powersAnimalism, powersAuspex, powersPathOfBlood], []⟩

end CharacterSheet.Core
