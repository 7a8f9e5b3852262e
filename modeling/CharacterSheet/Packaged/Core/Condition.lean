import CharacterSheet.Source.Folder

/-!
Merits, morality, vital statistics and weapons in the core ruleset.
-/
namespace CharacterSheet.Core

def meritsStandard : File := .ofLines "__defaults__.yaml" [
  "category: merit-flaw",
  "type: merit-flaw"]

def meritsAll : File := .ofLines "merits.yaml" [
  "id: 100",
  "name: Ambidextrous",
  "subcategory: physical",
  "---",
  "id: 101",
  "name: Common Sense",
  "subcategory: mental",
  "---",
  "id: 102",
  "name: Eidetic Memory",
  "subcategory: mental",
  "---",
  "id: 103",
  "name: Nightmares",
  "subcategory: mental",
  "---",
  "id: 104",
  "name: True Faith",
  "subcategory: social"]

def moralityStandard : File := .ofLines "__defaults__.yaml" [
  "category: moral-path",
  "type: derived"]

def moralityAll : File := .ofLines "morality.yaml" [
  "id: 90",
  "name: Path Name",
  "type: path",
  "rule: |",
  "  VALUES|Humanity|Assamia",
  "  IS_VARIABLE|PATHNAME",
  "---",
  "id: 91",
  "name: Path Score",
  "type: integer",
  "default: 7",
  "rule: |",
  "  MINMAX|0|PATHMAX",
  "  IS_VARIABLE|PATHSCORE",
  "---",
  "id: 92",
  "name: Virtues",
  "rule: DERIVED_SWITCH|PATHNAME|Humanity|Conscience and Self-Control|Assamia|Conviction and Self-Control",
  "---",
  "id: 93",
  "name: Bearing",
  "rule: DERIVED_SWITCH|PATHNAME|Humanity|Humanity|Assamia|Resolve",
  "---",
  "id: 94",
  "name: Resolve Penalty",
  "rule: DERIVED_INTEGER|RESOLVEPENALTY",
  "---",
  "id: 95",
  "name: Effective Humanity",
  "rule: DERIVED_INTEGER|EFFECTIVEHUMANITY"]

def vitalsStandard : File := .ofLines "__defaults__.yaml" [
  "category: vital-statistic",
  "type: derived"]

def vitalsAll : File := .ofLines "vitals.yaml" [
  "id: 80",
  "name: Size",
  "type: integer",
  "default: 5",
  "rule: |",
  "  MINMAX|1|10",
  "  IS_VARIABLE|SIZE",
  "---",
  "id: 81",
  "name: Health",
  "rule: DERIVED_INTEGER|STAMINA|SIZE|+",
  "---",
  "id: 82",
  "name: Willpower",
  "rule: DERIVED_INTEGER|RESOLVE|COMPOSURE|+",
  "---",
  "id: 83",
  "name: Speed",
  "rule: DERIVED_INTEGER|STRENGTH|DEXTERITY|+|5|+",
  "---",
  "id: 84",
  "name: Initiative",
  "rule: DERIVED_INTEGER|DEXTERITY|COMPOSURE|+",
  "---",
  "id: 85",
  "name: Defense",
  "rule: DERIVED_INTEGER|DEXTERITY|ATHLETICS|+"]

def weaponsStandard : File := .ofLines "__defaults__.yaml" [
  "category: weapon",
  "type: weapon",
  "subcategory: selectable-weapon"]

def weaponsAll : File := .ofLines "weapons.yaml" [
  "id: 110",
  "name: Fists",
  "subcategory: natural-weapon",
  "default: \"True\"",
  "---",
  "id: 111",
  "name: Knife",
  "---",
  "id: 112",
  "name: Pistol"]

def meritsFolder : Folder := ⟨"merits", [meritsStandard, meritsAll], []⟩

def moralityFolder : Folder := ⟨"morality", [moralityStandard, moralityAll], []⟩

def vitalsFolder : Folder := ⟨"vitals", [vitalsStandard, vitalsAll], []⟩

def weaponsFolder : Folder := ⟨"weapons", [weaponsStandard, weaponsAll], []⟩

end CharacterSheet.Core
