import CharacterSheet.Source.Folder

/-!
Who a character is and what it can do: the open traits of the core ruleset.
-/
namespace CharacterSheet.Core

def topStandard : File := .ofLines "__defaults__.yaml" [
  "category: top-text",
  "type: free-text"]

def topFae : File := .ofLines "fae.yaml" [
  "id: 12",
  "name: Seeming",
  "type: dropdown",
  "rule: VALUES||Beast|Darkling|Elemental|Fairest|Ogre|Wizened",
  "---",
  "id: 13",
  "name: Court",
  "type: dropdown",
  "rule: VALUES||Spring|Summer|Autumn|Winter"]

def topKalebite : File := .ofLines "kalebite.yaml" [
  "id: 9",
  "name: Brood",
  "type: dropdown",
  "rule: |",
  "  IS_VARIABLE|BROOD",
  "  VALUES||Kalebite|Aragite|Arumite|Chatul (Tiger)|Chatul (Lion)",
  "---",
  "id: 10",
  "name: Breed",
  "type: dropdown",
  "# The [animal] breed is named after the character's brood.",
  "rule: |",
  "  DERIVED_OPTION|[animal]|BROOD||[animal]|Kalebite|Lycanth|Aragite|Arachnes|Arumite|Alopex|Chatul (Tiger)|Ailouros|Chatul (Lion)|Leo",
  "  VALUES||Anthrope|Yvrid|[animal]",
  "---",
  "id: 11",
  "name: Tribe",
  "type: dropdown",
  "rule: VALUES||Bone Gnawers|Glass Walkers|Red Talons|Shadow Lords|Silent Striders"]

def topKindred : File := .ofLines "kindred.yaml" [
  "id: 6",
  "name: Clan",
  "type: dropdown",
  "rule: VALUES||Assamite|Brujah|Gangrel|Malkavian|Nosferatu|Toreador|Tremere|Ventrue",
  "---",
  "id: 7",
  "name: Generation",
  "type: derived",
  "default: 13",
  "rule: IS_VARIABLE|GENERATION",
  "---",
  "id: 8",
  "name: Sire"]

def topMage : File := .ofLines "mage.yaml" [
  "id: 14",
  "name: Order",
  "type: dropdown",
  "rule:",
  "  - VALUES||Adamantine Arrow|Guardians of the Veil|Mysterium|Silver Ladder|Free Council",
  "---",
  "id: 15",
  "name: Shadow Name"]

def topAll : File := .ofLines "top.yaml" [
  "id: 0",
  "name: Name",
  "---",
  "id: 1",
  "name: Player",
  "---",
  "id: 2",
  "name: Chronicle",
  "---",
  "id: 3",
  "name: Nature",
  "type: dropdown",
  "rule: VALUES||Architect|Bon Vivant|Caregiver|Competitor|Loner|Survivor|Visionary",
  "---",
  "id: 4",
  "name: Demeanor",
  "type: dropdown",
  "rule: VALUES||Architect|Bon Vivant|Caregiver|Competitor|Loner|Survivor|Visionary",
  "---",
  "id: 5",
  "name: Concept"]

def attributesStandard : File := .ofLines "__defaults__.yaml" [
  "category: attribute",
  "type: integer",
  "default: 1",
  "rule: MINMAX|1|TRAITMAX"]

def attributesAll : File := .ofLines "attributes.yaml" [
  "id: 20",
  "name: Strength",
  "subcategory: physical",
  "rule: |",
  "  MINMAX|1|TRAITMAX",
  "  IS_VARIABLE|STRENGTH",
  "---",
  "id: 21",
  "name: Dexterity",
  "subcategory: physical",
  "rule: |",
  "  MINMAX|1|TRAITMAX",
  "  IS_VARIABLE|DEXTERITY",
  "---",
  "id: 22",
  "name: Stamina",
  "subcategory: physical",
  "rule: |",
  "  MINMAX|1|TRAITMAX",
  "  IS_VARIABLE|STAMINA",
  "---",
  "id: 23",
  "name: Charisma",
  "subcategory: social",
  "---",
  "id: 24",
  "name: Manipulation",
  "subcategory: social",
  "---",
  "id: 25",
  "name: Composure",
  "subcategory: social",
  "rule: |",
  "  MINMAX|1|TRAITMAX",
  "  IS_VARIABLE|COMPOSURE",
  "---",
  "id: 26",
  "name: Intelligence",
  "subcategory: mental",
  "---",
  "id: 27",
  "name: Wits",
  "subcategory: mental",
  "rule: |",
  "  MINMAX|1|TRAITMAX",
  "  IS_VARIABLE|WITS",
  "---",
  "id: 28",
  "name: Resolve",
  "subcategory: mental",
  "rule: |",
  "  MINMAX|1|TRAITMAX",
  "  IS_VARIABLE|RESOLVE"]

def skillsStandard : File := .ofLines "__defaults__.yaml" [
  "category: skill",
  "type: integer",
  "default: 0",
  "rule: MINMAX|0|TRAITMAX"]

def skillsAll : File := .ofLines "skills.yaml" [
  "id: 30",
  "name: Athletics",
  "subcategory: physical",
  "rule: |",
  "  MINMAX|0|TRAITMAX",
  "  IS_VARIABLE|ATHLETICS",
  "---",
  "id: 31",
  "name: Brawl",
  "subcategory: physical",
  "---",
  "id: 32",
  "name: Firearms",
  "subcategory: physical",
  "---",
  "id: 33",
  "name: Stealth",
  "subcategory: physical",
  "---",
  "id: 34",
  "name: Empathy",
  "subcategory: social",
  "---",
  "id: 35",
  "name: Intimidation",
  "subcategory: social",
  "---",
  "id: 36",
  "name: Investigation",
  "subcategory: mental",
  "---",
  "id: 37",
  "name: Occult",
  "subcategory: mental"]

def backgroundsStandard : File := .ofLines "__defaults__.yaml" [
  "category: background",
  "type: integer",
  "default: 0",
  "rule: MINMAX|0|BACKGROUNDMAX"]

def backgroundsAll : File := .ofLines "backgrounds.yaml" [
  "id: 70",
  "name: Allies",
  "---",
  "id: 71",
  "name: Contacts",
  "---",
  "id: 72",
  "name: Generation",
  "rule: MINMAX|0|GENERATIONMAX",
  "---",
  "id: 73",
  "name: Herd",
  "---",
  "id: 74",
  "name: Resources",
  "---",
  "id: 75",
  "name: Status"]

def descriptionStandard : File := .ofLines "__defaults__.yaml" [
  "category: physical-description",
  "type: free-text"]

def descriptionAll : File := .ofLines "description.yaml" [
  "id: 120",
  "name: Age",
  "---",
  "id: 121",
  "name: Hair",
  "---",
  "id: 122",
  "name: Eyes"]

def topFolder : Folder :=
  ⟨"top", [topStandard, topFae, topKalebite, topKindred, topMage, topAll], []⟩

def attributesFolder : Folder := ⟨"attributes", [attributesStandard, attributesAll], []⟩

def skillsFolder : Folder := ⟨"skills", [skillsStandard, skillsAll], []⟩

def backgroundsFolder : Folder := ⟨"backgrounds", [backgroundsStandard, backgroundsAll], []⟩

def descriptionFolder : Folder := ⟨"description", [descriptionStandard, descriptionAll], []⟩

end CharacterSheet.Core
