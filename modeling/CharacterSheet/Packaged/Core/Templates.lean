import CharacterSheet.Source.Folder

/-!
The templates of the core ruleset.
-/
namespace CharacterSheet.Core

def faeTemplate : File := .ofLines "fae.yaml" [
  "key: fae",
  "name: Fae",
  "traits:",
  "  - Seeming",
  "  - Court",
  "",
  "  - Name",
  "  - Player",
  "  - Chronicle",
  "  - Nature",
  "  - Demeanor",
  "  - Concept",
  "",
  "  - Strength",
  "  - Dexterity",
  "  - Stamina",
  "  - Charisma",
  "  - Manipulation",
  "  - Composure",
  "  - Intelligence",
  "  - Wits",
  "  - Resolve",
  "",
  "  - Athletics",
  "  - Brawl",
  "  - Firearms",
  "  - Stealth",
  "  - Empathy",
  "  - Intimidation",
  "  - Investigation",
  "  - Occult",
  "",
  "  - Allies",
  "  - Contacts",
  "  - Resources",
  "  - Status",
  "",
  "  - Size",
  "  - Health",
  "  - Willpower",
  "  - Speed",
  "  - Initiative",
  "  - Defense",
  "",
  "  - Path Name",
  "  - Path Score",
  "  - Virtues",
  "  - Bearing",
  "  - Resolve Penalty",
  "  - Effective Humanity",
  "",
  "  - Ambidextrous",
  "  - Common Sense",
  "  - Eidetic Memory",
  "  - Nightmares",
  "",
  "  - Fists",
  "  - Knife",
  "  - Pistol",
  "",
  "  - Age",
  "  - Hair",
  "  - Eyes"]

def kalebiteTemplate : File := .ofLines "kalebite.yaml" [
  "key: kalebite",
  "name: Kalebite",
  "traits:",
  "  - Brood",
  "  - Breed",
  "  - Tribe",
  "",
  "  - Name",
  "  - Player",
  "  - Chronicle",
  "  - Nature",
  "  - Demeanor",
  "  - Concept",
  "",
  "  - Strength",
  "  - Dexterity",
  "  - Stamina",
  "  - Charisma",
  "  - Manipulation",
  "  - Composure",
  "  - Intelligence",
  "  - Wits",
  "  - Resolve",
  "",
  "  - Athletics",
  "  - Brawl",
  "  - Firearms",
  "  - Stealth",
  "  - Empathy",
  "  - Intimidation",
  "  - Investigation",
  "  - Occult",
  "",
  "  - Allies",
  "  - Contacts",
  "  - Resources",
  "  - Status",
  "",
  "  - Size",
  "  - Health",
  "  - Willpower",
  "  - Speed",
  "  - Initiative",
  "  - Defense",
  "",
  "  - Path Name",
  "  - Path Score",
  "  - Virtues",
  "  - Bearing",
  "  - Resolve Penalty",
  "  - Effective Humanity",
  "",
  "  - Ambidextrous",
  "  - Common Sense",
  "  - Eidetic Memory",
  "  - Nightmares",
  "",
  "  - Fists",
  "  - Knife",
  "  - Pistol",
  "",
  "  - Age",
  "  - Hair",
  "  - Eyes"]

def kindredTemplate : File := .ofLines "kindred.yaml" [
  "key: kindred",
  "name: Kindred",
  "traits:",
  "  - Clan",
  "  - Generation",
  "  - Sire",
  "  - Herd",
  "  - Animalism",
  "  - Auspex",
  "  - Thaumaturgy",
  "  - Assamite Sorcery",
  "",
  "  - Name",
  "  - Player",
  "  - Chronicle",
  "  - Nature",
  "  - Demeanor",
  "  - Concept",
  "",
  "  - Strength",
  "  - Dexterity",
  "  - Stamina",
  "  - Charisma",
  "  - Manipulation",
  "  - Composure",
  "  - Intelligence",
  "  - Wits",
  "  - Resolve",
  "",
  "  - Athletics",
  "  - Brawl",
  "  - Firearms",
  "  - Stealth",
  "  - Empathy",
  "  - Intimidation",
  "  - Investigation",
  "  - Occult",
  "",
  "  - Allies",
  "  - Contacts",
  "  - Resources",
  "  - Status",
  "",
  "  - Size",
  "  - Health",
  "  - Willpower",
  "  - Speed",
  "  - Initiative",
  "  - Defense",
  "",
  "  - Path Name",
  "  - Path Score",
  "  - Virtues",
  "  - Bearing",
  "  - Resolve Penalty",
  "  - Effective Humanity",
  "",
  "  - Ambidextrous",
  "  - Common Sense",
  "  - Eidetic Memory",
  "  - Nightmares",
  "",
  "  - Fists",
  "  - Knife",
  "  - Pistol",
  "",
  "  - Age",
  "  - Hair",
  "  - Eyes"]

def mageTemplate : File := .ofLines "mage.yaml" [
  "key: mage",
  "name: Mage",
  "# Order and Shadow Name come from template_traits/.",
  "traits:",
  "  - Name",
  "  - Player",
  "  - Chronicle",
  "  - Nature",
  "  - Demeanor",
  "  - Concept",
  "",
  "  - Strength",
  "  - Dexterity",
  "  - Stamina",
  "  - Charisma",
  "  - Manipulation",
  "  - Composure",
  "  - Intelligence",
  "  - Wits",
  "  - Resolve",
  "",
  "  - Athletics",
  "  - Brawl",
  "  - Firearms",
  "  - Stealth",
  "  - Empathy",
  "  - Intimidation",
  "  - Investigation",
  "  - Occult",
  "",
  "  - Allies",
  "  - Contacts",
  "  - Resources",
  "  - Status",
  "",
  "  - Size",
  "  - Health",
  "  - Willpower",
  "  - Speed",
  "  - Initiative",
  "  - Defense",
  "",
  "  - Path Name",
  "  - Path Score",
  "  - Virtues",
  "  - Bearing",
  "  - Resolve Penalty",
  "  - Effective Humanity",
  "",
  "  - Ambidextrous",
  "  - Common Sense",
  "  - Eidetic Memory",
  "  - Nightmares",
  "",
  "  - Fists",
  "  - Knife",
  "  - Pistol",
  "",
  "  - Age",
  "  - Hair",
  "  - Eyes"]

def mortalTemplate : File := .ofLines "mortal.yaml" [
  "key: mortal",
  "name: Mortal",
  "traits:",
  "  - Name",
  "  - Player",
  "  - Chronicle",
  "  - Nature",
  "  - Demeanor",
  "  - Concept",
  "",
  "  - Strength",
  "  - Dexterity",
  "  - Stamina",
  "  - Charisma",
  "  - Manipulation",
  "  - Composure",
  "  - Intelligence",
  "  - Wits",
  "  - Resolve",
  "",
  "  - Athletics",
  "  - Brawl",
  "  - Firearms",
  "  - Stealth",
  "  - Empathy",
  "  - Intimidation",
  "  - Investigation",
  "  - Occult",
  "",
  "  - Allies",
  "  - Contacts",
  "  - Resources",
  "  - Status",
  "",
  "  - Size",
  "  - Health",
  "  - Willpower",
  "  - Speed",
  "  - Initiative",
  "  - Defense",
  "",
  "  - Path Name",
  "  - Path Score",
  "  - Virtues",
  "  - Bearing",
  "  - Resolve Penalty",
  "  - Effective Humanity",
  "",
  "  - Ambidextrous",
  "  - Common Sense",
  "  - Eidetic Memory",
  "  - Nightmares",
  "  - True Faith",
  "",
  "  - Fists",
  "  - Knife",
  "  - Pistol",
  "",
  "  - Age",
  "  - Hair",
  "  - Eyes"]

def templates : Folder :=
  ⟨"templates",
    [faeTemplate, kalebiteTemplate, kindredTemplate, mageTemplate, mortalTemplate], []⟩

end CharacterSheet.Core
