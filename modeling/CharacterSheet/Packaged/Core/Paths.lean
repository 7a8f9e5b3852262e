import CharacterSheet.Source.Folder

/-!
The moral paths of the core ruleset.
-/
namespace CharacterSheet.Core

def assamia : File := .ofLines "assamia.yaml" [
  "name: Assamia",
  "virtues: Conviction and Self-Control",
  "bearing: Resolve",
  "hierarchy_of_sins: |-",
  "  Feeding on a mortal without consent",
  "  Breaking a word of honor to a Clanmate",
  "  Refusing to offer a non-Assamite an opportunity to convert",
  "  Failing to take an opportunity to destroy an apostate from the Clan",
  "  Succumbing to frenzy",
  "  Wronging a mortal (such as by injury or theft), except by feeding",
  "  Killing a mortal in Frenzy, failing to take an opportunity to harm a wicked Kindred",
  "  Refusal to further the cause of Assamia, even when doing so is safe"]

def humanity : File := .ofLines "humanity.yaml" [
  "name: Humanity",
  "virtues: Conscience and Self-Control",
  "bearing: Humanity",
  "hierarchy_of_sins:",
  "  - Selfish acts.",
  "  - Injury to another (in Frenzy or otherwise, except in self-defense, etc).",
  "  - Intentional injury to another (except self-defense, consensual, etc).",
  "  - Theft.",
  "  - Accidental violation (drinking a vessel dry out of starvation).",
  "  - Intentional property damage.",
  "  - Impassioned violation (manslaughter, killing a vessel in Frenzy).",
  "  - Planned violation (outright murder, savored exsanguination).",
  "  - Casual violation (thoughtless killing, feeding past satiation).",
  "  - Gleeful or \"creative\" violation (let's not go there)."]

def paths : Folder := ⟨"paths", [assamia, humanity], []⟩

end CharacterSheet.Core
