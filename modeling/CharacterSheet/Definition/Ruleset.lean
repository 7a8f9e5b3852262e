import CharacterSheet.Definition.Defect
import CharacterSheet.Definition.Path
import CharacterSheet.Definition.Template
import CharacterSheet.Definition.Trait

/-!
Rulesets: the settings and all the records that characters are made from.
-/
namespace CharacterSheet

open Record

/-- `virtuesTrait`, `pathScoreTrait` and `pathNameTrait` name the traits that stand behind the
penalty of virtues, effective humanity and a character's moral path. -/
structure Ruleset where
  id : String
  name : String
  version : String
  chunkDelimiter : String
  tokenDelimiter : String
  levelGlyph : String
  reserved : Table String Int
  nameTrait : String
  virtuesTrait : String
  pathScoreTrait : String
  pathNameTrait : String
  titles : Table TemplateKey String
  standardTitle : String
  traits : List TraitDefinition
  templates : List TemplateDefinition
  rows : List TemplateRow
  paths : List MoralPath
  defects : List Defect

namespace Ruleset

/-- The constants that a ruleset may set to another value. -/
def standardReserved : Table String Int :=
  .ofList [("TRAITMAX", 5), ("MAGICMAX", 5), ("BACKGROUNDMAX", 5), ("PATHMAX", 10),
    ("GENERATIONMAX", 5)]

def computedNames : List String := ["RESOLVEPENALTY", "EFFECTIVEHUMANITY"]

/-- No variable may take one of these names. -/
def isReserved (name : String) : Bool :=
  standardReserved.contains name || computedNames.contains name

def standardTitles : Table TemplateKey String :=
  .ofList [(.kindred, "Vampire: The Masquerade"), (.kalebite, "Werewolf: The Hunt"),
    (.fae, "Changeling: The Journey"), (.mage, "Mage: The Illumination")]

def everythingTitle : String := "Vampire: The Everything"

def sortedNames (names : List String) : List String := names.mergeSort (· ≤ ·)

/-- Constants that are not set keep their values; there are no others. -/
def readReserved (v : Data) : Checked (Table String Int) :=
  (mapOf text integer v).andThen fun pairs =>
    let set := Table.ofList pairs
    let unknown := set.keys.filter fun k => !standardReserved.contains k
    if unknown.isEmpty then .valid (standardReserved.union set)
    else Checked.fail (.refused
      ("Unrecognized reserved variable(s): " ++ Text.join ", " (sortedNames unknown)))

def parseTitleKeys : List (Data × Data) → Result (List (TemplateKey × Data))
  | [] => .ok []
  | (k, v) :: r => do
    let key ← Vocabulary.read k
    return (key, v) :: (← parseTitleKeys r)

def readTitles : Reader (Table TemplateKey String) := fun v =>
  match v.face with
  | .map es =>
    (refusable (parseTitleKeys es)).andThen fun keyed =>
      let latest := keyed.foldl (fun (t : List (TemplateKey × Data)) p => Table.put p.1 p.2 t) []
      let titles := latest.foldr (fun p (r : Checked (List (TemplateKey × String))) =>
        (fun s r => (p.1, s) :: r) <$>
          (text p.2).under (toString (Vocabulary.code p.1)) <*> r) (.valid [])
      Table.ofList <$> titles
  | _ => Checked.fail .notMap

def fieldNames : List String :=
  ["id", "name", "version", "chunk_delimiter", "mini_chunk_delimiter", "power_level_glyph",
    "reserved_values", "name_trait", "virtues_trait", "path_score_trait", "path_name_trait",
    "game_titles", "default_title", "traits", "templates", "template_traits", "paths", "bad_defs"]

def read : Reader Ruleset := fields fieldNames fun es =>
  Ruleset.mk <$> required es "id" text
    <*> required es "name" text
    <*> optional es "version" "0.0" text
    <*> optional es "chunk_delimiter" "\n" text
    <*> optional es "mini_chunk_delimiter" "|" text
    <*> optional es "power_level_glyph" "•" text
    <*> optional es "reserved_values" standardReserved readReserved
    <*> optional es "name_trait" "Name" text
    <*> optional es "virtues_trait" "Virtues" text
    <*> optional es "path_score_trait" "Path Score" text
    <*> optional es "path_name_trait" "Path Name" text
    <*> optional es "game_titles" standardTitles readTitles
    <*> optional es "default_title" everythingTitle text
    <*> optional es "traits" [] (listOf TraitDefinition.read)
    <*> optional es "templates" [] (listOf TemplateDefinition.read)
    <*> optional es "template_traits" [] (listOf TemplateRow.read)
    <*> optional es "paths" [] (listOf MoralPath.read)
    <*> optional es "bad_defs" [] (listOf Defect.read)

def dump (mode : Mode) (r : Ruleset) : Data :=
  write mode
    [("id", .text r.id), ("name", .text r.name), ("version", .text r.version),
      ("chunk_delimiter", .text r.chunkDelimiter), ("mini_chunk_delimiter", .text r.tokenDelimiter),
      ("power_level_glyph", .text r.levelGlyph),
      ("reserved_values", .map (r.reserved.entries.map fun e => (.text e.1, .int e.2))),
      ("name_trait", .text r.nameTrait), ("virtues_trait", .text r.virtuesTrait),
      ("path_score_trait", .text r.pathScoreTrait), ("path_name_trait", .text r.pathNameTrait),
      ("game_titles", .map (r.titles.entries.map fun e =>
        (.text (toString (Vocabulary.code e.1)), .text e.2))),
      ("default_title", .text r.standardTitle),
      ("traits", .list (r.traits.map (TraitDefinition.dump mode))),
      ("templates", .list (r.templates.map (TemplateDefinition.dump mode))),
      ("template_traits", .list (r.rows.map (TemplateRow.dump mode))),
      ("paths", .list (r.paths.map (MoralPath.dump mode))),
      ("bad_defs", .list (r.defects.map (Defect.dump mode)))]

def writingFault? (r : Ruleset) : Option Fault :=
  (r.traits.findSome? TraitDefinition.writingFault?).or (r.defects.findSome? Defect.writingFault?)

def sameDefects : List Defect → List Defect → Bool
  | [], [] => true
  | a :: as, b :: bs => a.same b && sameDefects as bs
  | _, _ => false

/-- Equality of rulesets; the order in which a table was written does not count. -/
def same (a b : Ruleset) : Bool :=
  let rest (r : Ruleset) := { r with defects := [] }.dump .full
  rest a == rest b && sameDefects a.defects b.defects

def delimiters (r : Ruleset) : Delimiters := ⟨r.chunkDelimiter, r.tokenDelimiter⟩

/-- The value of a reserved constant. -/
def constant (r : Ruleset) (name : String) : Int :=
  (r.reserved.get? name).getD ((standardReserved.get? name).getD 0)

end Ruleset

end CharacterSheet
