import CharacterSheet.Definition.Directive
import CharacterSheet.Record.Members
import CharacterSheet.Rule.Tokens
import CharacterSheet.Text.Word

/-!
Trait definitions: what every character's instance of a trait has in common.
-/
namespace CharacterSheet

open Record

/-- `origin` is the file that the record stands in. A name need not be unique. `subtraits` and
`directives` are worked out anew when a catalog is built. -/
structure TraitDefinition where
  origin : Option String
  id : Int
  name : String
  type : TraitType
  category : TraitCategory
  subcategory : TraitSubcategory
  rule : Rule
  standard : String
  subtraits : List Int
  directives : List Directive
  deriving DecidableEq

namespace Rule

/-- A text as it is; otherwise a list of texts. -/
def read : Reader Rule
  | .text s => .valid (.text s)
  | v => Checked.either ((Rule.text <$> Record.text v).under "str")
      ((Rule.chunks <$> listOf Record.text v).under "list[str]")

def dump : Rule → Data
  | .text s => .text s
  | .chunks cs => .list (cs.map .text)

end Rule

namespace TraitDefinition

/-- The characters that an ID may hold: all others part the IDs of a text. -/
def isIdChar (c : Char) : Bool := Text.isWord c || c == '-'

/-- The runs of ID characters in a text. The first part is the run that is being read. -/
def idRuns : List Char → List Char × List (List Char)
  | [] => ([], [])
  | c :: r =>
    let (run, rest) := idRuns r
    if isIdChar c then (c :: run, rest)
    else ([], if run.isEmpty then rest else run :: rest)

def splitIds (s : String) : List String :=
  let (run, rest) := idRuns s.toList
  (if run.isEmpty then rest else run :: rest).map String.ofList

def readSubtraits : Reader (List Int) := fun v =>
  match v.codes? with
  | some cs => tupleOf integer (.list ((splitIds (Text.repaired cs)).map .text))
  | none => tupleOf integer v

def readSubcategory : Reader TraitSubcategory
  | .null => .valid .none
  | v => member TraitSubcategory v

/-- Anything that has a text. -/
def readStandard (v : Data) : Checked String := (·.getD "") <$> refusable v.textOf?

def fieldNames : List String :=
  ["def_path", "id", "name", "type", "category", "subcategory", "rule", "default", "subtraits",
    "directives"]

def read : Reader TraitDefinition := fields fieldNames fun es =>
  TraitDefinition.mk <$> optional es "def_path" none (nullable text)
    <*> required es "id" integer
    <*> required es "name" text
    <*> optional es "type" .freeText (member TraitType)
    <*> optional es "category" .topText (member TraitCategory)
    <*> optional es "subcategory" .none readSubcategory
    <*> optional es "rule" (.text "") Rule.read
    <*> optional es "default" "" readStandard
    <*> optional es "subtraits" [] readSubtraits
    <*> optional es "directives" [] (tupleOf Directive.read)

def dump (mode : Mode) (t : TraitDefinition) : Data :=
  write mode
    [("def_path", nullOr .text t.origin), ("id", .int t.id), ("name", .text t.name),
      ("type", code t.type), ("category", code t.category), ("subcategory", code t.subcategory),
      ("rule", t.rule.dump), ("default", .text t.standard),
      ("subtraits", .list (t.subtraits.map .int)),
      ("directives", .list (t.directives.map (Directive.dump mode)))]

def writingFault? (t : TraitDefinition) : Option Fault :=
  t.directives.findSome? Directive.writingFault?

end TraitDefinition

end CharacterSheet
