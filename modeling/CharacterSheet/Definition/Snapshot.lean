import CharacterSheet.Data.Table
import CharacterSheet.Record.Members

/-!
Snapshots: what is saved of a character. The traits that its templates grant are not saved, and
values are saved as texts.
-/
namespace CharacterSheet

open Record

structure Snapshot where
  id : Int
  ruleset : String
  version : String
  templates : List TemplateKey
  addedTraits : List Int
  values : Table Int String
  deriving DecidableEq

namespace Snapshot

def readTemplates (v : Data) : Checked (List TemplateKey) :=
  refusable (v.items.mapM Vocabulary.read)

def readValues (v : Data) : Checked (Table Int String) :=
  Table.ofList <$> mapOf integer text v

def fieldNames : List String :=
  ["id", "ruleset_id", "ruleset_version", "templates", "added_traits", "values"]

def read : Reader Snapshot := fields fieldNames fun es =>
  Snapshot.mk <$> optional es "id" 0 integer
    <*> required es "ruleset_id" text
    <*> required es "ruleset_version" text
    <*> optional es "templates" [] readTemplates
    <*> optional es "added_traits" [] (listOf integer)
    <*> optional es "values" .empty readValues

def dump (mode : Mode) (s : Snapshot) : Data :=
  write mode
    [("id", .int s.id), ("ruleset_id", .text s.ruleset), ("ruleset_version", .text s.version),
      ("templates", .list (s.templates.map code)), ("added_traits", .list (s.addedTraits.map .int)),
      ("values", .map (s.values.entries.map fun e => (.text (toString e.1), .text e.2)))]

/-- A snapshot that is handed on without being written: the IDs before its values are no texts. -/
def unwritten (s : Snapshot) : Data :=
  .map
    [(.text "id", .int s.id), (.text "ruleset_id", .text s.ruleset),
      (.text "ruleset_version", .text s.version), (.text "templates", .list (s.templates.map code)),
      (.text "added_traits", .list (s.addedTraits.map .int)),
      (.text "values", .map (s.values.entries.map fun e => (.int e.1, .text e.2)))]

/-- All the data that a snapshot may be loaded from. -/
def forms (s : Snapshot) : List Data := [s.unwritten, s.dump .full, s.dump .compact]

end Snapshot

end CharacterSheet
