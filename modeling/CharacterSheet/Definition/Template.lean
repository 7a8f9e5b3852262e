import CharacterSheet.Record.Members

/-!
Templates: bundles of traits granted together, and rows that add one trait to one template.
-/
namespace CharacterSheet

open Record

/-- A trait by its ID, or every trait of a name. -/
inductive TraitRef where
  | id (n : Int)
  | name (s : String)
  deriving DecidableEq, Repr

/-- `traitIds` are the resolved IDs, worked out anew when a catalog is built. -/
structure TemplateDefinition where
  origin : Option String
  key : TemplateKey
  name : String
  traits : List TraitRef
  traitIds : List Int
  deriving DecidableEq, Repr

structure TemplateRow where
  origin : Option String
  template : TemplateKey
  trait : Int
  deriving DecidableEq, Repr

namespace TraitRef

/-- An integer or a text as it is; otherwise what can be taken for an integer. -/
def read : Reader TraitRef
  | .text s => .valid (.name s)
  | v => Checked.either ((TraitRef.id <$> integer v).under "int")
      ((TraitRef.name <$> text v).under "str")

def toData : TraitRef → Data
  | .id n => .int n
  | .name s => .text s

end TraitRef

namespace TemplateDefinition

def fieldNames : List String := ["def_path", "key", "name", "traits", "trait_ids"]

def read : Reader TemplateDefinition := fields fieldNames fun es =>
  TemplateDefinition.mk <$> optional es "def_path" none (nullable text)
    <*> required es "key" (member TemplateKey)
    <*> required es "name" text
    <*> optional es "traits" [] (listOf TraitRef.read)
    <*> optional es "trait_ids" [] (tupleOf integer)

def dump (mode : Mode) (t : TemplateDefinition) : Data :=
  write mode
    [("def_path", nullOr .text t.origin), ("key", code t.key), ("name", .text t.name),
      ("traits", .list (t.traits.map TraitRef.toData)),
      ("trait_ids", .list (t.traitIds.map .int))]

end TemplateDefinition

namespace TemplateRow

def fieldNames : List String := ["def_path", "template", "trait"]

def read : Reader TemplateRow := fields fieldNames fun es =>
  TemplateRow.mk <$> optional es "def_path" none (nullable text)
    <*> required es "template" (member TemplateKey)
    <*> required es "trait" integer

def dump (mode : Mode) (r : TemplateRow) : Data :=
  write mode
    [("def_path", nullOr .text r.origin), ("template", code r.template), ("trait", .int r.trait)]

end TemplateRow

end CharacterSheet
