import CharacterSheet.Record.Scalars
import CharacterSheet.Text.Split

/-!
Moral paths, and the penalty of virtues that do without conscience or self-control.
-/
namespace CharacterSheet

open Record

structure MoralPath where
  origin : Option String
  name : String
  virtues : String
  bearing : String
  sins : List String
  deriving DecidableEq, Repr

/-- One point for each of the two virtues that a text does not mention, in whatever case. -/
def resolvePenalty (virtues : String) : Int :=
  let cs := (Text.lower virtues).toList
  let missing (virtue : String) : Int := if Text.occursIn virtue.toList cs then 0 else -1
  missing "conscience" + missing "self-control"

namespace MoralPath

def penalty (p : MoralPath) : Int := resolvePenalty p.virtues

def readSins : Reader (List String) := fun v =>
  match v.codes? with
  | some cs => .valid (Text.lines (Text.repaired cs))
  | none => tupleOf text v

def fieldNames : List String := ["def_path", "name", "virtues", "bearing", "hierarchy_of_sins"]

def read : Reader MoralPath := fields fieldNames fun es =>
  MoralPath.mk <$> optional es "def_path" none (nullable text)
    <*> required es "name" text
    <*> optional es "virtues" "" text
    <*> optional es "bearing" "" text
    <*> optional es "hierarchy_of_sins" [] readSins

def dump (mode : Mode) (p : MoralPath) : Data :=
  write mode
    [("def_path", nullOr .text p.origin), ("name", .text p.name), ("virtues", .text p.virtues),
      ("bearing", .text p.bearing), ("hierarchy_of_sins", .list (p.sins.map .text))]

end MoralPath

end CharacterSheet
