import CharacterSheet.Record.Scalars

/-!
Decisions: whether a value is accepted, and if not, why.
-/
namespace CharacterSheet

open Record

structure Decision where
  success : Bool
  reason : Option String
  deriving DecidableEq, Repr

namespace Decision

def accepted : Decision := ⟨true, none⟩

def refused (reason : String) : Decision := ⟨false, some reason⟩

def computed : Decision := refused "Value is computed from other traits."

def fieldNames : List String := ["success", "reason"]

def read : Reader Decision := fields fieldNames fun es =>
  Decision.mk <$> optional es "success" false truth <*> optional es "reason" none (nullable text)

def dump (mode : Mode) (d : Decision) : Data :=
  write mode [("success", .bool d.success), ("reason", nullOr .text d.reason)]

end Decision

end CharacterSheet
