import CharacterSheet.Record.Scalars
import CharacterSheet.Vocabulary

/-!
Fields that hold members of a vocabulary.
-/
namespace CharacterSheet.Record

open Checked (fail)

/-- A lenient reading as a field's reader: its refusal is the issue. -/
def refusable {α : Type} : Result α → Checked α
  | .ok a => .valid a
  | .error f => fail (.refused (f.message?.getD ""))

/-- What was read, or a fault that names the record. -/
def whole {α : Type} (record : String) : Checked α → Result α
  | .valid a => .ok a
  | .invalid is => .error (.invalid record is)

/-- What was written, unless something keeps it from being written. -/
def written (fault? : Option Fault) (d : Data) : Result Data :=
  match fault? with
  | some f => .error f
  | none => .ok d

def member (α : Type) [Vocabulary α] : Reader α := fun v => refusable (Vocabulary.read v)

def code {α : Type} [Vocabulary α] (m : α) : Data := .int (Vocabulary.code m)

end CharacterSheet.Record
