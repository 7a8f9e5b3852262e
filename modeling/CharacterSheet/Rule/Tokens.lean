import CharacterSheet.Fault
import CharacterSheet.Text.Blank
import CharacterSheet.Text.Split

/-!
Rules as lists of chunks, and chunks as lists of trimmed tokens. A rule is one text, cut at the
chunk delimiter, or comes with its chunks already apart.
-/
namespace CharacterSheet

inductive Rule where
  | text (s : String)
  | chunks (cs : List String)
  deriving DecidableEq, Repr

structure Delimiters where
  chunk : String
  token : String
  deriving DecidableEq, Repr

namespace Delimiters

def standard : Delimiters := ⟨"\n", "|"⟩

def cut (separator s : String) : Result (List String) :=
  match Text.split? separator s with
  | some parts => .ok parts
  | none => .error (.value .emptySeparator)

end Delimiters

namespace Rule

def chunksOf (d : Delimiters) : Rule → Result (List String)
  | .text s => if s.isEmpty then .ok [] else Delimiters.cut d.chunk s
  | .chunks cs => .ok cs

def tokensOf (d : Delimiters) (chunk : String) : Result (List String) := do
  return (← Delimiters.cut d.token chunk).map Text.trim

/-- The tokens of the chunks that are not blank. -/
def tokens (d : Delimiters) (rule : Rule) : Result (List (List String)) := do
  ((← rule.chunksOf d).filter fun c => !Text.isBlankText c).mapM (tokensOf d)

end Rule

end CharacterSheet
