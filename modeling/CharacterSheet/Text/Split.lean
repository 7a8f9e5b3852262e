/-!
Cutting a text at a separator, and putting it together again. A separator is found from the left,
and no two finds overlap.
-/
namespace CharacterSheet.Text

/-- The first piece and the pieces after it. `skip` characters of a found separator are still to be
passed over. -/
def pieces (sep : List Char) : Nat → List Char → List Char × List (List Char)
  | _, [] => ([], [])
  | skip + 1, _ :: r => pieces sep skip r
  | 0, c :: r =>
    if sep.isPrefixOf (c :: r) then
      let (p, ps) := pieces sep (sep.length - 1) r
      ([], p :: ps)
    else
      let (p, ps) := pieces sep 0 r
      (c :: p, ps)

def splitChars (sep cs : List Char) : List (List Char) :=
  let (p, ps) := pieces sep 0 cs
  p :: ps

/-- The pieces of a text between the finds of a separator, or nothing if the separator is empty. -/
def split? (sep s : String) : Option (List String) :=
  if sep.isEmpty then none else some ((splitChars sep.toList s.toList).map String.ofList)

def lines (s : String) : List String := (splitChars ['\n'] s.toList).map String.ofList

def join (sep : String) (parts : List String) : String := sep.intercalate parts

/-- How often a glyph occurs without overlap; the empty glyph stands before and after every
character. -/
def count (glyph s : String) : Nat :=
  if glyph.isEmpty then s.length + 1 else (splitChars glyph.toList s.toList).length - 1

/-- Whether a text occurs within another. -/
def occursIn (part : List Char) : List Char → Bool
  | [] => part.isEmpty
  | c :: r => part.isPrefixOf (c :: r) || occursIn part r

end CharacterSheet.Text
