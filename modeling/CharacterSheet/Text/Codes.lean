/-!
Texts as lists of code points. A `String` holds whole characters only; such a list may also hold the
two halves in which some encodings write a character, where one of them stands alone.
-/
namespace CharacterSheet.Text

abbrev Codes := List Nat

def codes (s : String) : Codes := s.toList.map Char.toNat

/-- The first half of a character that is written as two. -/
def isHighHalf (code : Nat) : Bool := 0xD800 ≤ code && code < 0xDC00

def isLowHalf (code : Nat) : Bool := 0xDC00 ≤ code && code < 0xE000

def joinHalves (high low : Nat) : Nat := 0x10000 + (high - 0xD800) * 0x400 + (low - 0xDC00)

/-- The text of some codes, unless one of them is no character. -/
def ofCodes? (cs : Codes) : Option String :=
  if cs.all Nat.isValidChar then some (String.ofList (cs.map Char.ofNat)) else none

/-- The character of a code; what is none leaves a mark. -/
def charOr (code : Nat) : Char := if code.isValidChar then Char.ofNat code else '\uFFFD'

/-- The text of some codes, with a mark in place of each half. -/
def repaired (cs : Codes) : String := String.ofList (cs.map charOr)

end CharacterSheet.Text
