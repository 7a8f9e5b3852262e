/-!
Places in a text that is read line by line.
-/
namespace CharacterSheet.Data.Yaml

def isBreak (c : Char) : Bool :=
  c == '\n' || c == '\r' || c.toNat == 0x85 || c.toNat == 0x2028 || c.toNat == 0x2029

def isGap (c : Char) : Bool := c == ' ' || c == '\t'

/-- Whether a word ends before what may be a character: at a gap, a line break or the end. -/
def endsWord : Option Char → Bool
  | none => true
  | some c => isGap c || isBreak c

/-- Whether a line ends here. -/
def endsLine : Option Char → Bool
  | none => true
  | some c => isBreak c

/-- Whether a line or a part of it ends here, for parts that no tab may follow. -/
def endsPart : Option Char → Bool
  | none => true
  | some c => c == ' ' || isBreak c

/-- What is left of a text, and how many characters and lines, and characters of this line, stand
before it. A text may be cut: then it goes on with something that can not be read. -/
structure Cursor where
  rest : List Char
  index : Nat
  line : Nat
  column : Nat
  isCut : Bool
  deriving DecidableEq, Repr

namespace Cursor

def start (cs : List Char) (isCut : Bool) : Cursor := ⟨cs, 0, 0, 0, isCut⟩

def peek (c : Cursor) (n : Nat) : Option Char := c.rest[n]?

def next (c : Cursor) : Option Char := c.peek 0

def atEnd (c : Cursor) : Bool := c.rest.isEmpty

/-- A carriage return before a line feed does not end a line, and a mark of byte order takes no
column. -/
def step (c : Cursor) : Cursor :=
  match c.rest with
  | [] => c
  | x :: r =>
    let c := { c with rest := r, index := c.index + 1 }
    if isBreak x && !(x == '\r' && r.head? == some '\n') then
      { c with line := c.line + 1, column := 0 }
    else if x == '\uFEFF' then c
    else { c with column := c.column + 1 }

def skip : Nat → Cursor → Cursor
  | 0, c => c
  | n + 1, c => skip n c.step

/-- The characters up to the first one that fails a test. -/
def span (p : Char → Bool) (c : Cursor) : List Char × Cursor :=
  let cs := c.rest.takeWhile p
  (cs, c.skip cs.length)

def skipWhile (p : Char → Bool) (c : Cursor) : Cursor := (c.span p).2

def skipSpaces (c : Cursor) : Cursor := c.skipWhile (· == ' ')

/-- Passes over spaces, but not beyond a column. -/
def skipIndent (column : Nat) (c : Cursor) : Cursor :=
  c.skip (min (column - c.column) (c.rest.takeWhile (· == ' ')).length)

/-- A line break, if one stands here. The usual ones all count as line feeds. -/
def lineBreak? (c : Cursor) : Option (Char × Cursor) :=
  match c.rest with
  | '\r' :: '\n' :: _ => some ('\n', c.skip 2)
  | x :: _ =>
    if x == '\r' || x == '\n' || x.toNat == 0x85 then some ('\n', c.step)
    else if isBreak x then some (x, c.step)
    else none
  | [] => none

def skipLineBreak (c : Cursor) : Cursor :=
  match c.lineBreak? with
  | some (_, c) => c
  | none => c

/-- The rest of a line on which only a comment may stand. -/
def skipComment (c : Cursor) : Option Cursor :=
  let c := c.skipSpaces
  let c := if c.next == some '#' then c.skipWhile (!isBreak ·) else c
  if endsLine c.next then some c.skipLineBreak else none

def startsWith (word : String) (c : Cursor) : Bool := word.toList.isPrefixOf c.rest

/-- Whether three of these marks stand here and nothing else is joined to them. -/
def atMarks (marks : String) (c : Cursor) : Bool := c.startsWith marks && endsWord (c.peek 3)

/-- Whether a line that starts here parts two documents. -/
def atSeparator (c : Cursor) : Bool := c.atMarks "---" || c.atMarks "..."

/-- Whether a text is cut before so many characters. -/
def lacks (n : Nat) (c : Cursor) : Bool := c.isCut && (c.peek (n - 1)).isNone

/-- Whether a text is cut before it shows if documents part here. -/
def isCutShort (c : Cursor) : Bool :=
  c.lacks 3 || (c.lacks 4 && (c.startsWith "---" || c.startsWith "..."))

end Cursor

end CharacterSheet.Data.Yaml
