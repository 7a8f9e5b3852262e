import CharacterSheet.Data.Yaml.Cursor
import CharacterSheet.Fault

/-!
Scalars as they are written: plain, in single or double quotes, or as blocks of lines. Line breaks
within plain and quoted scalars are folded: a single one counts as a space, and of more the first
one is dropped.
-/
namespace CharacterSheet.Data.Yaml

/-- What stands for a line break and the further ones after it. -/
def foldBreak (first : Char) (further : List Char) : List Char :=
  (if first != '\n' then [first] else if further.isEmpty then [' '] else []) ++ further

/-! Quoted scalars. -/

/-- The line breaks from here on, past the gaps between them. No document may end within a scalar.
-/
def quotedBreaks : Nat → Cursor → Option (List Char × Cursor)
  | 0, _ => none
  | n + 1, c =>
    if c.isCutShort || c.atSeparator then none
    else
      let c := c.skipWhile isGap
      match c.lineBreak? with
      | none => some ([], c)
      | some (b, c) => (quotedBreaks n c).map fun (bs, c) => (b :: bs, c)

def simpleEscape? : Char → Option Char
  | '0' => some (Char.ofNat 0x00)
  | 'a' => some (Char.ofNat 0x07)
  | 'b' => some (Char.ofNat 0x08)
  | 't' | '\t' => some '\t'
  | 'n' => some '\n'
  | 'v' => some (Char.ofNat 0x0B)
  | 'f' => some (Char.ofNat 0x0C)
  | 'r' => some '\r'
  | 'e' => some (Char.ofNat 0x1B)
  | ' ' => some ' '
  | '"' => some '"'
  | '\\' => some '\\'
  | '/' => some '/'
  | 'N' => some (Char.ofNat 0x85)
  | '_' => some (Char.ofNat 0xA0)
  | 'L' => some (Char.ofNat 0x2028)
  | 'P' => some (Char.ofNat 0x2029)
  | _ => none

/-- How many hexadecimal digits an escape takes. -/
def escapeWidth? : Char → Option Nat
  | 'x' => some 2
  | 'u' => some 4
  | 'U' => some 8
  | _ => none

def hexValue? (c : Char) : Option Nat :=
  if c.isDigit then some (c.toNat - '0'.toNat)
  else if 'a' ≤ c && c ≤ 'f' then some (c.toNat - 'a'.toNat + 10)
  else if 'A' ≤ c && c ≤ 'F' then some (c.toNat - 'A'.toNat + 10)
  else none

def hexNumber? (cs : List Char) : Option Nat :=
  cs.foldl (fun n c => do return (← n) * 16 + (← hexValue? c)) (some 0)

/-- Why a text can not be scanned to its end. -/
inductive ScanFault where
  | malformed
  | noCharacter
  | codeTooLarge
  deriving DecidableEq, Repr

def ScanFault.fault : ScanFault → Fault
  | .malformed => .malformed .yaml
  | .noCharacter => .value .noCharacter
  | .codeTooLarge => .arithmetic .beyondWord

abbrev Scanned (α : Type) := Except ScanFault α

def orMalformed {α : Type} : Option α → Scanned α
  | some a => .ok a
  | none => .error .malformed

/-- A code that an escape gives by its number; halves of characters count as well. -/
def escapedCode (code : Nat) : Scanned Nat :=
  if code < 0x110000 then .ok code
  else if code < Nat.pow 2 31 then .error .noCharacter
  else .error .codeTooLarge

def codesOf (cs : List Char) : Text.Codes := cs.map Char.toNat

/-- What an escape stands for; the cursor is behind the backslash. -/
def escaped (c : Cursor) : Scanned (Text.Codes × Cursor) := do
  let x ← orMalformed c.next
  match simpleEscape? x, escapeWidth? x with
  | some y, _ => return ([y.toNat], c.step)
  | none, some width =>
    let digits := (c.rest.drop 1).take width
    if digits.length < width then throw .malformed
    return ([← escapedCode (← orMalformed (hexNumber? digits))], c.skip (width + 1))
  | none, none =>
    let (_, c) ← orMalformed c.lineBreak?
    let (bs, c) ← orMalformed (quotedBreaks (c.rest.length + 1) c)
    return (codesOf bs, c)

/-- A gap in a quoted scalar; at the end of a line it is dropped with the break. -/
def quotedGap (c : Cursor) : Scanned (Text.Codes × Cursor) := do
  let (gap, c) := c.span isGap
  match c.lineBreak? with
  | some (b, c) =>
    let (bs, c) ← orMalformed (quotedBreaks (c.rest.length + 1) c)
    return (codesOf (foldBreak b bs), c)
  | none => return (codesOf gap, c)

/-- The codes of a quoted scalar up to its closing quote. -/
def quoted (double : Bool) : Nat → Cursor → Scanned (Text.Codes × Cursor)
  | 0, _ => .error .malformed
  | n + 1, c => match c.rest with
    | [] => .error .malformed
    | x :: r => do
      let more (part : Text.Codes) (c : Cursor) : Scanned (Text.Codes × Cursor) := do
        let (cs, c) ← quoted double n c
        return (part ++ cs, c)
      if double && x == '"' then return ([], c.step)
      else if double && x == '\\' then
        let (part, c) ← escaped c.step
        more part c
      else if !double && x == '\'' then
        if r.head? == some '\'' then more ['\''.toNat] (c.skip 2) else return ([], c.step)
      else if isGap x || isBreak x then
        let (part, c) ← quotedGap c
        more part c
      else more [x.toNat] c.step

/-! Plain scalars. -/

/-- In a flow collection its marks end a plain scalar. -/
def isFlowMark (c : Char) : Bool := c == ',' || c == '[' || c == ']' || c == '\x7b' || c == '\x7d'

/-- A word of a plain scalar. -/
def plainWord (flow : Bool) : List Char → List Char
  | [] => []
  | x :: r =>
    if endsWord (some x) || (x == ':' && (endsWord r.head? || (flow && r.head?.any isFlowMark))) ||
        (flow && (isFlowMark x || x == '?')) then []
    else x :: plainWord flow r

/-- Whether it does not show if a colon ends a word here. -/
def isCutAtColon (c : Cursor) : Bool := c.lacks 2 && c.next == some ':'

/-- Spaces and line breaks within a plain scalar; no line breaks if a document ends there. -/
def plainBreaks? : Nat → Cursor → Option (Option (List Char) × Cursor)
  | 0, c => some (some [], c)
  | n + 1, c =>
    if c.isCutShort then none
    else if c.atSeparator then some (none, c)
    else
      let c := c.skipSpaces
      match c.lineBreak? with
      | none => some (some [], c)
      | some (b, c) => (plainBreaks? n c).map fun (bs, c) => (bs.map (b :: ·), c)

/-- What stands between two words of a plain scalar, whether a line ended there, and the place after
it. Without anything between, the scalar ends. -/
def plainGap? (c : Cursor) : Option (List Char × Bool × Cursor) :=
  let (gap, c) := c.span (· == ' ')
  match c.lineBreak? with
  | none => some (gap, false, c)
  | some (b, c) => (plainBreaks? (c.rest.length + 1) c).map fun (bs, c) =>
    ((bs.map (foldBreak b)).getD [], true, c)

/-- The characters of a plain scalar, and whether it ended at the end of a line. Outside of flow
collections its lines stand at column `floor` or beyond. -/
def plain? (flow : Bool) (floor : Nat) :
    Nat → List Char → Bool → Cursor → Option (List Char × Bool × Cursor)
  | 0, _, ended, c => some ([], ended, c)
  | n + 1, gap, ended, c => do
    let word := plainWord flow c.rest
    if isCutAtColon (c.skip word.length) then none
    if word.isEmpty then return ([], ended, c)
    let (gap', ended', c') ← plainGap? (c.skip word.length)
    if gap'.isEmpty || c'.next == some '#' || (!flow && c'.column < floor) then
      return (gap ++ word, ended', c')
    let (cs, ended', c') ← plain? flow floor n gap' ended' c'
    return (gap ++ word ++ cs, ended', c')

/-! Block scalars. -/

/-- What becomes of the line breaks at the end of a block scalar: all but the first one are dropped,
or all, or none. -/
inductive Chomping where
  | clip
  | strip
  | keep
  deriving DecidableEq, Repr

def chomping? : Option Char → Option Chomping
  | some '-' => some .strip
  | some '+' => some .keep
  | _ => none

def indentMark? : Option Char → Option Nat
  | some c => if c.isDigit then some (c.toNat - '0'.toNat) else none
  | none => none

/-- The marks after `|` or `>`: chomping and indentation, in either order. -/
def blockHeader? (c : Cursor) : Option (Chomping × Option Nat × Cursor) := do
  let (chomp, depth, c) := match chomping? c.next, indentMark? c.next with
    | some h, _ => match indentMark? (c.peek 1) with
      | some d => (h, some d, c.skip 2)
      | none => (h, none, c.step)
    | none, some d => match chomping? (c.peek 1) with
      | some h => (h, some d, c.skip 2)
      | none => (.clip, some d, c.step)
    | none, none => (.clip, none, c)
  if depth == some 0 || !endsPart c.next then none
  return (chomp, depth, ← c.skipComment)

/-- The line breaks from here on, past indentation. -/
def blockBreaks (indent : Nat) : Nat → Cursor → List Char × Cursor
  | 0, c => ([], c)
  | n + 1, c =>
    let c := c.skipIndent indent
    match c.lineBreak? with
    | none => ([], c)
    | some (b, c) =>
      let (bs, c) := blockBreaks indent n c
      (b :: bs, c)

/-- The line breaks before the first line with a text, and the greatest indentation on the way. -/
def blockLead : Nat → Nat → Cursor → List Char × Nat × Cursor
  | 0, deepest, c => ([], deepest, c)
  | n + 1, deepest, c =>
    let c' := c.skipSpaces
    let deepest := if c'.index == c.index then deepest else max deepest c'.column
    match c'.lineBreak? with
    | none => ([], deepest, c')
    | some (b, c) =>
      let (bs, deepest, c) := blockLead n deepest c
      (b :: bs, deepest, c)

/-- The last line break of a block scalar and those after it. -/
structure BlockTail where
  last : Option Char
  further : List Char

def blockLines (folded : Bool) (indent : Nat) :
    Nat → List Char → Cursor → List Char × BlockTail × Cursor
  | 0, breaks, c => ([], ⟨none, breaks⟩, c)
  | n + 1, breaks, c =>
    if c.column != indent || c.atEnd then ([], ⟨none, breaks⟩, c)
    else
      let (line, c) := c.span (!isBreak ·)
      let (last, c) := match c.lineBreak? with
        | some (b, c) => (some b, c)
        | none => (none, c)
      let (further, c) := blockBreaks indent (c.rest.length + 1) c
      if c.column != indent || c.atEnd then (breaks ++ line, ⟨last, further⟩, c)
      else
        let flush (x : Option Char) := !x.any isGap
        let joint := if folded && last == some '\n' && flush line.head? && flush c.next then
          (if further.isEmpty then [' '] else []) else last.toList
        let (cs, tail, c) := blockLines folded indent n further c
        (breaks ++ line ++ joint ++ cs, tail, c)

def chomp (h : Chomping) (tail : BlockTail) : List Char :=
  match h with
  | .clip => tail.last.toList
  | .strip => []
  | .keep => tail.last.toList ++ tail.further

/-- A block scalar; the cursor is behind its mark. -/
def block? (folded : Bool) (floor : Nat) (c : Cursor) : Option (List Char × Cursor) := do
  let (h, depth, c) ← blockHeader? c
  let floor := max floor 1
  let (breaks, indent, c) := match depth with
    | some d =>
      let indent := floor + d - 1
      let (bs, c) := blockBreaks indent (c.rest.length + 1) c
      (bs, indent, c)
    | none =>
      let (bs, deepest, c) := blockLead (c.rest.length + 1) 0 c
      (bs, max floor deepest, c)
  let (cs, tail, c) := blockLines folded indent (c.rest.length + 1) breaks c
  return (cs ++ chomp h tail, c)

end CharacterSheet.Data.Yaml
