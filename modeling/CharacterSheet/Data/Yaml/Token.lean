import CharacterSheet.Data.Yaml.Scalar

/-!
The tokens of a text. Indentation gives the starts and ends of block collections. A mapping's key is
known for one only when its colon comes: until then it is a possible key, and the mark for a key is
put in before it later on. Where no further token can be read, the last one says why.
-/
namespace CharacterSheet.Data.Yaml

inductive Token where
  | version (major : Nat)
  | handle (name replacement : String)
  | directive
  | documentStart
  | documentEnd
  | endOfText
  | blockSequence
  | blockMapping
  | blockEnd
  | flowSequence
  | flowSequenceEnd
  | flowMapping
  | flowMappingEnd
  | flowEntry
  | blockEntry
  | key
  | value
  | alias (name : String)
  | anchor (name : String)
  | tag (handle : Option String) (suffix : String)
  | scalar (isPlain : Bool) (text : Text.Codes)
  | failure (cause : ScanFault)
  deriving DecidableEq, Repr

/-- A token that may turn out to begin a key, by its position among the tokens. It has to, if it
stands where only a key may stand. -/
structure PossibleKey where
  level : Nat
  position : Nat
  required : Bool
  start : Cursor

/-- `floor` is the least column of what belongs to the innermost block collection, or zero outside
of all, and `floors` are those of the collections around it. `level` counts the flow collections
that are open. -/
structure Scan where
  cursor : Cursor
  tokens : Array Token
  floor : Nat
  floors : List Nat
  level : Nat
  keys : List PossibleKey
  keyAllowed : Bool

namespace Scan

def start (cs : List Char) (isCut : Bool) : Scan := ⟨.start cs isCut, #[], 0, [], 0, [], true⟩

def inFlow (s : Scan) : Bool := s.level != 0

def emit (s : Scan) (t : Token) : Scan := { s with tokens := s.tokens.push t }

/-! Possible keys. -/

/-- A key stands on one line and is no longer than this. -/
def longestKey : Nat := 1024

def isStale (s : Scan) (k : PossibleKey) : Bool :=
  k.start.line != s.cursor.line || longestKey < s.cursor.index - k.start.index

def dropStale? (s : Scan) : Option Scan :=
  if s.keys.any fun k => k.required && s.isStale k then none
  else some { s with keys := s.keys.filter fun k => !s.isStale k }

def possibleKey? (s : Scan) : Option PossibleKey := s.keys.find? fun k => k.level == s.level

def dropKey (s : Scan) : Scan := { s with keys := s.keys.filter fun k => k.level != s.level }

/-- Gives up the possible key of this level. -/
def refuseKey? (s : Scan) : Option Scan :=
  if s.possibleKey?.any PossibleKey.required then none else some s.dropKey

/-- Takes what comes next for a possible key. -/
def expectKey? (s : Scan) : Option Scan :=
  if !s.keyAllowed then some s
  else do
    let s ← s.refuseKey?
    let required := !s.inFlow && s.floor == s.cursor.column + 1
    return { s with keys := ⟨s.level, s.tokens.size, required, s.cursor⟩ :: s.keys }

/-! Indentation. -/

def closeBlocks (bound : Nat) : Nat → List Nat → Array Token → Nat × List Nat × Array Token
  | floor, [], ts => (floor, [], ts)
  | floor, outer :: r, ts =>
    if bound < floor then closeBlocks bound outer r (ts.push .blockEnd) else (floor, outer :: r, ts)

/-- Ends the block collections whose parts stand beyond a column. -/
def closeTo (bound : Nat) (s : Scan) : Scan :=
  if s.inFlow then s
  else
    let (floor, floors, tokens) := closeBlocks bound s.floor s.floors s.tokens
    { s with floor, floors, tokens }

/-- Starts a block collection at a column, unless one stands there. Its token goes to a position
among the tokens. -/
def openAt (column position : Nat) (t : Token) (s : Scan) : Scan :=
  if s.inFlow || column < s.floor then s
  else { s with floor := column + 1, floors := s.floor :: s.floors,
                tokens := s.tokens.insertIdxIfInBounds position t }

def openHere (t : Token) (s : Scan) : Scan := s.openAt s.cursor.column s.tokens.size t

/-! The parts of a text. -/

def advance (n : Nat) (s : Scan) : Scan := { s with cursor := s.cursor.skip n }

/-- Passes over spaces, comments and line ends. A key may stand on a new line. -/
def skipBlank : Nat → Scan → Scan
  | 0, s => s
  | n + 1, s =>
    let c := s.cursor.skipSpaces
    let c := if c.next == some '#' then c.skipWhile (!isBreak ·) else c
    match c.lineBreak? with
    | some (_, c) => skipBlank n { s with cursor := c, keyAllowed := s.keyAllowed || !s.inFlow }
    | none => { s with cursor := c }

def toNext (s : Scan) : Scan :=
  let c := s.cursor
  let c := if c.index == 0 && c.next == some '\uFEFF' then c.step else c
  skipBlank (c.rest.length + 1) { s with cursor := c }

def isNameChar (c : Char) : Bool := c.isAlphanum || c == '-' || c == '_'

def name? (c : Cursor) : Option (String × Cursor) :=
  let (cs, c) := c.span isNameChar
  if cs.isEmpty then none else some (String.ofList cs, c)

def indicator (t : Token) (width : Nat) (s : Scan) : Scan := (s.emit t).advance width

def documentMark? (t : Token) (s : Scan) : Option Scan := do
  let s ← (s.closeTo 0).refuseKey?
  return { s with keyAllowed := false }.indicator t 3

def flowStart? (t : Token) (s : Scan) : Option Scan := do
  let s ← s.expectKey?
  return { s with keyAllowed := true, level := s.level + 1 }.indicator t 1

def flowEnd? (t : Token) (s : Scan) : Option Scan := do
  let s ← s.refuseKey?
  return { s with keyAllowed := false, level := s.level - 1 }.indicator t 1

def flowEntry? (s : Scan) : Option Scan := do
  let s ← { s with keyAllowed := true }.refuseKey?
  return s.indicator .flowEntry 1

def blockEntry? (s : Scan) : Option Scan := do
  if !s.inFlow && !s.keyAllowed then none
  let s ← { s.openHere .blockSequence with keyAllowed := true }.refuseKey?
  return s.indicator .blockEntry 1

def key? (s : Scan) : Option Scan := do
  if !s.inFlow && !s.keyAllowed then none
  let s ← { s.openHere .blockMapping with keyAllowed := !s.inFlow }.refuseKey?
  return s.indicator .key 1

/-- A colon makes a key of the possible key before it. -/
def value? (s : Scan) : Option Scan :=
  match s.possibleKey? with
  | some k =>
    let s := { s.dropKey with tokens := s.tokens.insertIdxIfInBounds k.position .key }
    some ({ s.openAt k.start.column k.position .blockMapping with keyAllowed := false }.indicator
      .value 1)
  | none => do
    if !s.inFlow && !s.keyAllowed then none
    let s ← { s.openHere .blockMapping with keyAllowed := !s.inFlow }.refuseKey?
    return s.indicator .value 1

def endsName : Option Char → Bool
  | none => true
  | some c => endsWord (some c) || "?:,]\x7d%@\x60".toList.contains c

def named? (make : String → Token) (s : Scan) : Option Scan := do
  let s ← s.expectKey?
  let (name, c) ← name? s.cursor.step
  if !endsName c.next then none
  return { s with keyAllowed := false, cursor := c }.emit (make name)

/-! Tags. -/

def isTagChar (c : Char) : Bool := c.isAlphanum || "-;/?:@&=+$,_.!~*\x27()[]".toList.contains c

def byte? : List Char → Option UInt8
  | [a, b] => (hexNumber? [a, b]).map UInt8.ofNat
  | _ => none

/-- The bytes of escapes that follow each other. -/
def escapedBytes : Nat → List Char → Option (List UInt8 × List Char)
  | 0, cs => some ([], cs)
  | n + 1, '%' :: r => do
    let b ← byte? (r.take 2)
    let (bs, r) ← escapedBytes n (r.drop 2)
    return (b :: bs, r)
  | _ + 1, cs => some ([], cs)

def tagChars? : Nat → List Char → Option (List Char × Nat)
  | 0, _ => some ([], 0)
  | _ + 1, [] => some ([], 0)
  | n + 1, x :: r =>
    if x == '%' then do
      let (bs, r') ← escapedBytes (r.length + 1) (x :: r)
      let s ← String.fromUTF8? ⟨bs.toArray⟩
      let (cs, m) ← tagChars? n r'
      return (s.toList ++ cs, m + 3 * bs.length)
    else if isTagChar x then (tagChars? n r).map fun (cs, m) => (x :: cs, m + 1)
    else some ([], 0)

def tagText? (c : Cursor) : Option (String × Cursor) := do
  let (cs, width) ← tagChars? (c.rest.length + 1) c.rest
  if width == 0 then none
  return (String.ofList cs, c.skip width)

/-- A handle: a mark, or a name between two marks. -/
def handle? (c : Cursor) : Option (String × Cursor) := do
  if c.next != some '!' then none
  if c.peek 1 == some ' ' then return ("!", c.step)
  let (name, c) := c.step.span isNameChar
  if c.next != some '!' then none
  return ("!" ++ String.ofList name ++ "!", c.step)

def tagToken? (c : Cursor) : Option (Token × Cursor) := do
  let (t, c) ← match c.peek 1 with
    | some '<' => do
      let (suffix, c) ← tagText? (c.skip 2)
      if c.next != some '>' then none
      pure (Token.tag none suffix, c.step)
    | x =>
      if endsWord x then pure (Token.tag none "!", c.step)
      else do
        let word := c.step.rest.takeWhile fun x => !endsPart (some x)
        let (handle, c) ← if word.contains '!' then handle? c else pure ("!", c.step)
        let (suffix, c) ← tagText? c
        pure (Token.tag (some handle) suffix, c)
  if !endsPart c.next then none
  return (t, c)

def tagged? (s : Scan) : Option Scan := do
  let s ← s.expectKey?
  let (t, c) ← tagToken? s.cursor
  return { s with keyAllowed := false, cursor := c }.emit t

/-! Directives. -/

def number? (c : Cursor) : Option (Nat × Cursor) :=
  let (ds, c) := c.span Char.isDigit
  if ds.isEmpty then none
  else some (ds.foldl (fun n d => n * 10 + (d.toNat - '0'.toNat)) 0, c)

def versionDirective? (c : Cursor) : Option (Token × Cursor) := do
  let (major, c) ← number? c.skipSpaces
  if c.next != some '.' then none
  let (_, c) ← number? c.step
  if !endsPart c.next then none
  return (.version major, c)

def handleDirective? (c : Cursor) : Option (Token × Cursor) := do
  let (name, c) ← handle? c.skipSpaces
  if c.next != some ' ' then none
  let (replacement, c) ← tagText? c.skipSpaces
  if !endsPart c.next then none
  return (.handle name replacement, c)

def directive? (s : Scan) : Option Scan := do
  let s ← (s.closeTo 0).refuseKey?
  let (name, c) ← name? s.cursor.step
  if !endsPart c.next then none
  let (t, c) ← match name with
    | "YAML" => versionDirective? c
    | "TAG" => handleDirective? c
    | _ => pure (Token.directive, c.skipWhile (!isBreak ·))
  return { s with keyAllowed := false, cursor := ← c.skipComment }.emit t

/-! Scalars. -/

def quotedToken (double : Bool) (s : Scan) : Scanned Scan := do
  let s ← orMalformed s.expectKey?
  let c := s.cursor.step
  let (cs, c) ← quoted double (c.rest.length + 1) c
  return { s with keyAllowed := false, cursor := c }.emit (.scalar false cs)

def plainToken? (s : Scan) : Option Scan := do
  let s ← s.expectKey?
  let (cs, ended, c) ← plain? s.inFlow s.floor (s.cursor.rest.length + 1) [] false s.cursor
  return { s with keyAllowed := ended, cursor := c }.emit (.scalar true (codesOf cs))

def blockToken? (folded : Bool) (s : Scan) : Option Scan := do
  let s ← { s with keyAllowed := true }.refuseKey?
  let (cs, c) ← block? folded s.floor s.cursor.step
  return { s with cursor := c }.emit (.scalar false (codesOf cs))

/-- A plain scalar does not begin with one of these; of some it may if no gap follows. -/
def isIndicator (c : Char) : Bool := "-?:,[]\x7b\x7d#&*!|>\x27\x22%@\x60".toList.contains c

def startsPlain (s : Scan) (x : Char) : Bool :=
  !(endsWord (some x) || isIndicator x) ||
    (!endsWord (s.cursor.peek 1) && (x == '-' || (!s.inFlow && (x == '?' || x == ':'))))

def atLineStart (s : Scan) : Bool := s.cursor.column == 0

/-- Scans the token that starts with this character, if it is no quoted scalar. -/
def unquoted? (s : Scan) (x : Char) : Option Scan :=
  let alone := endsWord (s.cursor.peek 1)
  if x == '%' && s.atLineStart then s.directive?
  else if s.atLineStart && s.cursor.atMarks "---" then s.documentMark? .documentStart
  else if s.atLineStart && s.cursor.atMarks "..." then s.documentMark? .documentEnd
  else if x == '[' then s.flowStart? .flowSequence
  else if x == '\x7b' then s.flowStart? .flowMapping
  else if x == ']' then s.flowEnd? .flowSequenceEnd
  else if x == '\x7d' then s.flowEnd? .flowMappingEnd
  else if x == ',' then s.flowEntry?
  else if x == '-' && alone then s.blockEntry?
  else if x == '?' && (s.inFlow || alone) then s.key?
  else if x == ':' && (s.inFlow || alone) then s.value?
  else if x == '*' then s.named? .alias
  else if x == '&' then s.named? .anchor
  else if x == '!' then s.tagged?
  else if x == '|' && !s.inFlow then s.blockToken? false
  else if x == '>' && !s.inFlow then s.blockToken? true
  else if s.startsPlain x then s.plainToken?
  else none

def token (s : Scan) (x : Char) : Scanned Scan :=
  if x == '\'' then s.quotedToken false
  else if x == '"' then s.quotedToken true
  else orMalformed (s.unquoted? x)

/-- An end of a flow collection where none is open; nothing can be read after it. -/
def isStray (s : Scan) (x : Char) : Bool := !s.inFlow && (x == ']' || x == '\x7d')

/-- The tokens that no later colon can change. -/
def settled (s : Scan) : List Token :=
  s.tokens.toList.take (s.keys.foldl (fun n k => min n k.position) s.tokens.size)

def stopped (s : Scan) (cause : ScanFault) : List Token := s.settled ++ [.failure cause]

/-- A text that is cut does not end. -/
def refuseEnd (s : Scan) : Scanned Unit := if s.cursor.lacks 1 then .error .malformed else .ok ()

/-- Where a line starts with these, it has to show whether documents part there. -/
def refuseCut (s : Scan) (x : Char) : Scanned Unit :=
  if s.atLineStart && (x == '-' || x == '.') && s.cursor.isCutShort then .error .malformed
  else .ok ()

/-- Scans one token, and says whether it is the last one. -/
def more (s : Scan) : Scanned (Scan × Bool) := do
  let s ← orMalformed s.toNext.dropStale?
  s.refuseEnd
  let s := s.closeTo (s.cursor.column + 1)
  match s.cursor.next with
  | some x =>
    s.refuseCut x
    let t ← s.token x
    t.refuseEnd
    return (t, s.isStray x)
  | none =>
    let s ← orMalformed (s.closeTo 0).refuseKey?
    return ({ s with keys := [] }.emit .endOfText, true)

end Scan

def tokensWithin : Nat → Scan → List Token
  | 0, s => s.stopped .malformed
  | n + 1, s =>
    match s.dropStale? with
    | none => s.stopped .malformed
    | some s => match s.more with
      | .error cause => s.stopped cause
      | .ok (t, true) => t.stopped .malformed
      | .ok (t, false) => tokensWithin n t

/-- The tokens of a text, or of one that is cut. -/
def tokensOf (isCut : Bool) (cs : List Char) : List Token :=
  tokensWithin (cs.length + 1) (.start cs isCut)

end CharacterSheet.Data.Yaml
