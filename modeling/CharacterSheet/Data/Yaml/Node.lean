import CharacterSheet.Data.Readout
import CharacterSheet.Data.Yaml.Token

/-!
The nodes of a document: scalars, sequences and mappings, each with what kind of value it says it
is. A document is a graph: its nodes are numbered, and a collection names its parts by their
numbers. An alias is the number of the node that it names, which may be one around it.
-/
namespace CharacterSheet.Data.Yaml

/-- The tag of a node: left open, or named. -/
inductive Tag where
  | unsaid
  | plain
  | named (name : String)
  deriving DecidableEq, Repr

/-- A scalar without a tag is a text if it is quoted, and otherwise what it looks like. -/
inductive Node where
  | scalar (tag : Tag) (text : Text.Codes)
  | sequence (tag : Tag) (items : List Nat)
  | mapping (tag : Tag) (entries : List (Nat × Nat))
  deriving DecidableEq, Repr

abbrev Graph := Array Node

structure Document where
  nodes : Graph
  root : Nat
  deriving Repr

namespace Node

/-- A part that is not written. -/
def absent : Node := .scalar .plain []

/-- The tokens to come, the nodes read so far, those that have names, and what the handles of tags
stand for. -/
structure Source where
  tokens : List Token
  nodes : Graph
  anchors : List (String × Nat)
  handles : List (String × String)

namespace Source

def start (tokens : List Token) (handles : List (String × String)) : Source :=
  ⟨tokens, #[], [], handles⟩

def next (s : Source) : Option Token := s.tokens.head?

def drop (s : Source) : Source := { s with tokens := s.tokens.drop 1 }

def find? {α : Type} (name : String) (l : List (String × α)) : Option α :=
  (l.find? fun p => p.1 == name).map Prod.snd

/-- What is wrong where the next token makes no sense. -/
def faultAt : List Token → Fault
  | .failure cause :: _ => cause.fault
  | _ => .malformed .yaml

def refuse {α : Type} (s : Source) : Result α := .error (faultAt s.tokens)

def orRefuse {α : Type} (s : Source) : Option α → Result α
  | some a => .ok a
  | none => s.refuse

/-- Looks at the next token: there has to be one. -/
def check (s : Source) : Result Unit :=
  match s.next with
  | some (.failure cause) => .error cause.fault
  | _ => .ok ()

def add (s : Source) (n : Node) : Nat × Source :=
  (s.nodes.size, { s with nodes := s.nodes.push n })

def set (s : Source) (i : Nat) (n : Node) : Source :=
  { s with nodes := s.nodes.setIfInBounds i n }

/-- A name that two nodes bear is refused. -/
def claim? (s : Source) (i : Nat) : Option String → Option Source
  | none => some s
  | some name =>
    if s.anchors.any fun p => p.1 == name then none
    else some { s with anchors := (name, i) :: s.anchors }

def resolve? (s : Source) : Option String → String → Option String
  | none, suffix => some suffix
  | some handle, suffix => (find? handle s.handles).map (· ++ suffix)

end Source

/-- The name and the tag before a node, in either order. -/
structure Properties where
  anchor : Option String
  tag : Option String

def tagOf (s : Source) : Option (Option String × String) → Result (Option String)
  | none => .ok none
  | some (handle, suffix) => do return some (← s.orRefuse (s.resolve? handle suffix))

/-- Handles are looked up when it is clear that no further property follows. -/
def properties (s : Source) : Result (Properties × Source) := do
  let (anchor, tag, s) := match s.tokens with
    | .anchor a :: .tag h x :: _ => (some a, some (h, x), s.drop.drop)
    | .tag h x :: .anchor a :: _ => (some a, some (h, x), s.drop.drop)
    | .anchor a :: _ => (some a, none, s.drop)
    | .tag h x :: _ => (none, some (h, x), s.drop)
    | _ => (none, none, s)
  if anchor.isNone || tag.isNone then s.check
  let tag ← tagOf s tag
  s.check
  return (⟨anchor, tag⟩, s)

/-- The tag of a node that says none, or only that it has none. -/
def Properties.given (p : Properties) (standard : Tag) : Tag :=
  match p.tag with
  | none => standard
  | some "!" => .plain
  | some name => .named name

def Properties.isNone (p : Properties) : Bool := p.anchor.isNone && p.tag.isNone

/-- Where a node stands. The value of an entry in a block may be a sequence that is not indented. -/
inductive Place where
  | block
  | entry
  | flow
  deriving DecidableEq, Repr

/-- A part that may be left out; it is, if one of these tokens comes first. -/
def leftOut (ends : List Token) (s : Source) : Bool := s.next.any ends.contains

mutual

/-- Reads one node. The bound is on the tokens that are read within it. -/
def read : Nat → Place → Source → Result (Nat × Source)
  | 0, _, s => s.refuse
  | n + 1, place, s =>
    match s.next with
    | some (.alias name) => do
      return (← s.orRefuse (Source.find? name s.anchors), s.drop)
    | _ => do
      let (p, s) ← properties s
      let (i, s) := s.add absent
      let s ← s.orRefuse (s.claim? i p.anchor)
      let (node, s) ← content n place p s
      return (i, s.set i node)

def content : Nat → Place → Properties → Source → Result (Node × Source)
  | 0, _, _, s => s.refuse
  | n + 1, place, p, s =>
    let sequence (r : Result (List Nat × Source)) : Result (Node × Source) :=
      r.map fun (xs, s) => (.sequence (p.given .unsaid) xs, s)
    let mapping (r : Result (List (Nat × Nat) × Source)) : Result (Node × Source) :=
      r.map fun (es, s) => (.mapping (p.given .unsaid) es, s)
    match s.next, place with
    | some (.scalar isPlain cs), _ =>
      .ok (.scalar (p.given (if isPlain then .plain else .unsaid)) cs, s.drop)
    | some .flowSequence, _ => sequence (flowItems n true s.drop)
    | some .flowMapping, _ => mapping (flowEntries n true s.drop)
    | some .blockEntry, .entry => sequence (looseItems n s)
    | some .blockSequence, .block | some .blockSequence, .entry => sequence (blockItems n s.drop)
    | some .blockMapping, .block | some .blockMapping, .entry => mapping (blockEntries n s.drop)
    | _, _ => if p.isNone then s.refuse else .ok (.scalar (p.given .plain) [], s)

/-- A node, unless it is left out. -/
def part : Nat → Place → List Token → Source → Result (Nat × Source)
  | 0, _, _, s => s.refuse
  | n + 1, place, ends, s => if leftOut ends s then .ok (s.add absent) else read n place s

def blockItems : Nat → Source → Result (List Nat × Source)
  | 0, s => s.refuse
  | n + 1, s =>
    match s.next with
    | some .blockEntry => do
      let (x, s) ← part n .block [.blockEntry, .blockEnd] s.drop
      let (xs, s) ← blockItems n s
      return (x :: xs, s)
    | some .blockEnd => .ok ([], s.drop)
    | _ => s.refuse

/-- The items of a sequence that is not indented; another token ends it. -/
def looseItems : Nat → Source → Result (List Nat × Source)
  | 0, s => s.refuse
  | n + 1, s =>
    match s.next with
    | some .blockEntry => do
      let (x, s) ← part n .block [.blockEntry, .key, .value, .blockEnd] s.drop
      let (xs, s) ← looseItems n s
      return (x :: xs, s)
    | _ => do
      s.check
      return ([], s)

def blockEntries : Nat → Source → Result (List (Nat × Nat) × Source)
  | 0, s => s.refuse
  | n + 1, s =>
    match s.next with
    | some .key => do
      let (k, s) ← part n .entry [.key, .value, .blockEnd] s.drop
      let (v, s) ← value n .entry [.key, .value, .blockEnd] s
      let (es, s) ← blockEntries n s
      return ((k, v) :: es, s)
    | some .blockEnd => .ok ([], s.drop)
    | _ => s.refuse

/-- What stands behind a colon. -/
def value : Nat → Place → List Token → Source → Result (Nat × Source)
  | 0, _, _, s => s.refuse
  | n + 1, place, ends, s =>
    match s.next with
    | some .value => part n place ends s.drop
    | _ => do
      s.check
      return s.add absent

/-- A lone pair in a flow sequence is a mapping of its own. -/
def flowItem : Nat → Source → Result (Nat × Source)
  | 0, s => s.refuse
  | n + 1, s =>
    match s.next with
    | some .key => do
      let (i, s) := s.drop.add absent
      let (k, s) ← part n .flow [.value, .flowEntry, .flowSequenceEnd] s
      let (v, s) ← value n .flow [.flowEntry, .flowSequenceEnd] s
      return (i, s.set i (.mapping .unsaid [(k, v)]))
    | _ => read n .flow s

def flowItems : Nat → Bool → Source → Result (List Nat × Source)
  | 0, _, s => s.refuse
  | n + 1, first, s => do
    if s.next == some .flowSequenceEnd then return ([], s.drop)
    if !first && s.next != some .flowEntry then s.refuse
    let s := if first then s else s.drop
    if s.next == some .flowSequenceEnd then return ([], s.drop)
    let (x, s) ← flowItem n s
    let (xs, s) ← flowItems n false s
    return (x :: xs, s)

def flowEntry : Nat → Source → Result ((Nat × Nat) × Source)
  | 0, s => s.refuse
  | n + 1, s =>
    match s.next with
    | some .key => do
      let (k, s) ← part n .flow [.value, .flowEntry, .flowMappingEnd] s.drop
      let (v, s) ← value n .flow [.flowEntry, .flowMappingEnd] s
      return ((k, v), s)
    | _ => do
      let (k, s) ← read n .flow s
      let (v, s) := s.add absent
      return ((k, v), s)

def flowEntries : Nat → Bool → Source → Result (List (Nat × Nat) × Source)
  | 0, _, s => s.refuse
  | n + 1, first, s => do
    if s.next == some .flowMappingEnd then return ([], s.drop)
    if !first && s.next != some .flowEntry then s.refuse
    let s := if first then s else s.drop
    if s.next == some .flowMappingEnd then return ([], s.drop)
    let (e, s) ← flowEntry n s
    let (es, s) ← flowEntries n false s
    return (e :: es, s)

end

def rootWithin (s : Source) : Result (Nat × Source) := read (4 * s.tokens.length + 4) .block s

/-! Documents. -/

def standardHandles : List (String × String) := [("!", "!"), ("!!", "tag:yaml.org,2002:")]

/-- What the directives before a document say of its handles. There is one version at most, and it
is known. -/
def directives :
    Bool → List (String × String) → List Token → Result (List (String × String) × List Token)
  | versioned, handles, .version major :: r =>
    if versioned || major != 1 then .error (.malformed .yaml) else directives true handles r
  | versioned, handles, .handle name replacement :: r =>
    if handles.any fun h => h.1 == name then .error (.malformed .yaml)
    else directives versioned ((name, replacement) :: handles) r
  | versioned, handles, .directive :: r => directives versioned handles r
  | _, handles, ts => .ok (handles ++ standardHandles, ts)

/-- A document that begins with its mark may be empty. -/
def markedRoot (s : Source) : Result (Nat × Source) :=
  match s.next with
  | some .documentStart | some .documentEnd | some .endOfText => .ok (s.add absent)
  | some (.version _) | some (.handle _ _) | some .directive => .ok (s.add absent)
  | _ => rootWithin s

/-- Passes over a document's end; the text has to go on somehow. -/
def afterDocument (root : Nat) (s : Source) : Result (Document × List Token) :=
  match s.tokens with
  | .documentEnd :: r => .ok (⟨s.nodes, root⟩, r)
  | ts => do
    s.check
    return (⟨s.nodes, root⟩, ts)

/-- Directives, the mark of a document's start, and the document. -/
def markedDocument (ts : List Token) : Result (Document × List Token) := do
  let (handles, ts) ← directives false [] ts
  let .documentStart :: r := ts | .error (Source.faultAt ts)
  let (root, s) ← markedRoot (.start r handles)
  afterDocument root s

/-- A first document needs no mark. -/
def bareDocument (ts : List Token) : Result (Document × List Token) := do
  let (root, s) ← rootWithin (.start ts standardHandles)
  afterDocument root s

def isMarked : List Token → Bool
  | .version _ :: _ | .handle _ _ :: _ | .directive :: _ | .documentStart :: _ => true
  | _ => false

/-- The documents of a text, up to what can not be read. -/
def documentsWithin : Nat → Bool → List Token → Readout Document
  | 0, _, ts => .failed (Source.faultAt ts)
  | n + 1, first, ts =>
    let ts := if first then ts else ts.dropWhile (· == .documentEnd)
    match ts with
    | .endOfText :: _ => .empty
    | ts => match if first && !isMarked ts then bareDocument ts else markedDocument ts with
      | .ok (d, r) => (documentsWithin n false r).cons d
      | .error f => .failed f

/-! Texts are read in blocks, and a block with a character in it that no text may hold ends the
reading when the first character of the block is needed. -/

/-- Nothing outside of these characters stands in a text. -/
def isReadable (c : Char) : Bool :=
  let n := c.toNat
  n == 0x09 || n == 0x0A || n == 0x0D || (0x20 ≤ n && n ≤ 0x7E) || n == 0x85 ||
    (0xA0 ≤ n && n ≤ 0xD7FF) || (0xE000 ≤ n && n ≤ 0xFFFD) || 0x10000 ≤ n

def blockSize : Nat := 4096

/-- How many bytes of a text come before the end of the first unreadable character. -/
def unreadableAt? (offset : Nat) : List Char → Option Nat
  | [] => none
  | c :: r =>
    let last := offset + c.utf8Size - 1
    if isReadable c then unreadableAt? (last + 1) r else some last

/-- The characters that end within so many bytes. -/
def within (bytes : Nat) : List Char → List Char
  | [] => []
  | c :: r => if c.utf8Size ≤ bytes then c :: within (bytes - c.utf8Size) r else []

/-- The part of a text that can be scanned, and whether it is cut there. The first two blocks are
read at once. -/
def readablePart (cs : List Char) : List Char × Bool :=
  match unreadableAt? 0 cs with
  | none => (cs, false)
  | some last =>
    let blocks := last / blockSize
    (if blocks < 2 then [] else within (blocks * blockSize) cs, true)

def documents (s : String) : Readout Document :=
  let (cs, isCut) := readablePart s.toList
  let ts := tokensOf isCut cs
  documentsWithin (ts.length + 1) true ts

end Node

end CharacterSheet.Data.Yaml
