import CharacterSheet.Data.Sets
import CharacterSheet.Data.Yaml.Node
import CharacterSheet.Data.Yaml.Schema

/-!
YAML 1.1 text as values. Nodes become values level by level, so that of two nodes without a value
the one that is less deep is found first. The key `<<` of a mapping takes over the entries of other
mappings, which come before its own.
-/
namespace CharacterSheet.Data.Yaml

/-- What kind of value a node makes. -/
inductive Kind where
  | plain
  | null
  | bool
  | integer
  | real
  | bytes
  | time
  | text
  | list
  | map
  | set
  | pairs
  | merge
  | value
  | unknown
  deriving DecidableEq, Repr

def malformed {α : Type} : Result α := .error (.malformed .yaml)

namespace Kind

def standardTag (tag : String) : String := "tag:yaml.org,2002:" ++ tag

def ofTagNames : List (String × Kind) :=
  [("null", .null), ("bool", .bool), ("int", .integer), ("float", .real), ("binary", .bytes),
    ("timestamp", .time), ("str", .text), ("seq", .list), ("map", .map), ("set", .set),
    ("pairs", .pairs), ("omap", .pairs), ("merge", .merge), ("value", .value)]

def ofTag (tag : String) : Kind :=
  ((ofTagNames.find? fun t => standardTag t.1 == tag).map Prod.snd).getD .unknown

/-- Plain scalars of two texts only make sense as keys. -/
def ofPlain (cs : Text.Codes) : Kind :=
  if cs == Text.codes "<<" then .merge else if cs == Text.codes "=" then .value else .plain

def ofNode : Node → Kind
  | .scalar (.named t) _ | .sequence (.named t) _ | .mapping (.named t) _ => ofTag t
  | .scalar .unsaid _ => .text
  | .scalar .plain cs => ofPlain cs
  | .sequence _ _ => .list
  | .mapping _ _ => .map

def isCollection : Kind → Bool
  | .list | .map | .set | .pairs => true
  | _ => false

end Kind

namespace Graph

def node (g : Graph) (i : Nat) : Node := g.getD i Node.absent

def kind (g : Graph) (i : Nat) : Kind := .ofNode (g.node i)

def entries (g : Graph) (i : Nat) : List (Nat × Nat) :=
  match g.node i with
  | .mapping _ es => es
  | _ => []

def setEntries (g : Graph) (i : Nat) (es : List (Nat × Nat)) : Graph :=
  match g.node i with
  | .mapping tag _ => g.setIfInBounds i (.mapping tag es)
  | _ => g

/-- Makes a text of a node. -/
def setText (g : Graph) (i : Nat) : Graph :=
  g.setIfInBounds i (match g.node i with
    | .scalar _ cs => .scalar .unsaid cs
    | .sequence _ xs => .sequence (.named (Kind.standardTag "str")) xs
    | .mapping _ es => .mapping (.named (Kind.standardTag "str")) es)

/-- How many parts all the collections have together. -/
def partCount (g : Graph) : Nat :=
  g.foldl (fun n x => match x with
    | .scalar .. => n
    | .sequence _ xs => n + xs.length
    | .mapping _ es => n + es.length) 0

/-- A bound on how long a walk can get that enters no collection twice. -/
def walkBound (g : Graph) : Nat := (g.partCount + 2) * (g.size + 2)

/-! Merging. -/

/-- Whether a mapping takes over no entries, and has none for its value. -/
def isFlat (g : Graph) (m : Nat) : Bool :=
  !(g.entries m).any fun e => g.kind e.1 == .merge || g.kind e.1 == .value

mutual

/-- Takes over the entries of other mappings into a mapping; `i` entries of it were looked at, and
`taken` are those taken over. -/
def flattenFrom : Nat → Nat → Nat → List (Nat × Nat) → Graph → Result Graph
  | 0, _, _, _, _ => .error .endless
  | fuel + 1, m, i, taken, g =>
    match (g.entries m)[i]? with
    | none => .ok (if taken.isEmpty then g else g.setEntries m (taken ++ g.entries m))
    | some (k, v) => match g.kind k with
      | .merge => do
        let g := g.setEntries m ((g.entries m).eraseIdx i)
        let (more, g) ← match g.node v with
          | .scalar .. => malformed
          | .mapping .. => do
            let g ← if g.isFlat v then pure g else flattenFrom fuel v 0 [] g
            pure (g.entries v, g)
          | .sequence _ xs => flattenAll fuel xs [] g
        flattenFrom fuel m i (taken ++ more) g
      | .value => flattenFrom fuel m (i + 1) taken (g.setText k)
      | _ => flattenFrom fuel m (i + 1) taken g

/-- The entries of several mappings, of which the first ones come last. -/
def flattenAll : Nat → List Nat → List (Nat × Nat) → Graph → Result (List (Nat × Nat) × Graph)
  | 0, _, _, _ => .error .endless
  | _ + 1, [], taken, g => .ok (taken, g)
  | fuel + 1, x :: r, taken, g =>
    match g.node x with
    | .mapping .. => do
      let g ← if g.isFlat x then pure g else flattenFrom fuel x 0 [] g
      flattenAll fuel r (g.entries x ++ taken) g
    | _ => malformed

end

def flatten (g : Graph) (m : Nat) : Result Graph :=
  if g.isFlat m then .ok g else flattenFrom g.walkBound m 0 [] g

/-! Scalars. -/

/-- The text of a node that is to be a scalar. A mapping has one if it has an entry for its value.
-/
def scalarText : Nat → Nat → Graph → Result Text.Codes
  | 0, _, _ => .error .endless
  | fuel + 1, i, g =>
    match g.node i with
    | .scalar _ cs => .ok cs
    | .sequence .. => malformed
    | .mapping _ es => match es.find? fun e => g.kind e.1 == .value with
      | some (_, v) => scalarText fuel v g
      | none => malformed

/-- The value of a node that is no collection. Only a scalar itself can be a day or a moment. -/
def scalarValue (g : Graph) (i : Nat) : Result Data := do
  let text (_ : Unit) : Result Text.Codes := scalarText (g.size + 1) i g
  match g.kind i with
  | .plain => plainValue (← text ())
  | .null => do
    let _ ← text ()
    return .null
  | .bool => truthOf (← text ())
  | .integer => return .int (← integerOf (← text ()))
  | .real => realOf (← text ())
  | .bytes => bytesOf (← text ())
  | .time => do
    let cs ← text ()
    match g.node i with
    | .scalar .. => timeOf cs
    | _ => throw .wrongKind
  | .text => return .ofCodes (← text ())
  | _ => malformed

/-! Checking. -/

/-- How far the nodes of a graph were looked at: the collections still to come, in order, and all
that were met. -/
structure Search where
  nodes : Graph
  queue : List Nat
  met : Array Bool

namespace Search

/-- Meets a node: a collection has to wait, and a scalar has to have a value. -/
def meet (s : Search) (i : Nat) : Result Search :=
  if s.met.getD i false then .ok s
  else
    let s := { s with met := s.met.setIfInBounds i true }
    if (s.nodes.kind i).isCollection then .ok { s with queue := s.queue ++ [i] }
    else do
      let _ ← s.nodes.scalarValue i
      return s

/-- No collection is a key. -/
def meetEntry (hasKey : Bool) (s : Search) (e : Nat × Nat) : Result Search := do
  let s ← s.meet e.1
  if hasKey && (s.nodes.kind e.1).isCollection then malformed
  s.meet e.2

/-- The entry of a mapping that has no other. -/
def loneEntry (s : Search) (i : Nat) : Result (Nat × Nat) :=
  match s.nodes.node i with
  | .mapping _ [e] => .ok e
  | _ => malformed

/-- Meets the parts of a collection, which has to be written as its kind asks for. -/
def visit (s : Search) (i : Nat) : Result Search :=
  match s.nodes.kind i, s.nodes.node i with
  | .list, .sequence _ xs => xs.foldlM meet s
  | .map, .mapping _ _ | .set, .mapping _ _ => do
    let nodes ← s.nodes.flatten i
    (nodes.entries i).foldlM (meetEntry true) { s with nodes }
  | .pairs, .sequence _ xs => xs.foldlM (fun s x => do s.meetEntry false (← s.loneEntry x)) s
  | _, _ => malformed

/-- Visits the collections in the order in which they were met. -/
def run : Nat → Search → Result Graph
  | 0, _ => .error .endless
  | fuel + 1, s =>
    match s.queue with
    | [] => .ok s.nodes
    | i :: r => do run fuel (← { s with queue := r }.visit i)

end Search

/-! Values. -/

/-- A value that stands in some collections, with the numbers of those among them that it contains
again. -/
structure Part where
  value : Data
  again : List Nat

mutual

/-- Reads a value off a graph whose nodes all have one. A collection that contains itself again is a
loop. -/
def part (g : Graph) : Nat → List Nat → Nat → Part
  | 0, _, _ => ⟨.null, []⟩
  | fuel + 1, around, i =>
    if around.contains i then ⟨.back i, [i]⟩
    else
      let around := i :: around
      let enclosed (p : Part) : Part :=
        if p.again.isEmpty then p else ⟨.loop i p.value, p.again.filter (· != i)⟩
      match g.kind i, g.node i with
      | .list, .sequence _ xs =>
        let (vs, again) := parts g fuel around xs
        enclosed ⟨.list vs, again⟩
      | .map, .mapping _ es =>
        let (vs, again) := entryParts g fuel around es
        enclosed ⟨.ofEntries vs, again⟩
      | .set, .mapping _ es =>
        let (vs, again) := entryParts g fuel around es
        enclosed ⟨setOfKeys (putAll vs []), again⟩
      | .pairs, .sequence _ xs =>
        let (vs, again) := entryParts g fuel around (xs.flatMap g.entries)
        enclosed ⟨.list (vs.map fun e => .tuple [e.1, e.2]), again⟩
      | _, _ => ⟨(g.scalarValue i).toOption.getD .null, []⟩

def parts (g : Graph) : Nat → List Nat → List Nat → List Data × List Nat
  | 0, _, _ => ([], [])
  | _ + 1, _, [] => ([], [])
  | fuel + 1, around, x :: r =>
    let p := part g fuel around x
    let (vs, again) := parts g fuel around r
    (p.value :: vs, p.again ++ again)

def entryParts (g : Graph) : Nat → List Nat → List (Nat × Nat) → List (Data × Data) × List Nat
  | 0, _, _ => ([], [])
  | _ + 1, _, [] => ([], [])
  | fuel + 1, around, (k, v) :: r =>
    let p := part g fuel around k
    let q := part g fuel around v
    let (es, again) := entryParts g fuel around r
    ((p.value, q.value) :: es, p.again ++ q.again ++ again)

end

end Graph

def Document.value (d : Document) : Result Data := do
  let s ← Graph.Search.meet ⟨d.nodes, [], .replicate d.nodes.size false⟩ d.root
  let g ← s.run (d.nodes.size + 1)
  return (g.part g.walkBound [] d.root).value

/-- The values of some documents up to the first one that has none. -/
def documentValues (fault : Option Fault) : List Document → Documents
  | [] => ⟨[], fault⟩
  | d :: r => match d.value with
    | .ok v => (documentValues fault r).cons v
    | .error f => .failed f

def read (s : String) : Documents :=
  let ds := Node.documents s
  documentValues ds.fault ds.items

end CharacterSheet.Data.Yaml
