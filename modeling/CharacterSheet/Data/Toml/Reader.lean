import CharacterSheet.Data.Toml.Scalar

/-!
TOML text as a value. A table may be declared once and no value is overwritten: what was written in
one piece, an array or an inline table, takes no more entries.
-/
namespace CharacterSheet.Data.Toml

abbrev Entries := List (Data × Data)

/-! Nested tables. -/

/-- Changes the table at a path, where missing tables are made. On the way, an array of tables
stands for its last one if `arrays` says so. -/
def update (arrays : Bool) (f : Entries → Option Entries) : List String → Entries → Option Entries
  | [], es => f es
  | k :: path, es => do
    let key : Data := .text k
    let new ← match lookup key es with
      | none => (update arrays f path []).map .map
      | some (.map inner) => (update arrays f path inner).map .map
      | some (.list xs) =>
        if !arrays then none
        else match xs.getLast? with
          | some (.map inner) =>
            (update arrays f path inner).map fun t => .list (xs.dropLast ++ [.map t])
          | _ => none
      | some _ => none
    return put key new es

/-- Writes an entry whose key is new. -/
def addEntry (k : String) (v : Data) (es : Entries) : Option Entries :=
  if (lookup (.text k) es).isSome then none else some (put (.text k) v es)

/-- Adds an empty table to an array of tables. -/
def addTable (k : String) (es : Entries) : Option Entries :=
  match lookup (.text k) es with
  | none => some (put (.text k) (.list [.map []]) es)
  | some (.list xs) => some (put (.text k) (.list (xs ++ [.map []])) es)
  | some _ => none

/-- A path without its last part, and the last part. -/
def splitLast : List String → List String × String
  | [] => ([], "")
  | [k] => ([], k)
  | k :: r =>
    let (path, last) := splitLast r
    (k :: path, last)

def within (paths : List (List String)) (path : List String) : Bool :=
  paths.any fun p => p.isPrefixOf path

def isCollection : Data → Bool
  | .map _ | .list _ => true
  | _ => false

/-! Values. -/

def malformed {α : Type} : Result α := .error (.malformed .toml)

def orMalformed {α : Type} : Option α → Result α
  | some a => .ok a
  | none => malformed

/-- Passes over blanks, line ends and comments. -/
def skipFiller : Nat → List Char → Option (List Char)
  | 0, cs => some cs
  | n + 1, cs => do
    let r := skipLines cs
    match r with
    | '#' :: _ => skipFiller n (← skipComment r)
    | r => return r

mutual

/-- Reads one value; the bound is on how far collections nest and reach. -/
def value : Nat → List Char → Result (Data × List Char)
  | 0, _ => malformed
  | n + 1, cs => match cs with
    | '[' :: r => do
      let (xs, r) ← items n r
      return (.list xs, r)
    | '\x7b' :: r => match skipGaps r with
      | '\x7d' :: r => .ok (.map [], r)
      | r => do
        let (es, r) ← pairs n [] [] r
        return (.map es, r)
    | '"' :: _ | '\'' :: _ => do
      let (s, r) ← orMalformed (string? cs)
      return (.text (String.ofList s), r)
    | cs => do
      let (v, r) ← orMalformed (scalar? cs)
      return (← if (prefixed? cs).isSome then .ok v else v.ofDecimal, r)

/-- The items of an array up to its end; a comma may stand before it. -/
def items : Nat → List Char → Result (List Data × List Char)
  | 0, _ => malformed
  | n + 1, cs => do
    match ← orMalformed (skipFiller (cs.length + 1) cs) with
    | ']' :: r => return ([], r)
    | r => do
      let (x, r) ← value n r
      match ← orMalformed (skipFiller (r.length + 1) r) with
      | ']' :: r => return ([x], r)
      | ',' :: r => do
        let (xs, r) ← items n r
        return (x :: xs, r)
      | _ => malformed

def pair : Nat → List Char → Result (List String × Data × List Char)
  | 0, _ => malformed
  | n + 1, cs => do
    let (key, r) ← orMalformed (key? (cs.length + 1) cs)
    let '=' :: r := r | malformed
    let (v, r) ← value n (skipGaps r)
    return (key, v, r)

/-- The pairs of an inline table up to its end. -/
def pairs :
    Nat → List (List String) → Entries → List Char → Result (Entries × List Char)
  | 0, _, _, _ => malformed
  | n + 1, frozen, es, cs => do
    let (key, v, r) ← pair n cs
    if within frozen key then malformed
    let (path, last) := splitLast key
    let es ← orMalformed (update false (addEntry last v) path es)
    let frozen := if isCollection v then key :: frozen else frozen
    match skipGaps r with
    | '\x7d' :: r => return (es, r)
    | ',' :: r => pairs n frozen es (skipGaps r)
    | _ => malformed

end

/-! Statements. -/

/-- The tables so far, the paths that take no more entries, those that may not be declared again,
those that may not be once the next table is declared, and the table that pairs go to. -/
structure Draft where
  root : Entries
  frozen : List (List String)
  declared : List (List String)
  pending : List (List String)
  header : List String

namespace Draft

def start : Draft := ⟨[], [], [], [], []⟩

def settle (d : Draft) : Draft := { d with declared := d.pending ++ d.declared, pending := [] }

/-- The proper and non-empty first parts of a path. -/
def parents : List String → List (List String)
  | [] => []
  | [_] => []
  | k :: r => [k] :: (parents r).map (k :: ·)

def addPair (d : Draft) (key : List String) (v : Data) : Option Draft := do
  let opened := (parents key).map (d.header ++ ·)
  if opened.any d.declared.contains then none
  let (path, last) := splitLast key
  let path := d.header ++ path
  if within d.frozen path then none
  let root ← update true (addEntry last v) path d.root
  let frozen := if isCollection v then (d.header ++ key) :: d.frozen else d.frozen
  return { d with root, frozen, pending := opened ++ d.pending }

def openTable (d : Draft) (key : List String) : Option Draft := do
  if d.declared.contains key || within d.frozen key then none
  let root ← update true some key d.root
  return { d with root, declared := key :: d.declared, header := key }

/-- A further table of an array frees the paths within the one before it. -/
def openItem (d : Draft) (key : List String) : Option Draft := do
  if within d.frozen key then none
  let free (paths : List (List String)) := paths.filter fun p => !key.isPrefixOf p
  let (path, last) := splitLast key
  let root ← update true (addTable last) path d.root
  return { d with root, frozen := free d.frozen, declared := key :: free d.declared, header := key }

end Draft

def isKeyStart (c : Char) : Bool := isBareChar c || c == '"' || c == '\''

/-- One statement, if one stands on this line. -/
def statement (d : Draft) (cs : List Char) : Result (Draft × List Char) :=
  match cs with
  | '[' :: '[' :: r => do
    let (key, r) ← orMalformed (key? (r.length + 1) (skipGaps r))
    let ']' :: ']' :: r := r | malformed
    return (← orMalformed (d.settle.openItem key), r)
  | '[' :: r => do
    let (key, r) ← orMalformed (key? (r.length + 1) (skipGaps r))
    let ']' :: r := r | malformed
    return (← orMalformed (d.settle.openTable key), r)
  | c :: _ =>
    if isKeyStart c then do
      let (key, v, r) ← pair (2 * cs.length + 2) cs
      return (← orMalformed (d.addPair key v), r)
    else if c == '#' || c == '\n' then .ok (d, cs)
    else malformed
  | [] => .ok (d, [])

def statements : Nat → Draft → List Char → Result Draft
  | 0, _, _ => malformed
  | n + 1, d, cs => do
    let (d, r) ← statement d (skipGaps cs)
    match ← orMalformed (skipComment (skipGaps r)) with
    | [] => return d
    | '\n' :: r => statements n d r
    | _ => malformed

/-- The usual line ends of some systems count as line feeds. -/
def joinLineEnds : List Char → List Char
  | '\r' :: '\n' :: r => '\n' :: joinLineEnds r
  | c :: r => c :: joinLineEnds r
  | [] => []

def read (s : String) : Result Data :=
  let cs := joinLineEnds s.toList
  (statements (cs.length + 1) .start cs).map fun d => .map d.root

end CharacterSheet.Data.Toml
