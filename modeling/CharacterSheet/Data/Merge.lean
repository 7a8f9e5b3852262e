import CharacterSheet.Fault

/-!
Merging maps. An entry of the second map replaces that of the first, unless both are maps: those are
merged in turn. A list takes entries whose keys are positions in it.
-/
namespace CharacterSheet.Data

mutual

/-- How many maps stand in a value, from map to map. -/
def mapCount : Data → Nat
  | .map es => mapCountOf es + 1
  | .loop _ v => mapCount v
  | _ => 0

def mapCountOf : List (Data × Data) → Nat
  | [] => 0
  | (_, v) :: r => mapCount v + mapCountOf r

end

/-- Writes entries over those of a map, so many maps deep at most. -/
def mergeWithin : Nat → List (Data × Data) → List (Data × Data) → Result (List (Data × Data))
  | 0, _, _ => .error .endless
  | n + 1, base, es =>
    es.foldlM (fun merged (k, v) => do
      match v.face, (lookup k merged).map face with
      | .map inner, some (.map old) => return put k (.map (← mergeWithin n old inner)) merged
      | _, _ => return put k v merged) base

/-- Whoever goes further down than there are pairs of maps has met one of them before, and would go
round in both maps for ever. -/
def mergeEntries (base es : List (Data × Data)) : Result (List (Data × Data)) :=
  mergeWithin ((mapCountOf base + 1) * (mapCountOf es + 1)) base es

/-- The entries of a value that is to be merged; what is empty has none. -/
def mergeable? (v : Data) : Result (List (Data × Data)) :=
  match v.face with
  | .map es => .ok es
  | v => if v.isEmpty then .ok [] else .error .notMapping

/-- The place in a list that a position names; those below zero count from its end. -/
def place? (size : Nat) (k : Data) : Result Nat :=
  let within (n : Int) : Result Nat :=
    let n := if n < 0 then n + size else n
    if 0 ≤ n && n < size then .ok n.toNat else .error .outOfRange
  match k with
  | .int n => within n
  | .bool b => within b.toNat
  | _ => .error .wrongKind

/-- Writes entries into what is no map. None of them may be a map itself, and only lists take any
in. -/
def assignEntries (base : Data) : List (Data × Data) → Result Data
  | [] => .ok base
  | (k, v) :: r =>
    match v.face, base with
    | .map _, _ => .error .notMapping
    | _, .list xs => do assignEntries (.list (xs.set (← place? xs.length k) v)) r
    | _, _ => .error .wrongKind

def merge (a b : Data) : Result Data := do
  let es ← mergeable? b
  match a.face with
  | .map base => return .map (← mergeEntries base es)
  | a => if a.isEmpty then return .map (← mergeEntries [] es) else assignEntries a es

end CharacterSheet.Data
