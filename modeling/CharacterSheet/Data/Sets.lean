import CharacterSheet.Data.Order

/-!
Sets. The members of a set stand in a table, at slots that follow from their hashes, and come in the
order of the slots. Where several have the same slot, the one that was put in first has it. The
table grows before it is full. If a member has no hash that says where it stands, all come in order.
-/
namespace CharacterSheet.Data

/-! Hashes. Equal values have equal hashes, whatever kind they are of. -/

/-- Numbers with one remainder to this prime have one hash. -/
def hashModulus : Nat := Nat.pow 2 61 - 1

/-- The hash of a number from its remainder; minus one is no hash. -/
def signedHash (negative : Bool) (remainder : Nat) : UInt64 :=
  let h := UInt64.ofNat (remainder % hashModulus)
  if !negative then h else if h == 1 then 0 - 2 else 0 - h

/-- The powers of two go round after 61 places: a half counts as what makes one when doubled. -/
def realHash? (x : Float) : Option UInt64 :=
  match Number.shape x with
  | .finite negative m e => some (signedHash negative (m * Nat.pow 2 (e % 61).toNat))
  | .infinite negative => some (signedHash negative 314159)
  | .undefined => none

def numberHash? : Number → Option UInt64
  | .int n => some (signedHash (n < 0) n.natAbs)
  | .real x => realHash? x

def rotated (h : UInt64) : UInt64 := (h <<< 31) ||| (h >>> 33)

def joinHash (sum h : UInt64) : UInt64 :=
  rotated (sum + h * 14029467366897019727) * 11400714785074694791

def seedHash : UInt64 := 2870177450012600261

def finishHash (size : Nat) (sum : UInt64) : UInt64 :=
  let h := sum + (UInt64.ofNat size ^^^ (seedHash ^^^ 3527539))
  if h == 0 - 1 then 1546275796 else h

mutual

/-- The hash of a number, of what is empty, or of a tuple of such. -/
def hash? : Data → Option UInt64
  | .text s => if s.isEmpty then some 0 else none
  | .bytes bs => if bs.isEmpty then some 0 else none
  | .tuple xs => (tupleHash? seedHash xs).map (finishHash xs.length)
  | v => v.number?.bind numberHash?

def tupleHash? (sum : UInt64) : List Data → Option UInt64
  | [] => some sum
  | x :: r => do tupleHash? (joinHash sum (← hash? x)) r

end

/-! Tables of members. -/

abbrev Slots := Array (Option (UInt64 × Data))

namespace Slots

def empty (size : Nat) : Slots := .replicate size none

def leastSize : Nat := 8

/-- The size of a table that has more slots than these. -/
def sizeAbove (n : Nat) : Nat := max leastSize (Nat.pow 2 (n.log2 + 1))

def members (t : Slots) : List (UInt64 × Data) := t.toList.filterMap id

/-- So many further slots are tried in a row, if the table goes on so far. -/
def reach : Nat := 9

def tried (t : Slots) (i : Nat) : List Nat :=
  List.range' i (if i + reach < t.size then reach + 1 else 1)

/-- The free slot for a hash. Where none is free in a row, what is left of the hash leads to the
next one. -/
def seek (t : Slots) : Nat → Nat → UInt64 → Option Nat
  | 0, _, _ => none
  | fuel + 1, i, left =>
    match (t.tried i).find? fun j => t[j]?.any Option.isNone with
    | some j => some j
    | none =>
      let left := left >>> 5
      seek t fuel ((i * 5 + 1 + left.toNat) % t.size) left

/-- After thirteen rows nothing is left of a hash, and then each slot has its turn. -/
def place (t : Slots) (m : UInt64 × Data) : Slots :=
  match t.seek (t.size + 13) (m.1.toNat % t.size) m.1 with
  | some j => t.setIfInBounds j (some m)
  | none => t

def resized (t : Slots) (size : Nat) : Slots := t.members.foldl place (empty size)

/-- More members take less room each. -/
def crowd : Nat := 50000

/-- Puts a new member in; a table that is three fifths full grows. -/
def add (t : Slots) (m : UInt64 × Data) : Slots :=
  let t := t.place m
  let used := t.members.length
  if used * 5 < (t.size - 1) * 3 then t
  else t.resized (sizeAbove (used * if used ≤ crowd then 4 else 2))

end Slots

/-- Each value once, by its first spelling. -/
def distinct (xs : List Data) : List Data :=
  xs.foldl (fun seen x => if seen.contains x then seen else seen ++ [x]) []

/-- The members of a set that were put into a table. -/
def arranged (t : Slots) (xs : List Data) : List Data :=
  match xs.mapM fun x => x.hash?.map (·, x) with
  | some ms => (ms.foldl Slots.add t).members.map Prod.snd
  | none => inOrder xs

/-- The set of some values, put in one after the other. -/
def setOf (xs : List Data) : Data := .set (arranged (.empty Slots.leastSize) (distinct xs))

/-- The set of a map's keys; its table has room for them from the start. -/
def setOfKeys (es : List (Data × Data)) : Data :=
  let n := es.length
  let size := if n * 5 < (Slots.leastSize - 1) * 3 then Slots.leastSize else Slots.sizeAbove (n * 2)
  .set (arranged (.empty size) (es.map Prod.fst))

mutual

/-- A value with all its sets made anew, each from its members as they come. -/
def renewed : Data → Data
  | .list xs => .list (renewedAll xs)
  | .tuple xs => .tuple (renewedAll xs)
  | .set xs => setOf (renewedAll xs)
  | .map es => .map (renewedEntries es)
  | .loop mark v => .loop mark (renewed v)
  | v => v

def renewedAll : List Data → List Data
  | [] => []
  | x :: r => renewed x :: renewedAll r

def renewedEntries : List (Data × Data) → List (Data × Data)
  | [] => []
  | (k, v) :: r => (k, renewed v) :: renewedEntries r

end

end CharacterSheet.Data
