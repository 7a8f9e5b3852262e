import CharacterSheet.Data.Calendar
import CharacterSheet.Number.Compare
import CharacterSheet.Text.Codes

/-!
The values that data files hold and that callers offer.
-/
namespace CharacterSheet

/-- `undefined` is the one number without a value that all the files of a format share, and `broken`
a text with a half of a character in it. A `loop` is a collection that can be reached from within
itself: `back` stands there for the whole of the loop with its mark. -/
inductive Data where
  | null
  | bool (b : Bool)
  | int (n : Int)
  | real (x : Float)
  | undefined
  | text (s : String)
  | broken (codes : Text.Codes)
  | bytes (bs : List UInt8)
  | date (d : Date)
  | time (c : Clock)
  | moment (d : Date) (c : Clock) (zone : Option Zone)
  | list (xs : List Data)
  | tuple (xs : List Data)
  | set (xs : List Data)
  | map (entries : List (Data × Data))
  | loop (mark : Nat) (v : Data)
  | back (mark : Nat)

namespace Data

instance : Inhabited Data := ⟨.null⟩

/-- The text of some codes, which may be broken. -/
def ofCodes (cs : Text.Codes) : Data :=
  match Text.ofCodes? cs with
  | some s => .text s
  | none => .broken cs

/-- The codes of what is a text. -/
def codes? : Data → Option Text.Codes
  | .text s => some (Text.codes s)
  | .broken cs => some cs
  | _ => none

/-- The text that bytes spell, if they spell one. -/
def spelled? (bs : List UInt8) : Option String := String.fromUTF8? ⟨bs.toArray⟩

def number? : Data → Option Number
  | .bool b => some (.int b.toNat)
  | .int n => some (.int n)
  | .real x => some (.real x)
  | .undefined => some (.real Number.notANumber)
  | _ => none

/-! Loops. -/

mutual

/-- A value with the whole of a loop in all the places that stand for it. -/
def fill (mark : Nat) (whole : Data) : Data → Data
  | .back m => if m == mark then whole else .back m
  | .list xs => .list (fillAll mark whole xs)
  | .tuple xs => .tuple (fillAll mark whole xs)
  | .set xs => .set (fillAll mark whole xs)
  | .map es => .map (fillEntries mark whole es)
  | .loop m v => if m == mark then .loop m v else .loop m (fill mark whole v)
  | v => v

def fillAll (mark : Nat) (whole : Data) : List Data → List Data
  | [] => []
  | x :: r => fill mark whole x :: fillAll mark whole r

def fillEntries (mark : Nat) (whole : Data) : List (Data × Data) → List (Data × Data)
  | [] => []
  | (k, v) :: r => (fill mark whole k, fill mark whole v) :: fillEntries mark whole r

end

/-- A value as it looks from outside: a loop shows the collection that it is. -/
def face : Data → Data
  | .loop mark v => fill mark (.loop mark v) v
  | v => v

mutual

/-- Equality of values: numbers and truth values by what they count, maps and sets without regard to
order. -/
def same : Data → Data → Bool
  | .null, .null => true
  | .undefined, .undefined => true
  | .text s, .text t => s == t
  | .broken cs, .broken ds => cs == ds
  | .bytes bs, .bytes cs => bs == cs
  | .date d, .date e => d == e
  | .time c, .time e => c == e
  | .moment d c z, .moment d' c' z' => d == d' && c == c' && z == z'
  | .list xs, .list ys => sameAll xs ys
  | .tuple xs, .tuple ys => sameAll xs ys
  | .set xs, .set ys => xs.length == ys.length && withinAll xs ys
  | .map xs, .map ys => xs.length == ys.length && entriesWithin xs ys
  | .loop _ v, .loop _ w => same v w
  | .back m, .back n => m == n
  | a, b => match a.number?, b.number? with
    | some x, some y => x.same y
    | _, _ => false

def sameAll : List Data → List Data → Bool
  | [], [] => true
  | x :: xs, y :: ys => same x y && sameAll xs ys
  | _, _ => false

def withinAll : List Data → List Data → Bool
  | [], _ => true
  | x :: xs, ys => ys.any (same x ·) && withinAll xs ys

def entriesWithin : List (Data × Data) → List (Data × Data) → Bool
  | [], _ => true
  | (k, v) :: r, ys => ys.any (fun e => same k e.1 && same v e.2) && entriesWithin r ys

end

instance : BEq Data := ⟨same⟩

/-- What an optional setting may leave out: nothing, false, zero and what is empty. -/
def isEmpty : Data → Bool
  | .null => true
  | .bool b => !b
  | .int n => n == 0
  | .real x => x == 0
  | .text s => s.isEmpty
  | .bytes bs => bs.isEmpty
  | .list xs | .tuple xs | .set xs => xs.isEmpty
  | .map es => es.isEmpty
  | .undefined | .broken _ | .date _ | .time _ | .moment .. | .loop .. | .back _ => false

def lookup (k : Data) : List (Data × Data) → Option Data
  | [] => none
  | (k', v) :: r => if k' == k then some v else lookup k r

/-- Writing an entry keeps the place and the spelling of a key that is there. -/
def put (k v : Data) : List (Data × Data) → List (Data × Data)
  | [] => [(k, v)]
  | (k', v') :: r => if k' == k then (k', v) :: r else (k', v') :: put k v r

def putAll (es : List (Data × Data)) (base : List (Data × Data)) : List (Data × Data) :=
  es.foldl (fun m e => put e.1 e.2 m) base

/-- A map whose entries were written one after the other. -/
def ofEntries (es : List (Data × Data)) : Data := .map (putAll es [])

def field? (name : String) (es : List (Data × Data)) : Option Data := lookup (.text name) es

end Data

end CharacterSheet
