import CharacterSheet.Fault
import CharacterSheet.Text.Blank

/-!
Release versions: an epoch, the release numbers, and marks for what comes before and after a
release. `Version.of?` reads the usual spellings, and `Version.before` is the order of releases in
time.
-/
namespace CharacterSheet

inductive PreRelease where
  | alpha
  | beta
  | candidate
  deriving DecidableEq, Repr

/-- A part of a local label. -/
inductive LocalPart where
  | word (s : String)
  | number (n : Nat)
  deriving DecidableEq, Repr

structure Version where
  epoch : Nat
  release : List Nat
  pre : Option (PreRelease × Nat)
  post : Option Nat
  dev : Option Nat
  localLabel : Option (List LocalPart)
  deriving DecidableEq, Repr

namespace Version

def isSeparator (c : Char) : Bool := c == '-' || c == '_' || c == '.'

def natOf (ds : List Char) : Nat := ds.foldl (fun n c => n * 10 + (c.toNat - '0'.toNat)) 0

def takeDigits (cs : List Char) : List Char × List Char :=
  (cs.takeWhile Char.isDigit, cs.dropWhile Char.isDigit)

/-- A number, if one stands here. -/
def number? (cs : List Char) : Option Nat × List Char :=
  let (ds, r) := takeDigits cs
  if ds.isEmpty then (none, cs) else (some (natOf ds), r)

def dropSeparator : List Char → List Char
  | c :: r => if isSeparator c then r else c :: r
  | [] => []

/-- The first of some words that stands here, with what it means. -/
def word? {α : Type} (words : List (String × α)) (cs : List Char) : Option (α × List Char) :=
  (words.find? fun w => w.1.toList.isPrefixOf cs).map fun w => (w.2, cs.drop w.1.length)

/-- A word with a number that may follow it; single separators may stand before and between. -/
def marked? {α : Type} (words : List (String × α)) (cs : List Char) :
    Option (α × Nat × List Char) :=
  (word? words (dropSeparator cs)).map fun (m, r) =>
    let (n, r) := number? (dropSeparator r)
    (m, n.getD 0, r)

def preWords : List (String × PreRelease) :=
  [("alpha", .alpha), ("a", .alpha), ("beta", .beta), ("b", .beta), ("preview", .candidate),
    ("pre", .candidate), ("c", .candidate), ("rc", .candidate)]

def postWords : List (String × Unit) := [("post", ()), ("rev", ()), ("r", ())]

def takeEpoch (cs : List Char) : Nat × List Char :=
  match number? cs with
  | (some n, '!' :: r) => (n, r)
  | _ => (0, cs)

/-- Further release numbers, each after a point. -/
def moreNumbers : Nat → List Char → List Nat × List Char
  | 0, cs => ([], cs)
  | n + 1, cs => match cs with
    | '.' :: r => match number? r with
      | (some k, r) =>
        let (ks, r) := moreNumbers n r
        (k :: ks, r)
      | (none, _) => ([], cs)
    | _ => ([], cs)

def takePre (cs : List Char) : Option (PreRelease × Nat) × List Char :=
  match marked? preWords cs with
  | some (m, n, r) => (some (m, n), r)
  | none => (none, cs)

/-- A number after a hyphen, or a word. -/
def takePost (cs : List Char) : Option Nat × List Char :=
  let worded := match marked? postWords cs with
    | some (_, n, r) => (some n, r)
    | none => (none, cs)
  match cs with
  | '-' :: r => match number? r with
    | (some n, r) => (some n, r)
    | (none, _) => worded
  | _ => worded

def takeDev (cs : List Char) : Option Nat × List Char :=
  match marked? [("dev", ())] cs with
  | some (_, n, r) => (some n, r)
  | none => (none, cs)

def localPart (cs : List Char) : LocalPart :=
  if cs.all Char.isDigit then .number (natOf cs) else .word (String.ofList cs)

def splitLabel : List Char → List Char × List (List Char)
  | [] => ([], [])
  | c :: r =>
    let (p, ps) := splitLabel r
    if isSeparator c then ([], p :: ps) else (c :: p, ps)

def label? : List Char → Option (Option (List LocalPart))
  | [] => some none
  | '+' :: r =>
    let (p, ps) := splitLabel r
    let parts := p :: ps
    if parts.all fun p => !p.isEmpty && p.all Char.isAlphanum then some (some (parts.map localPart))
    else none
  | _ => none

def ofChars? (cs : List Char) : Option Version := do
  let cs := match cs with
    | 'v' :: r => r
    | cs => cs
  let (epoch, cs) := takeEpoch cs
  let (first, cs) := number? cs
  let first ← first
  let (rest, cs) := moreNumbers cs.length cs
  let (pre, cs) := takePre cs
  let (post, cs) := takePost cs
  let (dev, cs) := takeDev cs
  return ⟨epoch, first :: rest, pre, post, dev, ← label? cs⟩

/-- Letters count in either case, and only those of ASCII. -/
def of? (s : String) : Option Version := ofChars? (Text.trimChars s.toLower.toList)

def read (v : Data) : Result Version :=
  match v with
  | .text s => match of? s with
    | some version => .ok version
    | none => .error (.version v)
  | v => .error (.version v)

/-! The order of releases. A mark that is missing counts as the least or the greatest there is. -/

/-- A value, or one of the two ends of an order. -/
inductive Bounded (α : Type) where
  | least
  | some (a : α)
  | greatest

namespace Bounded

def compare {α : Type} (cmp : α → α → Ordering) : Bounded α → Bounded α → Ordering
  | .least, .least | .greatest, .greatest => .eq
  | .least, _ | _, .greatest => .lt
  | _, .least | .greatest, _ => .gt
  | .some a, .some b => cmp a b

def ofOption {α : Type} (missing : Bounded α) : Option α → Bounded α
  | Option.some a => .some a
  | none => missing

end Bounded

def compareLists {α : Type} (cmp : α → α → Ordering) : List α → List α → Ordering
  | [], [] => .eq
  | [], _ => .lt
  | _, [] => .gt
  | a :: as, b :: bs => (cmp a b).then (compareLists cmp as bs)

def PreRelease.rank : PreRelease → Nat
  | .alpha => 0
  | .beta => 1
  | .candidate => 2

def comparePre (a b : PreRelease × Nat) : Ordering :=
  (compare (PreRelease.rank a.1) (PreRelease.rank b.1)).then (compare a.2 b.2)

/-- Words come before numbers. -/
def comparePart : LocalPart → LocalPart → Ordering
  | .word a, .word b => compare a b
  | .word _, .number _ => .lt
  | .number _, .word _ => .gt
  | .number a, .number b => compare a b

def significant (release : List Nat) : List Nat := (release.reverse.dropWhile (· == 0)).reverse

/-- A development version of a release itself comes before its other early versions. -/
def preKey (v : Version) : Bounded (PreRelease × Nat) :=
  match v.pre with
  | Option.some p => .some p
  | none => if v.post.isNone && v.dev.isSome then .least else .greatest

def order (a b : Version) : Ordering :=
  (compare a.epoch b.epoch).then <|
  (compareLists compare (significant a.release) (significant b.release)).then <|
  (a.preKey.compare comparePre b.preKey).then <|
  ((Bounded.ofOption .least a.post).compare compare (.ofOption .least b.post)).then <|
  ((Bounded.ofOption .greatest a.dev).compare compare (.ofOption .greatest b.dev)).then <|
  (Bounded.ofOption .least a.localLabel).compare (compareLists comparePart)
    (.ofOption .least b.localLabel)

def before (a b : Version) : Bool := a.order b == .lt

end Version

end CharacterSheet
