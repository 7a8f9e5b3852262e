import CharacterSheet.Text.Blank
import CharacterSheet.Text.Digit

/-!
Integers written in digits of any script. `plain?` takes a sign and decimal digits between blanks;
`loose?` also takes single low lines between digits, and `inBase?` digits and letters of a base.
Integers of too many digits have no decimal text, and a text of too many digits gives no integer.
-/
namespace CharacterSheet.Text

/-- How many decimal digits are converted at once, between texts and integers. -/
def mostDigits : Nat := 4300

def digitsOf (n : Int) : Nat := (Nat.toDigits 10 n.natAbs).length

/-- Whether an integer can be written. -/
def isWritable (n : Int) : Bool := digitsOf n ≤ mostDigits

def digitsValue (cs : List Char) : Nat := cs.foldl (fun n c => n * 10 + (digitValue? c).getD 0) 0

/-- A sign and the characters after it. -/
def takeSign : List Char → Bool × List Char
  | '+' :: r => (false, r)
  | '-' :: r => (true, r)
  | cs => (false, cs)

def signedValue (negative : Bool) (n : Nat) : Int := if negative then -n else n

def plainChars? (cs : List Char) : Option Int :=
  let (negative, ds) := takeSign (trimChars cs)
  if ds.isEmpty || !ds.all isDigit then none else some (signedValue negative (digitsValue ds))

def plain? (s : String) : Option Int := plainChars? s.toList

/-- How many digits a text has that spells an integer, zeros before the first other one included. -/
def digitCount (s : String) : Nat := (takeSign (trimChars s.toList)).2.length

/-- The digits of a number in which single low lines may stand between digits. -/
def groupedDigits? : List Char → Option (List Char)
  | [] => some []
  | [c] => if isDigit c then some [c] else none
  | c :: '_' :: d :: r =>
    if isDigit c && isDigit d then (groupedDigits? (d :: r)).map (c :: ·) else none
  | c :: r => if isDigit c then (groupedDigits? r).map (c :: ·) else none

/-- The sign and the digits of a number with low lines in it. -/
def looseDigits? (s : String) : Option (Bool × List Char) :=
  let (negative, ds) := takeSign (trimBy (fun c => isBlank c && !isSeparator c) s.toList)
  if ds.isEmpty then none else (groupedDigits? ds).map (negative, ·)

def loose? (s : String) : Option Int := do
  let (negative, ds) ← looseDigits? s
  if ds.length ≤ mostDigits then return signedValue negative (digitsValue ds) else none

/-- A digit, or a letter that counts as one beyond nine. -/
def letterValue? (c : Char) : Option Nat :=
  if c.isAlpha then some (c.toLower.toNat - 'a'.toNat + 10) else digitValue? c

/-- The letter that marks a base after a zero. -/
def baseMark? (base : Nat) : Option Char :=
  if base == 2 then some 'b'
  else if base == 8 then some 'o'
  else if base == 16 then some 'x'
  else none

def dropBaseMark (base : Nat) : List Char → List Char
  | z :: m :: r =>
    if digitValue? z == some 0 && baseMark? base == some m.toLower then r else z :: m :: r
  | cs => cs

def inBase? (base : Nat) (cs : List Char) : Option Int := do
  let (negative, ds) := takeSign (trimBy (fun c => isBlank c && !isSeparator c) cs)
  let values ← (dropBaseMark base ds).mapM letterValue?
  if values.isEmpty || values.any (base ≤ ·) then none
  return signedValue negative (values.foldl (fun n d => n * base + d) 0)

end CharacterSheet.Text
