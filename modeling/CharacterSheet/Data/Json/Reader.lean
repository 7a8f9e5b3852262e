import CharacterSheet.Data.Json.Encoding
import CharacterSheet.Fault

/-!
JSON text as a value. Beyond the standard, the names of the doubles that JSON lacks are read, halves
of characters may stand alone within strings, and of two entries with one key the later one wins.
-/
namespace CharacterSheet.Data.Json

open Text (Codes)

/-! The codes that structure a text. -/

@[match_pattern] abbrev quoteMark : Nat := 0x22
@[match_pattern] abbrev plusSign : Nat := 0x2B
@[match_pattern] abbrev comma : Nat := 0x2C
@[match_pattern] abbrev minusSign : Nat := 0x2D
@[match_pattern] abbrev point : Nat := 0x2E
@[match_pattern] abbrev zero : Nat := 0x30
@[match_pattern] abbrev colon : Nat := 0x3A
@[match_pattern] abbrev listStart : Nat := 0x5B
@[match_pattern] abbrev backslash : Nat := 0x5C
@[match_pattern] abbrev listEnd : Nat := 0x5D
@[match_pattern] abbrev letterU : Nat := 0x75
@[match_pattern] abbrev mapStart : Nat := 0x7B
@[match_pattern] abbrev mapEnd : Nat := 0x7D

def isBlank (c : Nat) : Bool := c == 0x20 || c == 0x09 || c == 0x0A || c == 0x0D

def skipBlanks (cs : Codes) : Codes := cs.dropWhile isBlank

/-- The values that have names. -/
def named : List (String × Data) :=
  [("null", .null), ("true", .bool true), ("false", .bool false),
   ("NaN", .real Number.notANumber), ("Infinity", .real (Number.infinity false)),
   ("-Infinity", .real (Number.infinity true))]

def name? (cs : Codes) : Option (Data × Codes) :=
  (named.find? fun w => (Text.codes w.1).isPrefixOf cs).map fun w => (w.2, cs.drop w.1.length)

/-! Strings. -/

def isDigit (c : Nat) : Bool := 0x30 ≤ c && c ≤ 0x39

def hexValue? (c : Nat) : Option Nat :=
  if isDigit c then some (c - 0x30)
  else if 0x61 ≤ c && c ≤ 0x66 then some (c - 0x61 + 10)
  else if 0x41 ≤ c && c ≤ 0x46 then some (c - 0x41 + 10)
  else none

/-- The unit of text that four hexadecimal digits stand for. -/
def unit? (a b c d : Nat) : Option Nat := do
  return (((← hexValue? a) * 16 + (← hexValue? b)) * 16 + (← hexValue? c)) * 16 + (← hexValue? d)

/-- The escapes of one letter, and the codes that they stand for. -/
def escapes : List (Char × Nat) :=
  [('"', 0x22), ('\\', 0x5C), ('/', 0x2F), ('b', 0x08), ('f', 0x0C), ('n', 0x0A), ('r', 0x0D),
   ('t', 0x09)]

def escaped? (c : Nat) : Option Nat := (escapes.find? fun e => e.1.toNat == c).map (·.2)

/-- Puts a unit in front of what was read, latest first. If the unit read last is `open` for its
second half, the two may be one character. -/
def pushUnit (isOpen : Bool) (u : Nat) (read : Codes) : Codes :=
  match read with
  | [] => [u]
  | high :: r => if isOpen && Text.isLowHalf u then Text.joinHalves high u :: r else u :: read

/-- The codes of a string up to its closing quote. Halves of a character join where both are written
as escapes. -/
def string? (isOpen : Bool) (read : Codes) : Codes → Option (Codes × Codes)
  | quoteMark :: r => some (read.reverse, r)
  | backslash :: letterU :: a :: b :: c :: d :: r => do
    let u ← unit? a b c d
    string? (Text.isHighHalf u) (pushUnit isOpen u read) r
  | backslash :: e :: r => do string? false ((← escaped? e) :: read) r
  | c :: r => if c < 0x20 || c == backslash then none else string? false (c :: read) r
  | [] => none

/-! Numbers. -/

def natOf (ds : Codes) : Nat := ds.foldl (fun n c => n * 10 + (c - 0x30)) 0

/-- The digits at the start of a text, and what follows them. -/
def takeDigits (cs : Codes) : Codes × Codes := (cs.takeWhile isDigit, cs.dropWhile isDigit)

/-- A point with digits, or nothing. -/
def takeFraction (cs : Codes) : Codes × Codes :=
  match cs with
  | point :: r =>
    let (ds, r) := takeDigits r
    if ds.isEmpty then ([], cs) else (ds, r)
  | cs => ([], cs)

/-- An exponent, if digits follow its mark. -/
def takeExponent (cs : Codes) : Option Int × Codes :=
  match cs with
  | e :: r =>
    if e == 'e'.toNat || e == 'E'.toNat then
      let (negative, body) := match r with
        | plusSign :: b => (false, b)
        | minusSign :: b => (true, b)
        | b => (false, b)
      let (ds, r) := takeDigits body
      if ds.isEmpty then (none, cs) else (some (Number.signed negative (natOf ds)), r)
    else (none, cs)
  | [] => (none, [])

def number? (cs : Codes) : Option (Data × Codes) := do
  let (negative, r) := match cs with
    | minusSign :: r => (true, r)
    | r => (false, r)
  let (whole, r) := match r with
    | zero :: r => ([zero], r)
    | r => takeDigits r
  if whole.isEmpty then none
  let (fraction, r) := takeFraction r
  let (exponent, r) := takeExponent r
  if fraction.isEmpty && exponent.isNone then
    return (.int (Number.signed negative (natOf whole)), r)
  else
    let e := exponent.getD 0 - fraction.length
    return (.real (Number.ofDecimal negative (natOf (whole ++ fraction)) e), r)

/-! Values. -/

def malformed {α : Type} : Result α := .error (.malformed .json)

def orMalformed {α : Type} : Option α → Result α
  | some a => .ok a
  | none => malformed

mutual

/-- Reads one value; the bound is on how far collections nest and reach. -/
def value : Nat → Codes → Result (Data × Codes)
  | 0, _ => malformed
  | n + 1, cs => match cs with
    | quoteMark :: r => do
      let (s, r) ← orMalformed (string? false [] r)
      return (Data.ofCodes s, r)
    | listStart :: r => match skipBlanks r with
      | listEnd :: r => .ok (.list [], r)
      | r => do
        let (xs, r) ← items n r
        return (.list xs, r)
    | mapStart :: r => match skipBlanks r with
      | mapEnd :: r => .ok (.map [], r)
      | r => do
        let (es, r) ← entries n r
        return (.ofEntries es, r)
    | cs => match name? cs with
      | some v => .ok v
      | none => do
        let (v, r) ← orMalformed (number? cs)
        return (← v.ofDecimal, r)

def items : Nat → Codes → Result (List Data × Codes)
  | 0, _ => malformed
  | n + 1, cs => do
    let (x, r) ← value n cs
    match skipBlanks r with
    | comma :: r => do
      let (xs, r) ← items n (skipBlanks r)
      return (x :: xs, r)
    | listEnd :: r => return ([x], r)
    | _ => malformed

def entries : Nat → Codes → Result (List (Data × Data) × Codes)
  | 0, _ => malformed
  | n + 1, cs => do
    let quoteMark :: r := cs | malformed
    let (k, r) ← orMalformed (string? false [] r)
    let colon :: r := skipBlanks r | malformed
    let (v, r) ← value n (skipBlanks r)
    match skipBlanks r with
    | comma :: r => do
      let (es, r) ← entries n (skipBlanks r)
      return ((Data.ofCodes k, v) :: es, r)
    | mapEnd :: r => return ([(Data.ofCodes k, v)], r)
    | _ => malformed

end

/-- The value that a text is written as. -/
def ofCodes (cs : Codes) : Result Data := do
  let (v, r) ← value (cs.length + 1) (skipBlanks cs)
  if (skipBlanks r).isEmpty then return v else malformed

/-- The value in a file. -/
def read (text : String) : Result Data :=
  match fileCodes? text with
  | none => .error .undecodable
  | some cs => ofCodes cs

end CharacterSheet.Data.Json
