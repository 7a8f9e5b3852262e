import CharacterSheet.Data.Order
import CharacterSheet.Record.Checked
import CharacterSheet.Text.Blank
import CharacterSheet.Text.Case

/-!
Readers for the fields of records.
-/
namespace CharacterSheet.Record

open Checked (fail under each)

abbrev Reader (α : Type) := Data → Checked α

/-- A text, or bytes that spell one. -/
def text : Reader String
  | .text s => .valid s
  | .broken cs => .valid (Text.repaired cs)
  | .bytes bs => match Data.spelled? bs with
    | some s => .valid s
    | none => fail .brokenText
  | _ => fail .notText

/-- A text that is to be read as something else. What can not be read at all is of the given kind.
-/
def spelling? (unreadable : IssueKind) : Data → Option (Checked String)
  | .text s => some (.valid s)
  | .broken _ => some (fail .brokenText)
  | .bytes bs => match Data.spelled? bs with
    | some s => some (.valid s)
    | none => some (fail unreadable)
  | _ => none

/-! Integers. -/

/-- Drops zeros before the first digit, and low lines among them. What is left begins with a digit,
or with a hyphen after a zero; before a point one character is kept. -/
def dropZeros? : List Char → Option (List Char)
  | [] => none
  | c :: r =>
    if c == '0' then more c r
    else if c.isDigit then some (c :: r) else none
where
  more (last : Char) : List Char → Option (List Char)
    | [] => some [last]
    | c :: r =>
      if c == '0' || c == '_' then more c r
      else if c.isDigit || c == '-' then some (c :: r)
      else if c == '.' then some (last :: c :: r)
      else none

/-- A numeral without a point and the zeros after it. -/
def dropZeroFraction (cs : List Char) : List Char :=
  match cs.dropWhile (· != '.') with
  | '.' :: r => if !r.isEmpty && r.all (· == '0') then cs.takeWhile (· != '.') else cs
  | _ => cs

def hasDoubleLine : List Char → Bool
  | '_' :: '_' :: _ => true
  | _ :: r => hasDoubleLine r
  | [] => false

/-- Low lines may group characters: none stands at an end, and no two stand together. -/
def dropLines (cs : List Char) : List Char :=
  if cs.head? == some '_' || cs.getLast? == some '_' || hasDoubleLine cs then cs
  else cs.filter (· != '_')

/-- Digits without a zero before them. -/
def digits? : List Char → Option Nat
  | [] => none
  | c :: r =>
    if !(c :: r).all Char.isDigit || (c == '0' && !r.isEmpty) then none
    else some ((c :: r).foldl (fun n c => n * 10 + (c.toNat - '0'.toNat)) 0)

def numeral? : List Char → Option Int
  | '-' :: r => (digits? r).map (Number.signed true)
  | r => (digits? r).map (Number.signed false)

/-- The numeral between blanks, with a sign before it. -/
def bareNumeral? : List Char → Option (List Char)
  | '+' :: r => dropZeros? r
  | '-' :: r => (dropZeros? r).map ('-' :: ·)
  | r => dropZeros? r

/-- The integer of a numeral, however many digits it has: the limit of those in rules and values is not
this reader's. -/
def spelledInteger? (s : String) : Option Int := do
  let cs := Text.trimBy (fun c => Text.isBlank c && !Text.isSeparator c) s.toList
  numeral? (dropLines (dropZeroFraction (← bareNumeral? cs)))

/-- Doubles are taken for integers below this size. -/
def wholeBound : Int := Int.pow 2 63

def isWord (n : Int) : Bool := -wholeBound ≤ n && n < wholeBound

/-- A double is an integer if it has no fraction. -/
def wholeReal (x : Float) : Checked Int :=
  match (Number.real x).extent with
  | .finite n d =>
    if n % d != 0 then fail .fraction
    else if -wholeBound < n / d && n / d < wholeBound then .valid (n / d)
    else fail .integerTooLarge
  | _ => fail .notFinite

def integer : Reader Int
  | .int n => .valid n
  | .bool b => .valid b.toNat
  | .real x => wholeReal x
  | .undefined => fail .notFinite
  | v => match spelling? .unreadableInteger v with
    | none => fail .notInteger
    | some s => s.andThen fun s => match spelledInteger? s with
      | some n => .valid n
      | none => fail .unreadableInteger

/-! Truth values. -/

def yesWords : List String := ["1", "on", "t", "true", "y", "yes"]

def noWords : List String := ["0", "off", "f", "false", "n", "no"]

def spelledTruth (s : String) : Checked Bool :=
  let w := s.toLower
  if yesWords.contains w then .valid true
  else if noWords.contains w then .valid false
  else fail .unreadableBool

def truth : Reader Bool
  | .bool b => .valid b
  | .int n =>
    if n == 0 then .valid false
    else if n == 1 then .valid true
    else if isWord n then fail .unreadableBool
    else fail .notBool
  | .real x => match wholeReal x with
    | .valid 0 => .valid false
    | .valid 1 => .valid true
    | .valid _ => fail .unreadableBool
    | .invalid _ => fail .notBool
  | v => match spelling? .unreadableBool v with
    | some s => s.andThen spelledTruth
    | none => fail .notBool

def anything : Reader Data := .valid

def nullable {α : Type} (read : Reader α) : Reader (Option α)
  | .null => .valid none
  | v => some <$> read v

/-- The items of what may stand for a list. -/
def sequence? (v : Data) : Option (List Data) :=
  match v.face with
  | .list xs | .tuple xs | .set xs => some xs
  | _ => none

def listOf {α : Type} (read : Reader α) (v : Data) : Checked (List α) :=
  match sequence? v with
  | some xs => each read 0 xs
  | none => fail .notList

def tupleOf {α : Type} (read : Reader α) (v : Data) : Checked (List α) :=
  match sequence? v with
  | some xs => each read 0 xs
  | none => fail .notTuple

/-- A key as a step of a place. -/
def step : Data → String
  | .text s => s
  | .broken cs => Text.repaired cs
  | .bool b => toString b.toNat
  | k => k.inspect

def entries {κ ν : Type} (key : Reader κ) (value : Reader ν) :
    List (Data × Data) → Checked (List (κ × ν))
  | [] => .valid []
  | (k, v) :: r =>
    (fun k v r => (k, v) :: r) <$> ((key k).under "[key]").under (step k)
      <*> (value v).under (step k)
      <*> entries key value r

def mapOf {κ ν : Type} (key : Reader κ) (value : Reader ν) (v : Data) : Checked (List (κ × ν)) :=
  match v.face with
  | .map es => entries key value es
  | _ => fail .notMap

/-! A record is a map from field names. -/

def required {α : Type} (es : List (Data × Data)) (name : String) (read : Reader α) : Checked α :=
  match Data.field? name es with
  | some v => (read v).under name
  | none => (fail .missing : Checked α).under name

def optional {α : Type} (es : List (Data × Data)) (name : String) (standard : α)
    (read : Reader α) : Checked α :=
  match Data.field? name es with
  | some v => (read v).under name
  | none => .valid standard

/-- A key that is no field's name. Bytes that spell the name of a field that is there are passed
over. -/
def strayKey (names : List String) (es : List (Data × Data)) : Data → Checked Unit
  | .text s => if names.contains s then .valid () else (fail .unknownField).under s
  | .bytes bs => match Data.spelled? bs with
    | some s =>
      if names.contains s && (Data.field? s es).isSome then .valid ()
      else (fail .unknownField).under (step (.bytes bs))
    | none => (fail .badKey).under (step (.bytes bs))
  | k => (fail .badKey).under (step k)

/-- No field of the record has another name than these. -/
def onlyFields (names : List String) (es : List (Data × Data)) : Checked Unit :=
  es.foldr (fun e r => (fun _ _ => ()) <$> strayKey names es e.1 <*> r) (.valid ())

def isBroken : Data → Bool
  | .broken _ => true
  | _ => false

/-- A record with these fields. A name that is no proper text hides all that else is wrong. -/
def fields {α : Type} (names : List String) (read : List (Data × Data) → Checked α) : Reader α :=
  fun v => match v.face with
  | .map es =>
    if es.any fun e => isBroken e.1 then fail .brokenText
    else (fun a _ => a) <$> read es <*> onlyFields names es
  | _ => fail .notRecord

/-! Writing records. -/

/-- Whether fields without a value are written. -/
inductive Mode where
  | full
  | compact
  deriving DecidableEq, Repr

def isNull : Data → Bool
  | .null => true
  | _ => false

/-- The fields that are written. -/
def kept (mode : Mode) (fs : List (String × Data)) : List (String × Data) :=
  match mode with
  | .full => fs
  | .compact => fs.filter fun f => !isNull f.2

def write (mode : Mode) (fs : List (String × Data)) : Data :=
  .map ((kept mode fs).map fun f => (.text f.1, f.2))

def nullOr {α : Type} (f : α → Data) : Option α → Data
  | none => .null
  | some a => f a

end CharacterSheet.Record
