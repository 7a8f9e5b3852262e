import CharacterSheet.Fault
import CharacterSheet.Text.Base64
import CharacterSheet.Text.Case
import CharacterSheet.Text.Integer

/-!
What scalars stand for. A plain one that looks like a truth value, a number, a day or a moment is
taken for that, and any other one is a text. A scalar may also say what it is; then its text is read
as that, whether it looks so or not.
-/
namespace CharacterSheet.Data.Yaml

/-! Looks of plain scalars. -/

def nullWords : List String := ["", "~", "null", "Null", "NULL"]

def truthWords : List String :=
  ["yes", "Yes", "YES", "true", "True", "TRUE", "on", "On", "ON",
    "no", "No", "NO", "false", "False", "FALSE", "off", "Off", "OFF"]

def infinityWords : List String := [".inf", ".Inf", ".INF"]

def undefinedWords : List String := [".nan", ".NaN", ".NAN"]

def isSign (c : Char) : Bool := c == '+' || c == '-'

def dropSign : List Char → List Char
  | c :: r => if isSign c then r else c :: r
  | [] => []

/-- Digits with low lines that group them. -/
def isGrouped (isDigit : Char → Bool) (cs : List Char) : Bool :=
  !cs.isEmpty && cs.all fun c => isDigit c || c == '_'

def isBinary (c : Char) : Bool := c == '0' || c == '1'

def isOctal (c : Char) : Bool := '0' ≤ c && c ≤ '7'

def isHex (c : Char) : Bool := c.isDigit || ('a' ≤ c.toLower && c.toLower ≤ 'f')

def startsDecimal (cs : List Char) : Bool := cs.head?.any Char.isDigit

/-- The first part before a colon and the parts after it. -/
def colonParts {α : Type} (isColon : α → Bool) : List α → List α × List (List α)
  | [] => ([], [])
  | c :: r =>
    let (p, ps) := colonParts isColon r
    if isColon c then ([], p :: ps) else (c :: p, ps)

/-- A part below sixty, of one or two digits. -/
def isSixtieth : List Char → Bool
  | [a] => a.isDigit
  | [a, b] => '0' ≤ a && a ≤ '5' && b.isDigit
  | _ => false

/-- A first part in groups of digits. -/
def isFirstPart (cs : List Char) : Bool := startsDecimal cs && isGrouped Char.isDigit cs

/-- An integer: binary, octal after a zero, decimal, hexadecimal, or in sixtieths. -/
def looksInteger (cs : List Char) : Bool :=
  match dropSign cs with
  | ['0'] => true
  | '0' :: 'b' :: r => isGrouped isBinary r
  | '0' :: 'x' :: r => isGrouped isHex r
  | '0' :: r => isGrouped isOctal r
  | r =>
    let (first, parts) := colonParts (· == ':') r
    isFirstPart first && parts.all isSixtieth

/-- An exponent, which has a sign. -/
def isExponent : List Char → Bool
  | [] => true
  | e :: sign :: ds => (e == 'e' || e == 'E') && isSign sign && !ds.isEmpty && ds.all Char.isDigit
  | _ => false

/-- Groups of digits before and after a point, and what follows them. -/
def pointed? (cs : List Char) : Option (List Char × List Char × List Char) :=
  let whole := cs.takeWhile fun c => c.isDigit || c == '_'
  match cs.drop whole.length with
  | '.' :: r =>
    let fraction := r.takeWhile fun c => c.isDigit || c == '_'
    some (whole, fraction, r.drop fraction.length)
  | _ => none

/-- A number in sixtieths whose last part has a point. -/
def looksSixtieths (cs : List Char) : Bool :=
  let (first, parts) := colonParts (· == ':') cs
  match parts.reverse with
  | [] => false
  | last :: middle => match pointed? last with
    | some (whole, _, []) => isFirstPart first && (whole :: middle).all isSixtieth
    | _ => false

/-- A number with a point. Only one that begins with a digit has a sign. -/
def looksReal (cs : List Char) : Bool :=
  let r := dropSign cs
  infinityWords.contains (String.ofList r) || looksSixtieths r || match pointed? r with
    | some (whole, fraction, power) =>
      isExponent power && (startsDecimal whole ||
        (whole.isEmpty && startsDecimal fraction && r.length == cs.length))
    | none => false

/-! Numbers. -/

def isCode (c : Char) (code : Nat) : Bool := code == c.toNat

/-- Low lines group the digits of a number. -/
def ungroup (cs : Text.Codes) : Text.Codes := cs.filter (!isCode '_' ·)

/-- Whether a number is negative, and its text without the sign. An empty text has no first
character. -/
def signed? (cs : Text.Codes) : Result (Bool × Text.Codes) :=
  match cs with
  | [] => .error .outOfRange
  | c :: r =>
    if isCode '-' c then .ok (true, r) else if isCode '+' c then .ok (false, r)
    else .ok (false, c :: r)

def integerIn (base : Nat) (cs : Text.Codes) : Result Int :=
  match Text.inBase? base (cs.map Text.charOr) with
  | some n =>
    if base == 10 then .ofDigits (cs.countP fun c => Text.isDigit (Text.charOr c)) n else .ok n
  | none => .error (.value (.unreadableInteger base cs))

/-- The text of an integer; the parts between colons are sixtieths of the ones before them. -/
def integerOf (cs : Text.Codes) : Result Int := do
  let (negative, r) ← signed? (ungroup cs)
  let magnitude ← match r with
    | [] => throw .outOfRange
    | z :: ds =>
      if !isCode '0' z then
        let (first, parts) := colonParts (isCode ':') r
        (first :: parts).foldlM (fun n p => do return n * 60 + (← integerIn 10 p)) 0
      else match ds with
        | [] => pure 0
        | m :: ds =>
          if isCode 'b' m then integerIn 2 ds
          else if isCode 'x' m then integerIn 16 ds
          else integerIn 8 r
  return if negative then -magnitude else magnitude

/-- An exponent, which may have a sign. -/
def exponent? : List Char → Option Int
  | [] => some 0
  | e :: r =>
    let ds := dropSign r
    if (e == 'e' || e == 'E') && !ds.isEmpty && ds.all Char.isDigit then
      some (Number.signed (r.head? == some '-') (Text.digitsValue ds))
    else none

def unsignedReal? (cs : List Char) : Option Float :=
  if ["inf", "infinity"].contains (String.ofList cs) then some (Number.infinity false)
  else if String.ofList cs == "nan" then some Number.notANumber
  else
    let whole := cs.takeWhile Char.isDigit
    let (fraction, r) := match cs.drop whole.length with
      | '.' :: r => (r.takeWhile Char.isDigit, r.dropWhile Char.isDigit)
      | r => ([], r)
    if whole.isEmpty && fraction.isEmpty then none
    else (exponent? r).map fun e =>
      Number.ofDecimal false (Text.digitsValue (whole ++ fraction)) (e - fraction.length)

/-- A digit of any script as one of ASCII. -/
def plainDigit (c : Char) : Char :=
  match Text.digitValue? c with
  | some d => Char.ofNat ('0'.toNat + d)
  | none => c

def realIn (cs : Text.Codes) : Result Float :=
  let blank (c : Char) : Bool := Text.isBlank c && !Text.isSeparator c
  let (negative, r) := Text.takeSign ((Text.trimBy blank (cs.map Text.charOr)).map plainDigit)
  match unsignedReal? r with
  | some x => .ok (if negative then -x else x)
  | none => .error (.value (.unreadableReal cs))

/-- The sum of parts, each worth sixty times the one after it, from the last to the first. -/
def sumSixtieths : Nat → Float → List Float → Result Float
  | _, total, [] => .ok total
  | base, total, x :: r =>
    match Number.ofInt? base with
    | some weight => sumSixtieths (base * 60) (total + x * weight) r
    | none => .error (.arithmetic .intTooLarge)

/-- Halves of characters have no case. -/
def lowerCodes (cs : Text.Codes) : Text.Codes :=
  if cs.all Nat.isValidChar then (Text.lowerAfter false (cs.map Char.ofNat)).map Char.toNat
  else cs.flatMap fun code =>
    if code.isValidChar then (Text.lowerChar (Char.ofNat code)).map Char.toNat else [code]

/-- The text of a number that may have a fraction. -/
def realOf (cs : Text.Codes) : Result Data := do
  let (negative, r) ← signed? (lowerCodes (ungroup cs))
  if r == Text.codes ".inf" then return .real (Number.infinity negative)
  else if r == Text.codes ".nan" then return .undefined
  else
    let x ← match colonParts (isCode ':') r with
      | (_, []) => realIn r
      | (first, parts) => do sumSixtieths 1 0 (← (first :: parts).mapM realIn).reverse
    return .real (if negative then -x else x)

/-! Days and moments. -/

/-- A number of at least and at most so many digits. -/
def count? (low high : Nat) (cs : List Char) : Option (Nat × List Char) :=
  let ds := (cs.take high).takeWhile Char.isDigit
  if ds.length < low then none else some (Text.digitsValue ds, cs.drop ds.length)

def expect? (c : Char) : List Char → Option (List Char)
  | x :: r => if x == c then some r else none
  | [] => none

/-- How many minutes a moment's clock is ahead, if it says so. -/
def zoneMinutes? (cs : List Char) : Option (Option Int) := do
  match cs.dropWhile fun c => c == ' ' || c == '\t' with
  | [] => if cs.isEmpty then return none else none
  | ['Z'] => return some 0
  | sign :: r =>
    if !isSign sign then none
    let (hours, r) ← count? 1 2 r
    let minutes ← match r with
      | [] => some 0
      | ':' :: r => match count? 2 2 r with
        | some (m, []) => some m
        | _ => none
      | _ => none
    return some (Number.signed (sign == '-') (hours * 60 + minutes))

/-- The first six places of a second's fraction. -/
def microseconds (ds : List Char) : Nat :=
  let ds := ds.take 6
  Text.digitsValue (ds ++ List.replicate (6 - ds.length) '0')

def moment (year month day hour minute second micro : Nat) (zone : Option Int) :
    Except CalendarFault Data := do
  let zone ← zone.mapM Zone.of?
  return .moment (← Date.of? year month day) (← Clock.of? hour minute second micro) zone

/-- A day, or a moment. -/
def time? (cs : List Char) : Option (Result Data) := do
  let (year, r) ← count? 4 4 cs
  let (month, r) ← count? 1 2 (← expect? '-' r)
  let (day, r) ← count? 1 2 (← expect? '-' r)
  let result (x : Except CalendarFault Data) : Result Data := x.mapError (.value <| .calendar ·)
  match r with
  | [] => return result ((Date.of? year month day).map .date)
  | c :: _ =>
    let r' := if c == 'T' || c == 't' then r.drop 1 else r.dropWhile fun c => c == ' ' || c == '\t'
    if r'.length == r.length then none
    let (hour, r) ← count? 1 2 r'
    let (minute, r) ← count? 2 2 (← expect? ':' r)
    let (second, r) ← count? 2 2 (← expect? ':' r)
    let (fraction, r) := match r with
      | '.' :: r => (r.takeWhile Char.isDigit, r.dropWhile Char.isDigit)
      | r => ([], r)
    return result (moment year month day hour minute second (microseconds fraction)
      (← zoneMinutes? r))

/-- A plain scalar that is a day alone has all its digits. -/
def plainTime? (cs : List Char) : Option (Result Data) :=
  if cs.all (fun c => c.isDigit || c == '-') && cs.length != 10 then none else time? cs

/-! Values. -/

/-- A text as a truth value, in any case. -/
def truthOf (cs : Text.Codes) : Result Data :=
  let w := Text.lower (Text.repaired cs)
  if ["yes", "true", "on"].contains w then .ok (.bool true)
  else if ["no", "false", "off"].contains w then .ok (.bool false)
  else .error .missingEntry

/-- A text as bytes, which are written in ASCII. -/
def bytesOf (cs : Text.Codes) : Result Data :=
  if cs.any (128 ≤ ·) then .error (.malformed .yaml)
  else match Text.Base64.decode? cs with
    | some bs => .ok (.bytes bs)
    | none => .error (.malformed .yaml)

/-- A text as a day or a moment. A line break may end it. -/
def timeOf (cs : Text.Codes) : Result Data :=
  let cs := cs.map Text.charOr
  match time? (if cs.getLast? == some '\n' then cs.dropLast else cs) with
  | some v => v
  | none => .error .unreadableTime

/-- The value of a plain scalar. -/
def plainValue (cs : Text.Codes) : Result Data :=
  let chars := cs.map Text.charOr
  let s := String.ofList chars
  if nullWords.contains s then .ok .null
  else if truthWords.contains s then truthOf cs
  else if undefinedWords.contains s then .ok .undefined
  else if looksReal chars then realOf cs
  else if looksInteger chars then (integerOf cs).map .int
  else (plainTime? chars).getD (.ok (.text s))

end CharacterSheet.Data.Yaml
