import CharacterSheet.Fault

/-!
The scalars of TOML: keys, strings, numbers, days and times. Each reader takes what it reads off the
front of a text.
-/
namespace CharacterSheet.Data.Toml

def isGap (c : Char) : Bool := c == ' ' || c == '\t'

def skipGaps (cs : List Char) : List Char := cs.dropWhile isGap

/-- Control characters other than the tab stand nowhere on a line. -/
def isControl (c : Char) : Bool := (c.toNat < 0x20 && c != '\t') || c.toNat == 0x7F

/-- Passes over a comment. -/
def skipComment (cs : List Char) : Option (List Char) :=
  match cs with
  | '#' :: r =>
    let rest := r.dropWhile fun c => !isControl c
    match rest with
    | [] | '\n' :: _ => some rest
    | _ => none
  | cs => some cs

/-! Strings. -/

def hexValue? (c : Char) : Option Nat :=
  if c.isDigit then some (c.toNat - '0'.toNat)
  else if 'a' ≤ c.toLower && c.toLower ≤ 'f' then some (c.toLower.toNat - 'a'.toNat + 10)
  else none

def isHex (c : Char) : Bool := (hexValue? c).isSome

def natOf (base : Nat) (ds : List Char) : Nat :=
  ds.foldl (fun n c => n * base + (hexValue? c).getD 0) 0

def coded? (width : Nat) (cs : List Char) : Option (Char × List Char) :=
  let ds := cs.take width
  if ds.length < width || !ds.all isHex then none
  else
    let code := natOf 16 ds
    if code.isValidChar then some (Char.ofNat code, cs.drop width) else none

/-- The character of an escape; what follows the backslash comes first. -/
def escaped? : List Char → Option (Char × List Char)
  | 'b' :: r => some (Char.ofNat 0x08, r)
  | 't' :: r => some ('\t', r)
  | 'n' :: r => some ('\n', r)
  | 'f' :: r => some (Char.ofNat 0x0C, r)
  | 'r' :: r => some ('\r', r)
  | '"' :: r => some ('"', r)
  | '\\' :: r => some ('\\', r)
  | 'u' :: r => coded? 4 r
  | 'U' :: r => coded? 8 r
  | _ => none

def skipLines (cs : List Char) : List Char := cs.dropWhile fun c => isGap c || c == '\n'

/-- A backslash at the end of a line drops all blanks up to the next text. -/
def continued? (cs : List Char) : Option (List Char) :=
  match cs with
  | '\n' :: _ => some (skipLines cs)
  | c :: _ =>
    if isGap c then match skipGaps cs with
      | [] => some []
      | '\n' :: r => some (skipLines r)
      | _ => none
    else none
  | [] => none

/-- A string with escapes up to its closing quote, or to three of them if it may hold several
lines. -/
def basic? (multiline : Bool) : Nat → List Char → Option (List Char × List Char)
  | 0, _ => none
  | n + 1, cs =>
    let more (part : List Char) (r : List Char) : Option (List Char × List Char) :=
      (basic? multiline n r).map fun (s, r) => (part ++ s, r)
    match cs with
    | [] => none
    | '"' :: r =>
      if !multiline then some ([], r)
      else match r with
        | '"' :: '"' :: r => some ([], r)
        | r => more ['"'] r
    | '\\' :: r => match (if multiline then continued? r else none), escaped? r with
      | some r, _ => more [] r
      | none, some (c, r) => more [c] r
      | none, none => none
    | c :: r => if isControl c && !(multiline && c == '\n') then none else more [c] r

/-- A string without escapes. -/
def literal? (multiline : Bool) : List Char → Option (List Char × List Char)
  | [] => none
  | '\'' :: r =>
    if !multiline then some ([], r)
    else match r with
      | '\'' :: '\'' :: r' => some ([], r')
      | r => (literal? multiline r).map fun (s, r) => ('\'' :: s, r)
  | c :: r =>
    if isControl c && !(multiline && c == '\n') then none
    else (literal? multiline r).map fun (s, r) => (c :: s, r)

/-- Up to two quotes more may stand before the three that close a string. -/
def extraQuotes (quote : Char) (s r : List Char) : List Char × List Char :=
  match r with
  | a :: b :: r' =>
    if a == quote && b == quote then (s ++ [a, b], r')
    else if a == quote then (s ++ [a], b :: r') else (s, r)
  | [a] => if a == quote then (s ++ [a], []) else (s, r)
  | [] => (s, [])

def dropNewline : List Char → List Char
  | '\n' :: r => r
  | cs => cs

def string? (cs : List Char) : Option (List Char × List Char) :=
  match cs with
  | '"' :: '"' :: '"' :: r =>
    (basic? true (r.length + 1) (dropNewline r)).map fun (s, r) => extraQuotes '"' s r
  | '\'' :: '\'' :: '\'' :: r =>
    (literal? true (dropNewline r)).map fun (s, r) => extraQuotes '\'' s r
  | '"' :: r => basic? false (r.length + 1) r
  | '\'' :: r => literal? false r
  | _ => none

/-! Keys. -/

def isBareChar (c : Char) : Bool := c.isAlphanum || c == '-' || c == '_'

def keyPart? (cs : List Char) : Option (String × List Char) :=
  let bare := cs.takeWhile isBareChar
  if !bare.isEmpty then some (String.ofList bare, cs.drop bare.length)
  else
    let quoted := match cs with
      | '"' :: r => basic? false (r.length + 1) r
      | '\'' :: r => literal? false r
      | _ => none
    quoted.map fun (s, r) => (String.ofList s, r)

/-- Parts with points between them. -/
def key? : Nat → List Char → Option (List String × List Char)
  | 0, _ => none
  | n + 1, cs => do
    let (part, r) ← keyPart? cs
    match skipGaps r with
    | '.' :: r => do
      let (parts, r) ← key? n (skipGaps r)
      return (part :: parts, r)
    | r => return ([part], r)

/-! Numbers. -/

/-- Digits with single low lines between them. -/
def grouped (isDigit : Char → Bool) : List Char → List Char × List Char
  | '_' :: d :: r =>
    if isDigit d then
      let (ds, r) := grouped isDigit r
      (d :: ds, r)
    else ([], '_' :: d :: r)
  | d :: r =>
    if isDigit d then
      let (ds, r) := grouped isDigit r
      (d :: ds, r)
    else ([], d :: r)
  | [] => ([], [])

def digits? (isDigit : Char → Bool) (cs : List Char) : Option (List Char × List Char) :=
  if cs.head?.any isDigit then some (grouped isDigit cs) else none

def isBinary (c : Char) : Bool := c == '0' || c == '1'

def isOctal (c : Char) : Bool := '0' ≤ c && c ≤ '7'

def prefixed? : List Char → Option (Nat × List Char)
  | '0' :: 'x' :: r => (digits? isHex r).map fun (ds, r) => (natOf 16 ds, r)
  | '0' :: 'b' :: r => (digits? isBinary r).map fun (ds, r) => (natOf 2 ds, r)
  | '0' :: 'o' :: r => (digits? isOctal r).map fun (ds, r) => (natOf 8 ds, r)
  | _ => none

def takeSign : List Char → Bool × List Char
  | '+' :: r => (false, r)
  | '-' :: r => (true, r)
  | cs => (false, cs)

def whole? : List Char → Option (List Char × List Char)
  | '0' :: r => some (['0'], r)
  | cs => digits? Char.isDigit cs

def fraction (cs : List Char) : List Char × List Char :=
  match cs with
  | '.' :: r => (digits? Char.isDigit r).getD ([], cs)
  | cs => ([], cs)

def exponent (cs : List Char) : Option Int × List Char :=
  match cs with
  | e :: r =>
    let (negative, body) := takeSign r
    match digits? Char.isDigit body with
    | some (ds, r) =>
      if e == 'e' || e == 'E' then (some (Number.signed negative (natOf 10 ds)), r) else (none, cs)
    | none => (none, cs)
  | [] => (none, [])

def decimal? (cs : List Char) : Option (Data × List Char) := do
  let (negative, r) := takeSign cs
  let (whole, r) ← whole? r
  let (part, r) := fraction r
  let (power, r) := exponent r
  if part.isEmpty && power.isNone then
    return (.int (Number.signed negative (natOf 10 whole)), r)
  else
    let e := power.getD 0 - part.length
    return (.real (Number.ofDecimal negative (natOf 10 (whole ++ part)) e), r)

def special? (cs : List Char) : Option (Data × List Char) :=
  let (negative, r) := takeSign cs
  match r with
  | 'i' :: 'n' :: 'f' :: r => some (.real (Number.infinity negative), r)
  | 'n' :: 'a' :: 'n' :: r => some (.real Number.notANumber, r)
  | _ => none

def number? (cs : List Char) : Option (Data × List Char) :=
  match prefixed? cs with
  | some (n, r) => some (.int n, r)
  | none => (decimal? cs).or (special? cs)

/-! Days and times. -/

/-- A number of exactly so many digits within bounds. -/
def count? (width low high : Nat) (cs : List Char) : Option (Nat × List Char) :=
  let ds := cs.take width
  if ds.length < width || !ds.all Char.isDigit then none
  else
    let n := natOf 10 ds
    if low ≤ n && n ≤ high then some (n, cs.drop width) else none

def expect? (c : Char) : List Char → Option (List Char)
  | x :: r => if x == c then some r else none
  | [] => none

/-- The places of a second's fraction; the seventh and further ones are dropped. -/
def micro (cs : List Char) : Nat × List Char :=
  match cs with
  | '.' :: r =>
    let ds := r.takeWhile Char.isDigit
    if ds.isEmpty then (0, cs)
    else
      let kept := ds.take 6
      (natOf 10 (kept ++ List.replicate (6 - kept.length) '0'), r.drop ds.length)
  | cs => (0, cs)

def clock? (cs : List Char) : Option (Clock × List Char) := do
  let (hour, r) ← count? 2 0 23 cs
  let (minute, r) ← count? 2 0 59 (← expect? ':' r)
  let (second, r) ← count? 2 0 59 (← expect? ':' r)
  let (micro, r) := micro r
  return (⟨hour, minute, second, micro⟩, r)

def zone (cs : List Char) : Option Zone × List Char :=
  match cs with
  | 'Z' :: r | 'z' :: r => (some 0, r)
  | sign :: r =>
    let offset : Option (Nat × List Char) := do
      let (hours, r) ← count? 2 0 23 r
      let (minutes, r) ← count? 2 0 59 (← expect? ':' r)
      return (hours * 60 + minutes, r)
    match offset with
    | some (n, r) =>
      if sign == '+' || sign == '-' then (some (Number.signed (sign == '-') n), r) else (none, cs)
    | none => (none, cs)
  | [] => (none, [])

/-- A day as it is written, which need not be on the calendar. -/
def written? (cs : List Char) : Option ((Nat × Nat × Nat) × List Char) := do
  let (year, r) ← count? 4 0 9999 cs
  let (month, r) ← count? 2 1 12 (← expect? '-' r)
  let (day, r) ← count? 2 1 31 (← expect? '-' r)
  return ((year, month, day), r)

/-- A day, or a moment if a time comes after it. -/
def moment? (date : Date) (cs : List Char) : Data × List Char :=
  match cs with
  | c :: r =>
    match clock? r with
    | some (clock, r) =>
      if c == 'T' || c == 't' || c == ' ' then
        let (z, r) := zone r
        (.moment date clock z, r)
      else (.date date, cs)
    | none => (.date date, cs)
  | [] => (.date date, [])

/-- A day or time, a number, or a word. -/
def scalar? (cs : List Char) : Option (Data × List Char) :=
  match written? cs with
  | some ((year, month, day), r) => match Date.of? year month day with
    | .ok d => some (moment? d r)
    | .error _ => none
  | none => match clock? cs with
    | some (clock, r) => some (.time clock, r)
    | none => match cs with
      | 't' :: 'r' :: 'u' :: 'e' :: r => some (.bool true, r)
      | 'f' :: 'a' :: 'l' :: 's' :: 'e' :: r => some (.bool false, r)
      | cs => number? cs

end CharacterSheet.Data.Toml
