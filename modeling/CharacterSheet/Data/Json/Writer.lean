import CharacterSheet.Data.Order

/-!
Values as JSON text, in ASCII, on one line, with a blank after each comma and colon. Sets are
written as sorted lists, and the doubles that JSON lacks by their names.
-/
namespace CharacterSheet.Data.Json

def realLayout : Number.RealLayout :=
  { Number.plainLayout with infinite := "Infinity", undefined := "NaN" }

def unit (n : Nat) : List Char := '\\' :: 'u' :: Text.hex 4 n

def escape (code : Nat) : List Char :=
  if code == '"'.toNat || code == '\\'.toNat then ['\\', Char.ofNat code]
  else if code == '\n'.toNat then ['\\', 'n']
  else if code == '\r'.toNat then ['\\', 'r']
  else if code == '\t'.toNat then ['\\', 't']
  else if code == 0x08 then ['\\', 'b']
  else if code == 0x0C then ['\\', 'f']
  else if 0x20 ≤ code && code ≤ 0x7E then [Char.ofNat code]
  else if code < 0x10000 then unit code
  else
    let n := code - 0x10000
    unit (0xD800 + n / 0x400) ++ unit (0xDC00 + n % 0x400)

def quoteCodes (cs : Text.Codes) : String :=
  String.ofList ('"' :: (cs.flatMap escape ++ ['"']))

def quote (s : String) : String := quoteCodes (Text.codes s)

/-- A key between quotes. Numbers, truth values and nothing are spelled out. -/
def key? : Data → Result String
  | .text s => .ok (quote s)
  | .broken cs => .ok (quoteCodes cs)
  | .real x => .ok (quote (realLayout.write x))
  | .undefined => .ok (quote realLayout.undefined)
  | .bool b => .ok (quote (if b then "true" else "false"))
  | .null => .ok (quote "null")
  | .int n => .ok (quote (toString n))
  | _ => .error .wrongKind

def brackets (parts : List String) : String := "[" ++ ", ".intercalate parts ++ "]"

mutual

def write : Data → Result String
  | .null => .ok "null"
  | .bool b => .ok (if b then "true" else "false")
  | .int n => .ok (toString n)
  | .real x => .ok (realLayout.write x)
  | .undefined => .ok realLayout.undefined
  | .text s => .ok (quote s)
  | .broken cs => .ok (quoteCodes cs)
  | .list xs | .tuple xs => do return brackets (← writeAll xs)
  | .set xs => do
    let written ← writePaired xs
    let order ← sorted? xs
    return brackets (order.filterMap fun x => (written.find? fun p => p.1 == x).map (·.2))
  | .map es => do return "\x7b" ++ ", ".intercalate (← writeEntries es) ++ "\x7d"
  | .bytes _ | .date _ | .time _ | .moment .. => .error .wrongKind
  | .loop .. | .back _ => .error (.value .circularData)

def writeAll : List Data → Result (List String)
  | [] => .ok []
  | x :: r => do
    let t ← write x
    return t :: (← writeAll r)

def writePaired : List Data → Result (List (Data × String))
  | [] => .ok []
  | x :: r => do
    let t ← write x
    return (x, t) :: (← writePaired r)

def writeEntries : List (Data × Data) → Result (List String)
  | [] => .ok []
  | (k, v) :: r => do
    let t := (← key? k) ++ ": " ++ (← write v)
    return t :: (← writeEntries r)

end

end CharacterSheet.Data.Json
