import CharacterSheet.Record.Scalars

/-!
Defects: records of a data file that could not be read.
-/
namespace CharacterSheet

open Record

structure Defect where
  path : String
  merged : Data
  raw : Data
  faultKind : String
  message : String

namespace Data

/-- A day and a clock time as one word. -/
def momentWord (d : Date) (c : Clock) (zone : Option Zone) : String :=
  let offset (z : Zone) : String := if z == 0 then "Z" else zoneText z
  d.text ++ "T" ++ c.text ++ (zone.map offset).getD ""

mutual

/-- A key as plain text. -/
def plainKey : Data → String
  | .bool b => if b then "true" else "false"
  | .real x => if Number.isFinite x then Number.realText x else words.null
  | .undefined => words.null
  | .bytes bs => (spelled? bs).getD ""
  | .moment d c zone => momentWord d c zone
  | .tuple xs => ",".intercalate (plainKeys xs)
  | k => k.display

def plainKeys : List Data → List String
  | [] => []
  | k :: r => plainKey k :: plainKeys r

end

mutual

/-- A value with nothing but lists, maps, texts and numbers in it, and with texts for keys. Numbers
without a finite value are left out. -/
def plain : Data → Data
  | .real x => if Number.isFinite x then .real x else .null
  | .undefined => .null
  | .bytes bs => .text ((spelled? bs).getD "")
  | .date d => .text d.text
  | .time c => .text c.text
  | .moment d c zone => .text (momentWord d c zone)
  | .list xs | .tuple xs | .set xs => .list (plainAll xs)
  | .map es => .map (putAll (plainEntries es) [])
  | .loop _ v => plain v
  | v => v

def plainAll : List Data → List Data
  | [] => []
  | x :: r => plain x :: plainAll r

def plainEntries : List (Data × Data) → List (Data × Data)
  | [] => []
  | (k, v) :: r => (.text (plainKey k), plain v) :: plainEntries r

end

/-- How many levels a value may have that is written plainly. -/
def mostLevels : Nat := 255

def bytesFault? (bs : List UInt8) : Option Fault :=
  if (spelled? bs).isSome then none else some .undecodable

mutual

def keyFault? : Data → Option Fault
  | .broken _ => some .unencodable
  | .bytes bs => bytesFault? bs
  | .tuple xs => keysFault? xs
  | _ => none

def keysFault? : List Data → Option Fault
  | [] => none
  | k :: r => (keyFault? k).or (keysFault? r)

end

mutual

/-- What keeps a value from being written plainly; `level` counts the value and the collections
around it. -/
def plainFault? (level : Nat) (v : Data) : Option Fault :=
  if mostLevels < level then some (.value .deepData)
  else match v with
  | .bytes bs => bytesFault? bs
  | .list xs | .tuple xs | .set xs => plainFaults? (level + 1) xs
  | .map es => entryFaults? (level + 1) es
  | .loop _ v => plainFault? level v
  | .back _ => some (.value .circularData)
  | _ => none

def plainFaults? (level : Nat) : List Data → Option Fault
  | [] => none
  | x :: r => (plainFault? level x).or (plainFaults? level r)

def entryFaults? (level : Nat) : List (Data × Data) → Option Fault
  | [] => none
  | (k, v) :: r => ((keyFault? k).or (plainFault? level v)).or (entryFaults? level r)

end

end Data

namespace Defect

def fieldNames : List String := ["path", "data", "raw_data", "exception_type", "exception_message"]

def read : Reader Defect := fields fieldNames fun es =>
  Defect.mk <$> required es "path" text
    <*> required es "data" anything
    <*> required es "raw_data" anything
    <*> required es "exception_type" text
    <*> required es "exception_message" text

def contents (d : Defect) : List (String × Data) :=
  [("path", .text d.path), ("data", d.merged), ("raw_data", d.raw),
    ("exception_type", .text d.faultKind), ("exception_message", .text d.message)]

def dump (mode : Mode) (d : Defect) : Data :=
  write .full ((kept mode d.contents).map fun f => (f.1, f.2.plain))

def writingFault? (d : Defect) : Option Fault :=
  (d.merged.plainFault? 1).or (d.raw.plainFault? 1)

def same (a b : Defect) : Bool :=
  a.path == b.path && a.merged == b.merged && a.raw == b.raw && a.faultKind == b.faultKind &&
    a.message == b.message

end Defect

end CharacterSheet
