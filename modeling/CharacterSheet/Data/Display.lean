import CharacterSheet.Data.Basic
import CharacterSheet.Number.Shortest
import CharacterSheet.Text.Integer
import CharacterSheet.Text.Quoted

/-!
Values as text. `display` is a value's own text and leaves a text as it is; `inspect` is how a value
stands inside another or in a message, where texts are quoted. `isWritable` says of which values there is
such a text.
-/
namespace CharacterSheet.Data

/-- The words for values without a spelling of their own. -/
structure Words where
  null : String
  yes : String
  no : String
  emptySet : String
  date : String
  time : String
  moment : String
  zone : String
  universal : String

def words : Words where
  null := "None"
  yes := "True"
  no := "False"
  emptySet := "set()"
  date := "datetime.date"
  time := "datetime.time"
  moment := "datetime.datetime"
  zone := "datetime.timezone"
  universal := "datetime.timezone.utc"

def commas (parts : List String) : String := ", ".intercalate parts

def call (name : String) (args : List String) : String := name ++ "(" ++ commas args ++ ")"

def boolText (b : Bool) : String := if b then words.yes else words.no

def clockArgs (c : Clock) : List String :=
  [toString c.hour, toString c.minute] ++
    (if c.second == 0 && c.microsecond == 0 then [] else [toString c.second]) ++
    (if c.microsecond == 0 then [] else [toString c.microsecond])

def zoneArg (z : Zone) : String :=
  if z == 0 then words.universal else call words.zone [spanText z]

/-- A collection without what is in it. -/
def elided : Data → String
  | .map _ => "\x7b...\x7d"
  | _ => "[...]"

mutual

/-- A value as it stands inside another. A loop is told by its kind alone where it is met again
within itself; `around` holds the loops that the value stands in. -/
def inspectWithin (around : List (Nat × String)) : Data → String
  | .null => words.null
  | .bool b => boolText b
  | .int n => toString n
  | .real x => Number.realText x
  | .undefined => Number.realText Number.notANumber
  | .text s => Text.quote s
  | .broken cs => String.ofList (Text.quoteCodes cs)
  | .bytes bs => Text.quoteBytes bs
  | .date d => call words.date [toString d.year, toString d.month, toString d.day]
  | .time c => call words.time (clockArgs c)
  | .moment d c zone =>
    call words.moment ([toString d.year, toString d.month, toString d.day] ++ clockArgs c ++
      (zone.map fun z => "tzinfo=" ++ zoneArg z).toList)
  | .list xs => "[" ++ commas (inspectAll around xs) ++ "]"
  | .tuple [x] => "(" ++ inspectWithin around x ++ ",)"
  | .tuple xs => "(" ++ commas (inspectAll around xs) ++ ")"
  | .set [] => words.emptySet
  | .set xs => "\x7b" ++ commas (inspectAll around xs) ++ "\x7d"
  | .map es => "\x7b" ++ commas (inspectEntries around es) ++ "\x7d"
  | .loop mark v => match around.find? fun l => l.1 == mark with
    | some l => l.2
    | none => inspectWithin ((mark, elided v) :: around) v
  | .back mark => ((around.find? fun l => l.1 == mark).map Prod.snd).getD ""

def inspectAll (around : List (Nat × String)) : List Data → List String
  | [] => []
  | x :: r => inspectWithin around x :: inspectAll around r

def inspectEntries (around : List (Nat × String)) : List (Data × Data) → List String
  | [] => []
  | (k, v) :: r =>
    (inspectWithin around k ++ ": " ++ inspectWithin around v) :: inspectEntries around r

end

def inspect (v : Data) : String := inspectWithin [] v

def display : Data → String
  | .text s => s
  | .broken cs => Text.repaired cs
  | .date d => d.text
  | .time c => c.text
  | .moment d c zone => d.text ++ " " ++ c.text ++ (zone.map zoneText).getD ""
  | v => inspect v

/-! An integer of too many digits has no text, and nothing has that such an integer stands in. -/

mutual

/-- Whether a value can be written. -/
def isWritable : Data → Bool
  | .int n => Text.isWritable n
  | .list xs | .tuple xs | .set xs => areWritable xs
  | .map es => areEntriesWritable es
  | .loop _ v => isWritable v
  | _ => true

def areWritable : List Data → Bool
  | [] => true
  | x :: r => isWritable x && areWritable r

def areEntriesWritable : List (Data × Data) → Bool
  | [] => true
  | (k, v) :: r => isWritable k && isWritable v && areEntriesWritable r

end

end CharacterSheet.Data
