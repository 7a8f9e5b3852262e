import CharacterSheet.Text.Codes
import CharacterSheet.Text.Printable

/-!
A text between quotes, on one line, with everything visible. The quote is the apostrophe, unless the
text holds apostrophes and no double quotes. Bytes are quoted alike, with all but ASCII escaped.
-/
namespace CharacterSheet.Text

/-- A code in lower-case hexadecimal, filled up with zeros to a width. -/
def hex (width n : Nat) : List Char :=
  let ds := Nat.toDigits 16 n
  List.replicate (width - ds.length) '0' ++ ds

/-- A code that has to be visible where it stands, if it is. -/
def escapeCode (quote : Char) (isVisible : Nat → Bool) (n : Nat) : List Char :=
  if n == quote.toNat || n == '\\'.toNat then ['\\', charOr n]
  else if n == '\n'.toNat then ['\\', 'n']
  else if n == '\r'.toNat then ['\\', 'r']
  else if n == '\t'.toNat then ['\\', 't']
  else if isVisible n then [charOr n]
  else if n < 0x100 then '\\' :: 'x' :: hex 2 n
  else if n < 0x10000 then '\\' :: 'u' :: hex 4 n
  else '\\' :: 'U' :: hex 8 n

def quoteFor (cs : Codes) : Char :=
  if cs.contains '\''.toNat && !cs.contains '"'.toNat then '"' else '\''

def quoteWith (isVisible : Nat → Bool) (cs : Codes) : List Char :=
  let q := quoteFor cs
  q :: (cs.flatMap (escapeCode q isVisible) ++ [q])

def quoteCodes (cs : Codes) : List Char := quoteWith isPrintable cs

def quote (s : String) : String := String.ofList (quoteCodes (codes s))

def isVisibleByte (n : Nat) : Bool := 0x20 ≤ n && n < 0x7F

def quoteBytes (bs : List UInt8) : String :=
  String.ofList ('b' :: quoteWith isVisibleByte (bs.map UInt8.toNat))

end CharacterSheet.Text
