import CharacterSheet.Text.Codes

/-!
The encodings of JSON files. Such a text starts with two ASCII characters, so that the zeros among
its first bytes show how many bytes a unit takes and in which order they come.
-/
namespace CharacterSheet.Data.Json

open Text (Codes)

/-- Units of one, two or four bytes; of several, the lowest or the highest comes first. -/
inductive Encoding where
  | bytes
  | pairs (lowFirst : Bool)
  | quads (lowFirst : Bool)
  deriving DecidableEq, Repr

namespace Encoding

def detect : List UInt8 → Encoding
  | [a, b] => if a == 0 then .pairs false else if b == 0 then .pairs true else .bytes
  | a :: b :: c :: d :: _ =>
    if a == 0 then if b == 0 then .quads false else .pairs false
    else if b == 0 then if c == 0 && d == 0 then .quads true else .pairs true
    else .bytes
  | _ => .bytes

/-- The number that some bytes make up, the highest one first. -/
def word (bs : List UInt8) : Nat := bs.foldl (fun n b => n * 256 + b.toNat) 0

def ordered (lowFirst : Bool) (bs : List UInt8) : List UInt8 := if lowFirst then bs.reverse else bs

/-- The units of two bytes, unless a byte is left. -/
def pairs? (lowFirst : Bool) : List UInt8 → Option Codes
  | [] => some []
  | a :: b :: r => do
    let us ← pairs? lowFirst r
    return word (ordered lowFirst [a, b]) :: us
  | _ => none

/-- The units of four bytes, unless bytes are left or a unit is beyond all characters. -/
def quads? (lowFirst : Bool) : List UInt8 → Option Codes
  | [] => some []
  | a :: b :: c :: d :: r => do
    let us ← quads? lowFirst r
    let u := word (ordered lowFirst [a, b, c, d])
    if u < 0x110000 then some (u :: us) else none
  | _ => none

/-- The codes of a text of units: a first half and the second one behind it are one character. -/
def join : Codes → Codes
  | a :: b :: r =>
    if Text.isHighHalf a && Text.isLowHalf b then Text.joinHalves a b :: join r
    else a :: join (b :: r)
  | us => us

end Encoding

/-- The codes of a file, given by its text as a file of bytes. A mark of byte order at the start of
such a text is passed over. -/
def fileCodes? (text : String) : Option Codes :=
  let bs := text.toUTF8.data.toList
  match Encoding.detect bs with
  | .pairs lowFirst => (Encoding.pairs? lowFirst bs).map Encoding.join
  | .quads lowFirst => Encoding.quads? lowFirst bs
  | .bytes => match Text.codes text with
    | 0xFEFF :: cs => some cs
    | cs => some cs

end CharacterSheet.Data.Json
