/-!
Bytes written in base 64: four characters for three bytes. Characters of no digit are passed over,
and the text ends where a group is filled up with equals signs.
-/
namespace CharacterSheet.Text.Base64

def digit? (code : Nat) : Option Nat :=
  let c := Char.ofNat code
  if c.isUpper then some (code - 'A'.toNat)
  else if c.isLower then some (code - 'a'.toNat + 26)
  else if c.isDigit then some (code - '0'.toNat + 52)
  else if c == '+' then some 62
  else if c == '/' then some 63
  else none

/-- How many digits of a group were read, the bits of them that are in no byte yet, and how many
equals signs came after them. -/
structure Group where
  size : Nat
  bits : Nat
  signs : Nat

/-- A further digit of a group, and the byte that it completes. -/
def Group.push (g : Group) (d : Nat) : Group × List UInt8 :=
  match g.size with
  | 0 => (⟨1, d, 0⟩, [])
  | 1 => (⟨2, d % 16, 0⟩, [UInt8.ofNat (g.bits * 4 + d / 16)])
  | 2 => (⟨3, d % 4, 0⟩, [UInt8.ofNat (g.bits * 16 + d / 4)])
  | _ => (⟨0, 0, 0⟩, [UInt8.ofNat (g.bits * 64 + d)])

/-- Decodes codes of characters, unless the last group is cut short. -/
def decodeFrom (g : Group) : List Nat → Option (List UInt8)
  | [] => if g.size == 0 then some [] else none
  | code :: r =>
    if code == '='.toNat then
      if g.size < 2 then decodeFrom g r
      else if 4 ≤ g.size + g.signs + 1 then some []
      else decodeFrom { g with signs := g.signs + 1 } r
    else match digit? code with
      | none => decodeFrom g r
      | some d =>
        let (g, bytes) := g.push d
        (decodeFrom g r).map (bytes ++ ·)

def decode? (codes : List Nat) : Option (List UInt8) := decodeFrom ⟨0, 0, 0⟩ codes

end CharacterSheet.Text.Base64
