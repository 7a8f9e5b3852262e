import CharacterSheet.Number.Arithmetic

/-!
Comparing integers and doubles by their exact values, without rounding either.
-/
namespace CharacterSheet.Number

inductive Extent where
  | finite (num : Int) (den : Nat)
  | infinite (negative : Bool)
  | undefined
  deriving DecidableEq, Repr

def extent : Number → Extent
  | .int n => .finite n 1
  | .real x => match shape x with
    | .finite negative m e =>
      let (n, d) := scaled m 1 (-e)
      .finite (signed negative n) d
    | .infinite negative => .infinite negative
    | .undefined => .undefined

def Extent.same : Extent → Extent → Bool
  | .finite n d, .finite n' d' => n * d' == n' * d
  | .infinite s, .infinite s' => s == s'
  | _, _ => false

def Extent.below : Extent → Extent → Bool
  | .finite n d, .finite n' d' => n * d' < n' * d
  | .finite .., .infinite negative => !negative
  | .infinite negative, .finite .. => negative
  | .infinite negative, .infinite negative' => negative && !negative'
  | _, _ => false

def same (a b : Number) : Bool := a.extent.same b.extent

def below (a b : Number) : Bool := a.extent.below b.extent

end CharacterSheet.Number
