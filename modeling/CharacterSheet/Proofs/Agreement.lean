import CharacterSheet.Character.Assignment
import CharacterSheet.Character.View

/-! What readings depend on. A reading looks at a character through few openings: who has registered a
name, the members of a group, and the traits behind the reserved names. Characters that show the same
through these, and that go down as far, read alike, whatever else there is to them. This goes through
every function that looks at a character. -/

namespace CharacterSheet.Character

/-- Two characters that no reading can tell apart, unless it begins at another trait. -/
structure Agree (c d : Character) : Prop where
  engine : d.engine = c.engine
  depth : d.depth = c.depth
  bindings : ∀ name, d.bindings.get? name = c.bindings.get? name
  owners : ∀ name id, c.bindings.get? name = some id → d.trait? id = c.trait? id
  members : ∀ p, d.present (d.group p) = c.present (c.group p)
  virtues : d.named? c.engine.ruleset.virtuesTrait = c.named? c.engine.ruleset.virtuesTrait
  pathScore : d.named? c.engine.ruleset.pathScoreTrait = c.named? c.engine.ruleset.pathScoreTrait

namespace Agree

variable {c d : Character}

section

variable (h : Agree c d) (ask : Ask) (busy : List String)

include h

theorem virtuesPenalty : d.virtuesPenalty ask busy = c.virtuesPenalty ask busy := by
  rw [Character.virtuesPenalty, Character.virtuesPenalty, h.engine, h.virtues]

theorem readPathScore : d.pathScore ask busy = c.pathScore ask busy := by
  rw [Character.pathScore, Character.pathScore, h.engine, h.pathScore]

theorem effectiveHumanity : d.effectiveHumanity ask busy = c.effectiveHumanity ask busy := by
  rw [Character.effectiveHumanity, Character.effectiveHumanity, h.readPathScore, h.virtuesPenalty]

theorem reserved (name : String) : d.reserved ask busy name = c.reserved ask busy name := by
  rw [Character.reserved, Character.reserved, h.virtuesPenalty, h.effectiveHumanity, h.engine]

theorem registered {name : String} {id : Int} (hb : c.bindings.get? name = some id) :
    d.registered ask busy name id = c.registered ask busy name id := by
  rw [Character.registered, Character.registered, h.owners name id hb]

theorem reference (s : String) : d.reference ask busy s = c.reference ask busy s := by
  unfold Character.reference
  dsimp only
  rw [h.reserved, h.bindings]
  cases hb : c.bindings.get? (splitSign s).2 with
  | none => rfl
  | some id =>
    dsimp only
    rw [h.registered ask busy hb]

theorem expand (v : Value) : d.expand ask busy v = c.expand ask busy v := by
  cases v with
  | text s => rw [Character.expand, Character.expand]; simp only [h.reference]
  | int n => rfl
  | bool b => rfl

theorem unclamped (t : Trait) : d.unclamped ask busy t = c.unclamped ask busy t := by
  rw [Character.unclamped, Character.unclamped, h.members]

theorem expanded (t : Trait) : d.expanded ask busy t = c.expanded ask busy t := by
  rw [Character.expanded, Character.expanded, h.unclamped]

theorem answer (q : Query) : d.answer ask busy q = c.answer ask busy q := by
  cases q with
  | value v => exact h.expand ask busy v
  | trait t => exact h.expanded ask busy t

end

theorem askWithin (h : Agree c d) (n : Nat) : d.askWithin n = c.askWithin n := by
  induction n with
  | zero => rfl
  | succ n ih =>
    funext busy q
    rw [Character.askWithin, Character.askWithin, ih, h.answer]

theorem ask (h : Agree c d) : d.ask = c.ask := by
  rw [Character.ask, Character.ask, h.askWithin, h.depth]

/-! ## Readings from outside -/

section

variable (h : Agree c d)

include h

theorem value (v : Value) : d.value v = c.value v := by
  rw [Character.value, Character.value, h.ask]

theorem expandedValue (t : Trait) : d.expandedValue t = c.expandedValue t := by
  rw [Character.expandedValue, Character.expandedValue, h.ask]

theorem refers (s : String) : d.refers s = c.refers s := by
  rw [Character.refers, Character.refers, Table.contains, Table.contains, h.bindings]

theorem lookup (v : Data) : d.lookup v = c.lookup v := by
  unfold Character.lookup
  simp only [h.value, h.refers]

theorem minimum (t : Trait) : d.minimum t = c.minimum t := by
  rw [Character.minimum, Character.minimum, h.ask]

theorem maximum (t : Trait) : d.maximum t = c.maximum t := by
  rw [Character.maximum, Character.maximum, h.ask]

theorem boundsOf (t : Trait) : d.boundsOf t = c.boundsOf t := by
  rw [Character.boundsOf, Character.boundsOf, h.ask]

theorem display (t : Trait) : d.display t = c.display t := by
  rw [Character.display, Character.display, h.expandedValue]
  simp only [h.value]

theorem isHidden (t : Trait) : d.isHidden t = c.isHidden t := by
  rw [Character.isHidden, Character.isHidden, h.expandedValue]

theorem weigh (t : Trait) (v : Data) : d.weigh t v = c.weigh t v := by
  rw [Character.weigh, Character.weigh, weighBounds, weighBounds, h.boundsOf]

/-- Whether a power is on offer is the one thing that its main trait is asked for. -/
theorem visibility {t : Trait}
    (hmain : ∀ id, t.profile.mainTrait = some id → d.trait? id = c.trait? id) :
    d.visibility t = c.visibility t := by
  have hbind : t.profile.mainTrait.bind d.trait? = t.profile.mainTrait.bind c.trait? := by
    cases hm : t.profile.mainTrait with
    | none => rfl
    | some id => exact hmain id hm
  have hoffered : d.isOffered t = c.isOffered t := by
    unfold isOffered
    dsimp only
    rw [hbind]
    simp only [h.expandedValue]
  unfold Character.visibility
  rw [h.expandedValue, hoffered]

end

end Agree

end CharacterSheet.Character
