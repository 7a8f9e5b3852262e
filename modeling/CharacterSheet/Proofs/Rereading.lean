import CharacterSheet.Proofs.Naming
import CharacterSheet.Proofs.WriteBack

/-! Values that are looked up once more. `Stays` is the normal form of values: what a value stands for
has it, whatever signs a text has picked up on the way, and a value that has it stands for itself. What
is no text is its own value unless it is spelled like a name. So a second look finds what the first one
has found, where no registered name begins with a minus sign. -/

namespace CharacterSheet.Character

variable {c : Character} {busy busy' : List String} {u x : Value} {v w : Data}

theorem Stays.ask (h : c.Stays x) : c.ask busy (.value x) = .ok x := by
  rw [ask_eq, answer]
  cases x with
  | int n => rfl
  | bool b => rfl
  | text s => exact Inert.expand h

/-- What a value stands for stands for itself, whichever names are being looked up. -/
theorem Sound.ask_again (h : c.Sound) (hc : c.Unsigned) (hu : c.ask busy (.value u) = .ok x) :
    c.ask busy' (.value x) = .ok x :=
  (h.stays hc hu).ask

/-- A look gives back what it is given, or what a text stands for. -/
theorem lookup_ok (hw : c.lookup v = .ok w) :
    w = v ∨ ∃ s x, c.value (.text s) = .ok x ∧ w = x.toData := by
  unfold lookup at hw
  split at hw
  · cases hw
    exact .inl rfl
  · cases hw
    exact .inl rfl
  · cases hw
    exact .inl rfl
  · obtain ⟨x, hx, hw⟩ := Result.bind_ok hw
    exact .inr ⟨_, x, hx, (Result.pure_ok hw).symm⟩
  · obtain ⟨s, _, hw⟩ := Result.bind_ok hw
    split at hw
    · obtain ⟨x, hx, hw⟩ := Result.bind_ok hw
      exact .inr ⟨_, x, hx, (Result.pure_ok hw).symm⟩
    · cases hw
      exact .inl rfl

/-- What a look finds, another look finds again. -/
theorem lookup_idempotent (h : Reachable c) (hc : c.Unsigned) (hw : c.lookup v = .ok w) :
    c.lookup w = .ok w := by
  cases lookup_ok hw with
  | inl he => rwa [he] at hw ⊢
  | inr hread =>
    obtain ⟨s, x, hx, rfl⟩ := hread
    have hagain : c.value x = .ok x := h.sound.ask_again hc hx
    rw [lookup_toData, hagain]
    rfl

/-- Doubt and Fear without Night, so that no name begins with a minus sign. -/
def nightless : Character := boundedKindred.removeTrait 7

theorem reachable_nightless : Reachable nightless := reachable_boundedKindred.acted (.removeTrait 7)

theorem unsigned_nightless : nightless.Unsigned := .of_entries (by decide)

/-- The signs that a text has picked up from trait to trait stay where they are. -/
theorem lookup_idempotent_nightless :
    nightless.lookup (.text "-DOUBT") = .ok (.text "---NIGHT") ∧
    nightless.lookup (.text "---NIGHT") = .ok (.text "---NIGHT") :=
  ⟨rfl, lookup_idempotent reachable_nightless unsigned_nightless (v := .text "-DOUBT") rfl⟩

/-- With Night there is a name that begins with one, and the second look goes further. -/
example : boundedKindred.lookup (.text "-FEAR") = .ok (.text "--NIGHT") ∧
    boundedKindred.lookup (.text "--NIGHT") = .ok (.int 9) := ⟨rfl, rfl⟩

end CharacterSheet.Character
