import CharacterSheet.Proofs.Agreement
import Mathlib.Data.List.Nodup

/-! Characters that are alike. Characters of one engine with the same traits, whose tables of variables
and groups answer alike, read alike: how the tables came to be filled does not count. Tables that
answer alike have as many entries, so the readings go down as far. -/

namespace CharacterSheet

/-- Tables that answer alike have as many entries. -/
theorem Table.length_eq {κ ν : Type} [DecidableEq κ] {t u : Table κ ν}
    (h : ∀ k, t.get? k = u.get? k) : t.entries.length = u.entries.length := by
  apply List.Perm.length_eq
  apply (List.perm_ext_iff_of_nodup (.of_map _ t.nodup) (.of_map _ u.nodup)).mpr
  rintro ⟨k, v⟩
  rw [← Table.get?_eq_some_iff, ← Table.get?_eq_some_iff, h]

namespace Character

/-- Two characters that no reading can tell apart. -/
structure Alike (c d : Character) : Prop where
  engine : d.engine = c.engine
  traits : d.traits = c.traits
  bindings : ∀ name, d.bindings.get? name = c.bindings.get? name
  groups : ∀ p, d.groups.get? p = c.groups.get? p

namespace Alike

variable {c d : Character}

theorem refl (c : Character) : Alike c c := ⟨rfl, rfl, fun _ => rfl, fun _ => rfl⟩

theorem trait? (h : Alike c d) : d.trait? = c.trait? := by
  funext id
  rw [Character.trait?, Character.trait?, h.traits]

theorem named? (h : Alike c d) (name : String) : d.named? name = c.named? name := by
  rw [Character.named?, Character.named?, h.trait?, h.engine]

theorem agree (h : Alike c d) : Agree c d where
  engine := h.engine
  depth := by rw [depth, depth, h.traits, Table.length_eq h.bindings]
  bindings := h.bindings
  owners _ id _ := congrFun h.trait? id
  members p := by rw [present, present, group, group, h.trait?, h.groups]
  virtues := h.named? _
  pathScore := h.named? _

theorem weigh (h : Alike c d) (t : Trait) (v : Data) : d.weigh t v = c.weigh t v :=
  h.agree.weigh t v

end Alike

end Character

end CharacterSheet
