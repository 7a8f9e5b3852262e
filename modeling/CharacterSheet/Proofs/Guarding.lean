import CharacterSheet.Proofs.Unfolding

/-! What a guard can do to a reading. A name that is met again while it is being looked up stops the
reading with a fault of its own, and nothing else looks at the names that are being looked up. So under
more of them a reading goes as it goes under fewer, or is stopped by such a fault. `StoppedBy` says this
of two results, and `answer_guarded` carries it, and every other relation that lets a reading be stopped,
from what an answer consults to the answer. -/

namespace CharacterSheet

/-- A name has been met again while it was being looked up. -/
def Fault.IsCircular (f : Fault) : Prop := ∃ name, f = .evaluation (.circular name)

namespace Result

variable {α : Type} {stop : Fault → Prop}

/-- What `x` gives, `y` gives too, unless it is stopped by a certain kind of fault. -/
def StoppedBy (stop : Fault → Prop) (α : Type) (x y : Result α) : Prop :=
  ∀ a, x = .ok a → y = .ok a ∨ ∃ f, stop f ∧ y = .error f

theorem stoppedBy_error {f : Fault} (hf : stop f) (x : Result α) :
    StoppedBy stop α x (.error f) := fun _ _ => .inr ⟨f, hf, rfl⟩

theorem carries_stoppedBy (stop : Fault → Prop) : Carries (StoppedBy stop) where
  ends _ _ := .inl
  bind := by
    intro α β x y f g h hf b hb
    obtain ⟨a, ha, hb⟩ := bind_ok hb
    cases h a ha with
    | inl hy =>
      rw [hy]
      exact hf a ha b hb
    | inr hy =>
      obtain ⟨e, he, hy⟩ := hy
      rw [hy]
      exact .inr ⟨e, he, rfl⟩

end Result

namespace Character

open Result

section

variable {R : ∀ α : Type, Result α → Result α → Prop} {c : Character} {ask ask' : Ask}
variable {busy busy' : List String} {q : Query}

/-- The one place where the names that are being looked up are looked at. -/
theorem registered_guarded (hR : Carries R)
    (hstop : ∀ (x : Result Value) {f : Fault}, f.IsCircular → R Value x (.error f))
    (h : ∀ b b' q, b ⊆ b' → c.Own q → R Value (ask b q) (ask' b' q)) (hsub : busy ⊆ busy')
    (name : String) (id : Int) :
    R Value (c.registered ask busy name id) (c.registered ask' busy' name id) := by
  by_cases hbusy : name ∈ busy'
  · have hfault : c.registered ask' busy' name id = .error (.evaluation (.circular name)) :=
      if_pos (by simpa using hbusy)
    rw [hfault]
    exact hstop _ ⟨name, rfl⟩
  · have hmore : name :: busy ⊆ name :: busy' := List.cons_subset_cons name hsub
    have hboth : name ∈ busy' ↔ name ∈ busy := iff_of_false hbusy fun hm => hbusy (hsub hm)
    apply carried_registered hR hboth
    · exact fun _ t ht => h _ _ (.trait t) hmore (List.mem_of_find?_eq_some ht)
    · exact fun _ v => h _ _ (.value v) hmore trivial

/-- What holds of all answers under fewer names and under more, holds of what is made out of them. -/
theorem answer_guarded (hR : Carries R)
    (hstop : ∀ (x : Result Value) {f : Fault}, f.IsCircular → R Value x (.error f))
    (h : ∀ b b' q, b ⊆ b' → c.Own q → R Value (ask b q) (ask' b' q)) (hsub : busy ⊆ busy') :
    R Value (c.answer ask busy q) (c.answer ask' busy' q) := by
  cases q with
  | value v =>
    rw [answer, answer]
    refine carried_expand hR fun s _ => ?_
    apply carried_reference hR
    · exact fun u hu => h _ _ (.trait u) hsub (mem_of_behind hu)
    · exact fun id _ => registered_guarded hR hstop h hsub _ id
  | trait t =>
    rw [answer, answer]
    apply carried_expanded hR
    · exact fun s _ => h _ _ (.value (.text s)) hsub trivial
    · exact fun _ u hu => h _ _ (.trait u) hsub (mem_of_present hu)

end

end Character

end CharacterSheet
