import CharacterSheet.Proofs.Unfolding

/-! Readings that meet themselves. A query that is met again while it is being answered would have to
be answered first, so it never gives a value. Hence a query that does give one, and that every look at
a certain name would come back to, has not looked at that name, and gives the same value while the name
is being looked up. This is so of the trait that has registered the name and of what that trait's value
stands for: with both of these the name can be looked up. -/

namespace CharacterSheet.Character

open Result

section

variable {c : Character} {busy busy' : List String} {q : Query} {t : Trait} {v w x : Value}
variable {name : String} {id : Int} {n : Nat}

/-- A reading that can not have looked at a name gives the same while the name is being looked up. -/
theorem askWithin_beside (hb : c.bindings.get? name = some id)
    (hunread : ∀ m < n, ∀ b v, c.registered (c.askWithin m) b name id ≠ .ok v)
    (hsub : ∀ other ∈ busy', other = name ∨ other ∈ busy) :
    Gives (c.askWithin n busy q) (c.askWithin n busy' q) := by
  induction n generalizing busy busy' q with
  | zero =>
    intro v hv
    cases hv
  | succ n ih =>
    have hbelow : ∀ {b b' : List String} {q : Query}, (∀ other ∈ b', other = name ∨ other ∈ b) →
        Gives (c.askWithin n b q) (c.askWithin n b' q) :=
      ih fun m hm => hunread m (Nat.lt_succ_of_lt hm)
    rw [askWithin, askWithin]
    cases q with
    | trait t =>
      rw [answer, answer]
      exact carried_expanded carries_gives (fun _ _ => hbelow hsub) fun _ _ _ => hbelow hsub
    | value v =>
      rw [answer, answer]
      refine carried_expand carries_gives fun s _ => ?_
      refine carried_reference carries_gives (fun _ _ => hbelow hsub) fun other hother => ?_
      by_cases hname : (splitSign s).2 = name
      · -- the name itself: nothing can have come of it
        intro u hu
        rw [hname] at hother hu
        rw [hb] at hother
        obtain rfl := Option.some.inj hother
        exact absurd hu (hunread n (Nat.lt_succ_self n) busy u)
      · by_cases hbusy : (splitSign s).2 ∈ busy
        · intro u hu
          rw [registered, if_pos (by simpa using hbusy)] at hu
          cases hu
        · have hfree : (splitSign s).2 ∉ busy' := by
            intro hm
            exact (hsub _ hm).elim hname hbusy
          have hmore : ∀ other ∈ (splitSign s).2 :: busy', other = name ∨
              other ∈ (splitSign s).2 :: busy := by
            intro other ho
            cases List.mem_cons.mp ho with
            | inl he => exact .inr (he ▸ List.mem_cons_self)
            | inr ho => exact (hsub other ho).imp_right (List.mem_cons_of_mem _)
          exact carried_registered carries_gives (iff_of_false hfree hbusy)
            (fun _ _ _ => hbelow hmore) fun _ _ => hbelow hmore

/-- A query that every look at a name comes back to gives what it gives while the name is being looked
up. -/
theorem ask_beside (hq : c.Own q) (hb : c.bindings.get? name = some id)
    (hback : ∀ m b v, c.registered (c.askWithin m) b name id = .ok v →
      ∃ b' v', c.askWithin m b' q = .ok v')
    (h : c.ask [] q = .ok v) : c.ask [name] q = .ok v := by
  -- below the shallowest reading of the query there is no look at the name
  obtain ⟨n, b, hread, hleast⟩ := exists_shallowest hq h
  have hunread : ∀ m < n + 1, ∀ b' u, c.registered (c.askWithin m) b' name id ≠ .ok u := by
    intro m hm b' u hlook
    obtain ⟨b'', u', hu'⟩ := hback m b' u hlook
    exact hleast m hm b'' u' hu'
  have hname : ∀ other ∈ [name], other = name ∨ other ∈ b :=
    fun other ho => .inl (List.mem_singleton.mp ho)
  exact askWithin_gives_ask hq v (askWithin_beside hb hunread hname v hread)

theorem registered_ok_of_trait (ht : c.trait? id = some t)
    (h : c.registered (c.askWithin n) busy name id = .ok v) :
    ∃ w, c.askWithin n (name :: busy) (.trait t) = .ok w ∧
      c.askWithin n (name :: busy) (.value w) = .ok v := by
  obtain ⟨u, w, hu, hw, hv⟩ := registered_ok h
  rw [ht] at hu
  obtain rfl := Option.some.inj hu
  exact ⟨w, hw, hv⟩

/-- A trait that has a value, and one that stands for something, can be read through its name. -/
theorem registered_of_value (hb : c.bindings.get? name = some id) (ht : c.trait? id = some t)
    (hw : c.ask [] (.trait t) = .ok w) (hx : c.ask [] (.value w) = .ok x) :
    c.registered c.ask [] name id = .ok x := by
  have htrait : c.ask [name] (.trait t) = .ok w := by
    refine ask_beside (List.mem_of_find?_eq_some ht) hb (fun m b v hv => ?_) hw
    obtain ⟨u, hu, _⟩ := registered_ok_of_trait ht hv
    exact ⟨_, u, hu⟩
  have hagain : c.ask [name] (.value w) = .ok x := by
    refine ask_beside trivial hb (fun m b v hv => ?_) hx
    obtain ⟨u, hu, hv⟩ := registered_ok_of_trait ht hv
    have hsame := ask_of_askWithin (q := .trait t) (List.mem_of_find?_eq_some ht) hu
    rw [hw] at hsame
    obtain rfl := Except.ok.inj hsame
    exact ⟨_, v, hv⟩
  have hnone : ([] : List String).contains name = false := rfl
  rw [registered, hnone, ht]
  show (c.ask [name] (.trait t) >>= fun v => c.ask [name] (.value v)) = _
  rw [htrait]
  exact hagain

end

end CharacterSheet.Character
