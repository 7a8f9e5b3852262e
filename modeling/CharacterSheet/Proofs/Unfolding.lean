import CharacterSheet.Proofs.Ranked
import Mathlib.Data.Nat.Find

/-! Readings as equations. The depth of a reading is enough for every reading that comes to an end at
all, with one step to spare: going down from query to query, each registered name is met once at most,
and between two of them each trait, for a query that is met again within itself never ends. So a
character's answers solve the equations that make one answer out of others, and nothing else needs to
be known of the depth. And an answer that is given while some names are being looked up is given as
well while fewer of them are. -/

namespace CharacterSheet.Character

open Result

section

variable {c : Character} {busy busy' : List String} {q q' : Query} {t : Trait} {n m : Nat}

/-! ## Going further down -/

theorem askWithin_extends (hle : n ≤ m) : Extends (c.askWithin n busy q) (c.askWithin m busy q) := by
  induction n generalizing m busy q with
  | zero => exact fun h => absurd rfl h
  | succ n ih =>
    obtain ⟨m, rfl⟩ := Nat.exists_eq_succ_of_ne_zero (Nat.ne_zero_of_lt hle)
    rw [askWithin, askWithin]
    exact carried_answer carries_extends fun _ _ _ => ih (Nat.le_of_succ_le_succ hle)

/-- The queries about a character, which ask for none but its own traits. -/
def Own (c : Character) : Query → Prop
  | .trait t => t ∈ c.traits
  | .value _ => True

theorem Consults.own (h : Consults c busy q busy' q') : c.Own q' := by
  cases h with
  | source _ => trivial
  | member _ hu => exact mem_of_present hu
  | reserved hu => exact mem_of_behind hu
  | owner _ _ ht => exact List.mem_of_find?_eq_some ht
  | again => trivial

open Classical in
/-- The traits for which going down `n` times is enough. -/
noncomputable def reached (c : Character) (busy : List String) (n : Nat) : Finset Trait :=
  c.traits.toFinset.filter fun t => Ends (c.askWithin n busy (.trait t))

theorem mem_reached : t ∈ c.reached busy n ↔ t ∈ c.traits ∧ Ends (c.askWithin n busy (.trait t)) := by
  classical
  rw [reached, Finset.mem_filter, List.mem_toFinset]

theorem reached_subset : c.reached busy n ⊆ c.reached busy (n + 1) := by
  intro t ht
  obtain ⟨ht, hends⟩ := mem_reached.mp ht
  rw [mem_reached, askWithin_extends (Nat.le_succ n) hends]
  exact ⟨ht, hends⟩

theorem card_reached_lt (ht : t ∈ c.traits) (hends : Ends (c.askWithin (n + 1) busy (.trait t)))
    (hcut : ¬ Ends (c.askWithin n busy (.trait t))) :
    (c.reached busy n).card < (c.reached busy (n + 1)).card := by
  apply Finset.card_lt_card
  rw [Finset.ssubset_iff_of_subset reached_subset]
  exact ⟨t, mem_reached.mpr ⟨ht, hends⟩, fun hm => hcut (mem_reached.mp hm).2⟩

theorem card_reached_le (c : Character) (busy : List String) (n : Nat) :
    (c.reached busy n).card ≤ c.traits.length := by
  classical
  exact (Finset.card_le_card (Finset.filter_subset _ _)).trans (List.toFinset_card_le c.traits)

/-- A text takes one step more than the traits that stand behind it. -/
def Query.lead : Query → Nat
  | .trait _ => 0
  | .value _ => 1

/-- A query that going down `n + 1` times is just enough for consults one for which going down `n`
times is just enough. -/
theorem exists_consulted (hends : Ends (c.askWithin (n + 2) busy q))
    (hcut : ¬ Ends (c.askWithin (n + 1) busy q)) : ∃ busy' q', Consults c busy q busy' q' ∧
      Ends (c.askWithin (n + 1) busy' q') ∧ ¬ Ends (c.askWithin n busy' q') := by
  by_contra hno
  push Not at hno
  -- If it did not, one step more would not have changed the answer.
  have hsame : c.askWithin (n + 2) busy q = c.askWithin (n + 1) busy q := by
    rw [askWithin, askWithin]
    apply carried_answer carries_eq
    intro busy' q' hc
    by_cases h : Ends (c.askWithin (n + 1) busy' q')
    · exact askWithin_extends (Nat.le_succ n) (hno busy' q' hc h)
    · have hless : ¬ Ends (c.askWithin n busy' q') := fun he =>
        h (by rw [askWithin_extends (Nat.le_succ n) he]; exact he)
      rw [not_not.mp h, not_not.mp hless]
  exact hcut (hsame ▸ hends)

/-- How far down a query goes that comes to an end: within the traits that are reached on the way, two
steps for each of them, and what is set aside for the names. -/
theorem height_le (hq : c.Own q) (hends : Ends (c.askWithin (n + 1) busy q))
    (hcut : ¬ Ends (c.askWithin n busy q)) :
    n + 1 ≤ c.reserve busy + 2 * (c.reached busy (n + 1)).card + q.lead := by
  induction n generalizing busy q with
  | zero =>
    cases q with
    | trait t =>
      have hpos := card_reached_lt hq hends hcut
      omega
    | value v => rw [Query.lead]; omega
  | succ n ih =>
    obtain ⟨busy', q', hc, hends', hcut'⟩ := exists_consulted hends hcut
    have hbelow := ih hc.own hends' hcut'
    have hmore : (c.reached busy (n + 1)).card ≤ (c.reached busy (n + 1 + 1)).card :=
      Finset.card_le_card reached_subset
    cases hc with
    | source hs =>
      have hlt := card_reached_lt hq hends hcut
      simp only [Query.lead] at hbelow ⊢
      omega
    | member hm hu =>
      have hlt := card_reached_lt hq hends hcut
      simp only [Query.lead] at hbelow ⊢
      omega
    | reserved hu =>
      simp only [Query.lead] at hbelow ⊢
      omega
    | @owner s id t hfree hb ht =>
      have hreserve := reserve_cons hb hfree
      have hall := c.card_reached_le ((splitSign s).2 :: busy) (n + 1)
      simp only [Query.lead] at hbelow ⊢
      omega
    | @again s id v hfree hb =>
      have hreserve := reserve_cons hb hfree
      have hall := c.card_reached_le ((splitSign s).2 :: busy) (n + 1)
      simp only [Query.lead] at hbelow ⊢
      omega

theorem askWithin_succ (hq : c.Own q) (hn : c.depth ≤ n + 1) :
    c.askWithin (n + 1) busy q = c.askWithin n busy q := by
  by_cases hcut : Ends (c.askWithin n busy q)
  · exact askWithin_extends (Nat.le_succ n) hcut
  · by_cases hends : Ends (c.askWithin (n + 1) busy q)
    · have hheight := height_le hq hends hcut
      have hall := c.card_reached_le busy (n + 1)
      have hreserve := c.reserve_le busy
      have hlead : q.lead ≤ 1 := by
        cases q with
        | trait t => exact Nat.zero_le 1
        | value v => exact le_rfl
      omega
    · rw [not_not.mp hcut, not_not.mp hends]

theorem depth_pos (c : Character) : 0 < c.depth := by
  have hreserve := c.reserve_le []
  omega

/-- The depth of a character is as good as any greater one, and has one step to spare. -/
theorem askWithin_eq_ask (hq : c.Own q) (hn : c.depth ≤ n + 1) :
    c.askWithin n busy q = c.ask busy q := by
  have hsame : ∀ k, c.askWithin (c.depth - 1 + k) busy q = c.askWithin (c.depth - 1) busy q := by
    intro k
    induction k with
    | zero => rfl
    | succ k ih =>
      have hdeep : c.depth ≤ c.depth - 1 + k + 1 := by omega
      exact (askWithin_succ hq hdeep).trans ih
  have hpos := c.depth_pos
  have hleft := hsame (n - (c.depth - 1))
  have hright := hsame 1
  rw [show c.depth - 1 + (n - (c.depth - 1)) = n by omega] at hleft
  rw [show c.depth - 1 + 1 = c.depth by omega] at hright
  rw [hleft, ask, hright]

/-! ## The equations -/

/-- What the depth allows for is an answer made out of other such answers. -/
theorem ask_eq (c : Character) (busy : List String) (q : Query) :
    c.ask busy q = c.answer c.ask busy q := by
  obtain ⟨n, hn⟩ := Nat.exists_eq_succ_of_ne_zero c.depth_pos.ne'
  have hstep : c.ask busy q = c.answer (c.askWithin n) busy q := by rw [ask, hn, askWithin]
  rw [hstep]
  exact carried_answer carries_eq fun _ _ hc => askWithin_eq_ask hc.own hn.le

theorem value_eq (c : Character) (v : Value) : c.value v = c.expand c.ask [] v := by
  rw [value, ask_eq, answer]

theorem expandedValue_eq (c : Character) (t : Trait) :
    c.expandedValue t = c.expanded c.ask [] t := by
  rw [expandedValue, ask_eq, answer]

/-! ## Fewer names -/

/-- What a registered name stands for is its trait's value, read once more. -/
theorem registered_ok {ask : Ask} {name : String} {id : Int} {v : Value}
    (h : c.registered ask busy name id = .ok v) : ∃ t w, c.trait? id = some t ∧
      ask (name :: busy) (.trait t) = .ok w ∧ ask (name :: busy) (.value w) = .ok v := by
  unfold registered at h
  split at h
  · cases h
  · split at h
    · cases h
    · rename_i t ht
      obtain ⟨w, hw, h⟩ := Result.bind_ok h
      exact ⟨t, w, ht, hw, h⟩

theorem registered_gives {ask ask' : Ask} {name : String} {id : Int}
    (hsub : name ∈ busy' → name ∈ busy)
    (h : ∀ q, Gives (ask (name :: busy) q) (ask' (name :: busy') q)) :
    Gives (c.registered ask busy name id) (c.registered ask' busy' name id) := by
  by_cases hbusy : name ∈ busy
  · intro v hv
    rw [registered, if_pos (by simpa using hbusy)] at hv
    cases hv
  · have hboth : name ∈ busy' ↔ name ∈ busy := iff_of_false (fun hm => hbusy (hsub hm)) hbusy
    exact carried_registered carries_gives hboth (fun _ _ _ => h _) (fun _ _ => h _)

theorem askWithin_gives (hsub : ∀ name ∈ busy', name ∈ busy) :
    Gives (c.askWithin n busy q) (c.askWithin n busy' q) := by
  induction n generalizing busy busy' q with
  | zero => exact fun _ h => nomatch h
  | succ n ih =>
    have hmore : ∀ name, ∀ q, Gives (c.askWithin n (name :: busy) q)
        (c.askWithin n (name :: busy') q) := by
      intro name q
      apply ih
      intro other ho
      rcases List.mem_cons.mp ho with rfl | ho
      · exact List.mem_cons_self
      · exact List.mem_cons_of_mem _ (hsub other ho)
    rw [askWithin, askWithin]
    cases q with
    | value v =>
      rw [answer, answer]
      refine carried_expand carries_gives fun s _ => ?_
      exact carried_reference carries_gives (fun _ _ => ih hsub) fun _ _ =>
        registered_gives (hsub _) (hmore _)
    | trait t =>
      rw [answer, answer]
      exact carried_expanded carries_gives (fun _ _ => ih hsub) fun _ _ _ => ih hsub

/-- What can be read while some names are being looked up reads the same while fewer are. -/
theorem ask_gives (hsub : ∀ name ∈ busy', name ∈ busy) : Gives (c.ask busy q) (c.ask busy' q) :=
  askWithin_gives hsub

/-- What can be read at some depth can be read at the depth of the character. -/
theorem askWithin_gives_ask (hq : c.Own q) : Gives (c.askWithin n busy q) (c.ask busy q) := by
  intro v hv
  have hdeep := askWithin_extends (le_max_left n c.depth) (hv ▸ ends_ok v)
  rw [← askWithin_eq_ask hq (Nat.le_succ_of_le (le_max_right n c.depth)), hdeep, hv]

/-- What can be read at some depth and while some names are being looked up reads the same from
outside. -/
theorem ask_of_askWithin (hq : c.Own q) {v : Value} (h : c.askWithin n busy q = .ok v) :
    c.ask [] q = .ok v :=
  askWithin_gives_ask hq v (askWithin_gives (fun _ ho => absurd ho List.not_mem_nil) v h)

/-- The shallowest of all readings of a query that gives a value. -/
theorem exists_shallowest (hq : c.Own q) {v : Value} (h : c.ask [] q = .ok v) :
    ∃ n busy, c.askWithin (n + 1) busy q = .ok v ∧
      ∀ m < n + 1, ∀ b u, c.askWithin m b q ≠ .ok u := by
  classical
  have hex : ∃ n b u, c.askWithin n b q = .ok u := ⟨_, _, _, h⟩
  obtain ⟨busy, u, hu⟩ := Nat.find_spec hex
  have hleast : ∀ m < Nat.find hex, ∀ b u, c.askWithin m b q ≠ .ok u :=
    fun m hm b u hr => Nat.find_min hex hm ⟨b, u, hr⟩
  have hsame := ask_of_askWithin hq hu
  rw [h] at hsame
  obtain rfl := Except.ok.inj hsame
  generalize Nat.find hex = n at hu hleast
  cases n with
  | zero => cases hu
  | succ n => exact ⟨n, busy, hu, hleast⟩

end

end CharacterSheet.Character
