import CharacterSheet.Proofs.Clamping
import CharacterSheet.Proofs.Guarding
import CharacterSheet.Proofs.Revaluing
import CharacterSheet.Proofs.Weighing

/-! What has been assigned. An accepted value is weighed against bounds that are read before it is
set, and it is read against bounds that are read afterwards. The two can only differ if the bounds come
back to the trait itself: but then the trait could not be read at all. For at the least depth at which
it can be read, nothing below it has read the trait, so nothing there can tell the raw values apart.
Where it can not be read, the reading is led along the one before, until it meets a name that is being
looked up, or for ever. -/

namespace CharacterSheet

/-- A reading has come back to where it was, at a name that guards it or without a guard. -/
def Fault.ComesBack (f : Fault) : Prop := f.IsCircular ∨ f = .endless

namespace Character

open Result

section

variable {c d : Character} {t : Trait} {v : Data} {s : String} {w x : Value} {n : Int}

/-! ## Acceptance -/

/-- All that it takes for a value to be accepted, and what is left behind. -/
theorem assign_taken_iff : c.assign t v = .ok (d, true) ↔
    t.profile.derivation.isAssignable = true ∧ c.weighBounds t v = .ok none ∧
    ∃ s, v.textOf? = .ok (some s) ∧ (t.profile.possible = [] ∨ s ∈ t.profile.possible) ∧
      d = c.setRaw t.id s := by
  rw [assign, weigh]
  cases t.profile.derivation.isAssignable with
  | false =>
    cases v.shown <;>
      simp [bind, Except.bind, pure, Except.pure, Decision.computed, Decision.refused]
  | true =>
    cases hb : c.weighBounds t v with
    | error f => simp [bind, Except.bind]
    | ok refusal =>
      rcases weighBounds_ok hb with ⟨rfl, _⟩ | ⟨r, rfl, hr, _⟩
      · cases htext : v.textOf? with
        | error f => simp [bind, Except.bind]
        | ok found =>
          cases found with
          | none => cases v.shown <;> simp [bind, Except.bind, pure, Except.pure, Decision.refused]
          | some s =>
            by_cases hs : t.profile.possible = [] ∨ s ∈ t.profile.possible
            · simp [bind, Except.bind, pure, Except.pure, Decision.accepted, hs]
              exact eq_comm
            · cases v.shown <;>
                simp [bind, Except.bind, pure, Except.pure, Decision.refused, noOption, hs]
      · cases v.shown <;> simp [bind, Except.bind, pure, Except.pure, hr]

/-! ## Raw values that are integers -/

theorem shown_of_textOf? (h : v.textOf? = .ok (some s)) : v.shown = .ok s := by
  have hmap : v.shown.map some = .ok (some s) := by
    cases v
    case null => cases h
    all_goals exact h
  obtain ⟨_, hs, he⟩ := map_ok_iff.mp hmap
  rwa [Option.some.inj he]

theorem integerText?_of_integer? (h : v.integer? = .ok (some n)) (hs : v.textOf? = .ok (some s)) :
    integerText? s = .ok (some n) := by
  have hshown := shown_of_textOf? hs
  cases hspelled : v.isSpelled with
  | true =>
    rw [Data.integer?_of_isSpelled hspelled, hshown] at h
    exact h
  | false =>
    cases v
    case int k =>
      obtain ⟨hw, rfl⟩ := Data.shown_ok_iff.mp hshown
      obtain rfl := Option.some.inj (Except.ok.inj h)
      exact Text.integerText?_toString hw
    case null | bool | real | undefined | broken => cases h
    all_goals cases hspelled

theorem expand_of_integerText? {ask : Ask} {busy : List String}
    (h : integerText? s = .ok (some n)) : c.expand ask busy (.text s) = .ok (.int n) := by
  have hne : ¬ s.isEmpty = true := by
    intro he
    rw [String.isEmpty_iff.mp he] at h
    cases h
  rw [expand, if_neg hne, h]
  rfl

end

/-! ## Reading what was assigned -/

section

variable {c : Character} {t : Trait} {s : String} {w x : Value} {busy busy' : List String}
variable {q : Query} {ask : Ask}

theorem isMain_of_isAssignable (h : t.profile.derivation.isAssignable = true) :
    t.profile.derivation.isMain = false := by
  cases hd : t.profile.derivation <;> simp_all [Derivation.isAssignable, Derivation.isMain]

theorem unclamped_of_isAssignable (h : t.profile.derivation.isAssignable = true) :
    c.unclamped ask busy t = ask busy (.value (.text t.raw)) := by
  unfold unclamped
  cases hd : t.profile.derivation <;> simp_all [Derivation.isAssignable]

/-- What the raw value stands for is the trait's value, if the bounds leave it as it is. -/
theorem expanded_of_raw (ha : t.profile.derivation.isAssignable = true)
    (hraw : ask busy (.value (.text t.raw)) = .ok w)
    (hb : ∀ n, w = .int n → ∃ b, bounds ask busy t.profile = .ok b ∧ clamp n b = n) :
    c.expanded ask busy t = .ok w := by
  rw [expanded, unclamped_of_isAssignable ha, hraw]
  cases w with
  | int n =>
    obtain ⟨b, hb, hn⟩ := hb n rfl
    show (bounds ask busy t.profile >>= fun b => pure (Value.int (clamp n b))) = _
    rw [hb]
    exact congrArg (fun k => Except.ok (Value.int k)) hn
  | bool b => rfl
  | text s => rfl

/-- A value that the trait can be read to have is made out of what was read before. -/
theorem Sound.expanded_of_expandedValue (h : c.Sound) (ht : t ∈ c.traits)
    (ha : t.profile.derivation.isAssignable = true)
    (hx : (c.setRaw t.id s).expandedValue { t with raw := s } = .ok x) :
    c.expanded c.ask [] { t with raw := s } = .ok x := by
  have hd : (c.setRaw t.id s).Sound := h.setRaw ht ha s
  have hmem : { t with raw := s } ∈ (c.setRaw t.id s).traits := mem_setRaw ht s
  have hback : (c.setRaw t.id s).setRaw t.id t.raw = c :=
    (setRaw_setRaw t.raw).trans (setRaw_self h.ascending ht)
  obtain ⟨n, busy, hread, hleast⟩ := exists_shallowest (q := .trait _) hmem hx
  have hsource : ∀ text,
      Gives (((c.setRaw t.id s).askWithin n).after t.id s busy (.value (.text text)))
        (c.ask [] (.value (.text text))) := by
    intro text u hu
    have hbefore : ((c.setRaw t.id s).setRaw t.id t.raw).askWithin n busy (.value (.text text)) =
        .ok u :=
      askWithin_unread hd.ascending hmem (fun m hm => hleast m (Nat.lt_succ_of_lt hm)) t.raw u hu
    rw [hback] at hbefore
    exact ask_of_askWithin (q := .value _) trivial hbefore
  rw [askWithin, answer_setRaw, answer] at hread
  refine carried_expanded carries_gives (fun text _ => hsource text) (fun hm => ?_) x hread
  exact absurd (hm.symm.trans (isMain_of_isAssignable ha)) (by decide)

/-- What the trait is read to have is made out of readings that were led along those before. -/
theorem expanded_along (ha : t.profile.derivation.isAssignable = true)
    (hw : c.expanded c.ask [] t = .ok w)
    (h : ∀ text, StoppedBy Fault.ComesBack Value (c.ask [] (.value (.text text)))
      (ask busy (.value (.text text)))) :
    c.expanded ask busy t = .ok w ∨ ∃ f, f.ComesBack ∧ c.expanded ask busy t = .error f := by
  refine carried_expanded (carries_stoppedBy _) (fun text _ => h text) (fun hm => ?_) w hw
  exact absurd (hm.symm.trans (isMain_of_isAssignable ha)) (by decide)

/-- Where the trait can not be read any more, readings go along those before until they are stopped.
-/
theorem Sound.ask_along (h : c.Sound) (ht : t ∈ c.traits)
    (ha : t.profile.derivation.isAssignable = true)
    (hw : c.expanded c.ask [] { t with raw := s } = .ok w)
    (hnever : ∀ m b v, (c.setRaw t.id s).askWithin m b (.trait { t with raw := s }) ≠ .ok v)
    (n : Nat) (hq : c.Own q) (hsub : busy ⊆ busy') :
    StoppedBy Fault.ComesBack Value (c.ask busy q)
      ((c.setRaw t.id s).askWithin n busy' (q.revalue t.id s)) := by
  induction n generalizing busy busy' q with
  | zero => exact stoppedBy_error (.inr rfl) _
  | succ n ih =>
    rw [askWithin, answer_setRaw]
    cases hq.eq_or_revalue h.ascending ht s with
    | inl he =>
      rw [he, Query.revalue, Trait.revalue_self, answer]
      have hsource : ∀ text, StoppedBy Fault.ComesBack Value (c.ask [] (.value (.text text)))
          (((c.setRaw t.id s).askWithin n).after t.id s busy' (.value (.text text))) :=
        fun text => ih (q := .value (.text text)) trivial (List.nil_subset busy')
      have hbelow := expanded_along (t := { t with raw := s }) ha hw hsource
      intro v _
      refine .inr (hbelow.resolve_left fun hread => ?_)
      refine hnever (n + 1) busy' w ?_
      rw [askWithin, answer_setRaw, answer, hread]
    | inr he =>
      rw [he, ask_eq]
      exact answer_guarded (carries_stoppedBy _) (fun x _ hf => stoppedBy_error (.inl hf) x)
        (fun b b' q hb hq => ih hq hb) hsub

/-- With another raw value the trait has the value that this gives with what was read before, or its
reading comes back to itself. -/
theorem Sound.expandedValue_setRaw (h : c.Sound) (ht : t ∈ c.traits)
    (ha : t.profile.derivation.isAssignable = true)
    (hw : c.expanded c.ask [] { t with raw := s } = .ok w) :
    (c.setRaw t.id s).expandedValue { t with raw := s } = .ok w ∨
    ∃ f, f.ComesBack ∧ (c.setRaw t.id s).expandedValue { t with raw := s } = .error f := by
  by_cases hnever : ∀ m b v, (c.setRaw t.id s).askWithin m b (.trait { t with raw := s }) ≠ .ok v
  · rw [expandedValue_eq, expanded_setRaw]
    exact expanded_along (t := { t with raw := s }) ha hw fun text =>
      h.ask_along (q := .value _) ht ha hw hnever _ trivial (List.nil_subset _)
  · push Not at hnever
    obtain ⟨m, b, v, hv⟩ := hnever
    have hread := ask_of_askWithin (q := .trait _) (mem_setRaw ht s) hv
    have hsame := h.expanded_of_expandedValue ht ha hread
    rw [hw] at hsame
    obtain rfl := Except.ok.inj hsame
    exact .inl hread

end

/-! ## Accepted integers -/

section

variable {α : Type} [LinearOrder α] {c d : Character} {rank : Trait → α} {t : Trait} {v : Data}
variable {s : String} {n : Int} {b : Option (Int × Int)}

/-- A raw value that is an integer adds nothing that a rank would have to go down to. -/
theorem Ranked.setRaw (h : Ranked c rank) (hasc : Ascending c.traitIds) (ht : t ∈ c.traits)
    (hs : Text.plain? s = some n) :
    Ranked (c.setRaw t.id s) fun u => rank (u.revalue t.id t.raw) := by
  have hrank : ∀ u ∈ c.traits, rank ((u.revalue t.id s).revalue t.id t.raw) = rank u := by
    intro u hu
    rw [Trait.revalue_revalue, revalue_of_mem hasc ht hu]
  -- the new raw value has no reserved name
  have hold : ∀ {u : Trait} {text word : String}, text ∈ (u.revalue t.id s).sources →
      Text.plain? word = none → (splitSign text).2 = word → text ∈ u.sources := by
    intro u text word htext hnone hword
    refine (Trait.mem_sources_revalue htext).resolve_left fun hraw => ?_
    rw [← hraw, plain?_of_splitSign (hword ▸ hnone)] at hs
    cases hs
  have hnamed : ∀ {name : String} {x : Trait}, x ∈ (c.setRaw t.id s).named? name →
      ∃ y ∈ c.named? name, rank (x.revalue t.id t.raw) = rank y := by
    intro name x hx
    rw [named?_setRaw] at hx
    obtain ⟨y, hy, rfl⟩ := Option.map_eq_some_iff.mp hx
    exact ⟨y, hy, hrank y (mem_of_named? hy)⟩
  refine ⟨?_, ?_, ?_⟩
  · intro u' hu' hm x' hx'
    obtain ⟨u, hu, rfl⟩ := mem_setRaw_iff.mp hu'
    rw [present_setRaw] at hx'
    obtain ⟨x, hx, rfl⟩ := List.mem_map.mp hx'
    rw [Trait.revalue_profile] at hm
    rw [setRaw_group, Trait.revalue_id] at hx
    show rank _ < rank _
    rw [hrank x (mem_of_present hx), hrank u hu]
    exact h.members u hu hm x hx
  · intro u' hu' text htext hname x hx
    obtain ⟨u, hu, rfl⟩ := mem_setRaw_iff.mp hu'
    obtain ⟨y, hy, he⟩ := hnamed hx
    have hsource := hname.elim (hold htext (by decide)) (hold htext (by decide))
    show rank _ < rank _
    rw [he, hrank u hu]
    exact h.virtues u hu text hsource hname y hy
  · intro u' hu' text htext hname x hx
    obtain ⟨u, hu, rfl⟩ := mem_setRaw_iff.mp hu'
    obtain ⟨y, hy, he⟩ := hnamed hx
    show rank _ < rank _
    rw [he, hrank u hu]
    exact h.pathScore u hu text (hold htext (by decide) hname) hname y hy

theorem clamp_of_mem (h : ∀ low high, b = some (low, high) → low ≤ n ∧ n ≤ high) :
    clamp n b = n := by
  cases b with
  | none => rfl
  | some b =>
    have hmem := h b.1 b.2 rfl
    show max b.1 (min b.2 n) = n
    omega

/-- An integer within the bounds is what the trait would be read to have with it as its raw value. -/
theorem expanded_integer (ha : t.profile.derivation.isAssignable = true)
    (hs : integerText? s = .ok (some n)) (hb : c.boundsOf t = .ok b)
    (hmem : ∀ low high, b = some (low, high) → low ≤ n ∧ n ≤ high) :
    c.expanded c.ask [] { t with raw := s } = .ok (.int n) := by
  have hraw : c.ask [] (.value (.text s)) = .ok (.int n) := by
    rw [ask_eq, answer, expand_of_integerText? hs]
  refine expanded_of_raw (t := { t with raw := s }) ha hraw fun k hk => ?_
  obtain rfl := Value.int.inj hk
  exact ⟨b, hb, clamp_of_mem hmem⟩

/-- An integer that a trait takes is what it then has, unless its reading comes back to itself: with a
fault at the name that it comes back to, and for ever only where the traits could not be ranked before.
-/
theorem accepted_integer_reads_back (h : Reachable c) (ht : t ∈ c.traits)
    (hn : v.integer? = .ok (some n)) (htaken : c.assign t v = .ok (d, true)) :
    ∃ u, d.trait? t.id = some u ∧ u.definition = t.definition ∧
      (d.expandedValue u = .ok (.int n) ∨
        (∃ name, d.expandedValue u = .error (.evaluation (.circular name))) ∨
        d.expandedValue u = .error .endless) ∧
      ∀ rank : Trait → α, Ranked c rank → Ends (d.expandedValue u) := by
  obtain ⟨ha, hweigh, s, htext, _, rfl⟩ := assign_taken_iff.mp htaken
  have hs := integerText?_of_integer? hn htext
  obtain ⟨b, hb, hmem⟩ : ∃ b, c.boundsOf t = .ok b ∧
      ∀ low high, b = some (low, high) → low ≤ n ∧ n ≤ high := by
    cases weighBounds_eq_none_iff.mp hweigh with
    | inl hnone =>
      rw [hn] at hnone
      cases hnone
    | inr hsome =>
      obtain ⟨k, b, hk, hb, hmem⟩ := hsome
      rw [hn] at hk
      obtain rfl := Option.some.inj (Except.ok.inj hk)
      exact ⟨b, hb, hmem⟩
  have hd : (c.setRaw t.id s).Sound := h.sound.setRaw ht ha s
  refine ⟨{ t with raw := s }, trait?_of_mem hd.ascending (mem_setRaw ht s), rfl, ?_, ?_⟩
  · cases h.sound.expandedValue_setRaw ht ha (expanded_integer ha hs hb hmem) with
    | inl hread => exact .inl hread
    | inr hfault =>
      obtain ⟨f, hback, hread⟩ := hfault
      cases hback with
      | inl hcircular =>
        obtain ⟨name, rfl⟩ := hcircular
        exact .inr (.inl ⟨name, hread⟩)
      | inr hendless => exact .inr (.inr (hendless ▸ hread))
  · intro rank hrank
    have hplain : Text.plain? s = some n :=
      Except.ok.inj ((Text.readable_iff.mp ⟨_, hs⟩).symm.trans hs)
    exact (hrank.setRaw h.sound.ascending ht hplain).ends_expandedValue (mem_setRaw ht s)

end

/-- Once Head is a text, its bound is none and any integer is taken, which is then its own bound. -/
def loosened : Character := selfBound.setRaw 1 "tail"

theorem reachable_loosened : Reachable loosened := by
  have hoffer : (selfBound.perform (.assign 1 (.text "tail"))).after = loosened := rfl
  exact hoffer ▸ reachable_selfBound.acted (.assign 1 (.text "tail"))

theorem accepted_integer_reads_back_loosened :
    (∃ t ∈ boundedMortal.traits, t.name = "Calm" ∧ t.raw = "9" ∧ ∃ d u,
      boundedMortal.assign t (.text " 2 ") = .ok (d, true) ∧ d.trait? t.id = some u ∧
      d.expandedValue u = .ok (.int 2)) ∧
    Ranked loosened Trait.id ∧
    ∃ t ∈ loosened.traits, t.name = "Head" ∧ ∃ d u, loosened.assign t (.int 5) = .ok (d, true) ∧
      d.trait? t.id = some u ∧ ∃ name, d.expandedValue u = .error (.evaluation (.circular name)) := by
  have hrank : Ranked loosened Trait.id :=
    ⟨by decide +kernel, by decide +kernel, by decide +kernel⟩
  refine ⟨⟨_, List.mem_of_getElem? (i := 2) rfl, rfl, rfl, ?_⟩, hrank, _, List.mem_cons_self, rfl, ?_⟩
  · obtain ⟨u, hu, _, hread, _⟩ := accepted_integer_reads_back (α := Int) reachable_boundedMortal
      (List.mem_of_getElem? (i := 2) rfl) (v := .text " 2 ") rfl rfl
    refine ⟨_, u, rfl, hu, ?_⟩
    obtain rfl := Option.some.inj hu
    rcases hread with hread | ⟨_, hread⟩ | hread
    · exact hread
    · cases hread
    · cases hread
  · obtain ⟨u, hu, _, hread, hends⟩ := accepted_integer_reads_back (α := Int) reachable_loosened
      List.mem_cons_self (v := .int 5) rfl rfl
    refine ⟨_, u, rfl, hu, ?_⟩
    rcases hread with hread | hread | hread
    · obtain rfl := Option.some.inj hu
      cases hread
    · exact hread
    · exact absurd hread (hends Trait.id hrank)

end Character

/-- The bound of the path score is made out of the score. -/
def Ruleset.selfScored : Ruleset :=
  .small [.small 1 "Path Score" "MINMAX|0|EFFECTIVEHUMANITY" "none"] [.small .mortal [1]]

def Engine.selfScored : Engine where
  ruleset := .selfScored
  traits :=
    ⟨TraitDefinition.finished Ruleset.selfScored.traits
      [([.minMax "0" "EFFECTIVEHUMANITY"], [])], .empty⟩
  templates := ⟨[{ TemplateDefinition.small .mortal [1] with traitIds := [1] }]⟩
  paths := .empty

theorem Engine.build_selfScored : build .selfScored = .ok .selfScored := rfl

namespace Character

open Result

def selfScored : Character where
  engine := .selfScored
  id := 0
  templates := [.mortal]
  traits := Engine.selfScored.traits.definitions.map .fresh
  bindings := .empty
  groups := .empty

theorem reachable_selfScored : Reachable selfScored := by
  have hcreate : create .selfScored ⟨0, [], [], .empty⟩ = .ok (selfScored, []) := rfl
  exact .created Engine.build_selfScored hcreate

theorem ends_value_selfScored (s : String) : Ends (selfScored.value (.text s)) := by
  have hsettled : Settled (selfScored.expand selfScored.ask [] (.text s))
      (selfScored.expand selfScored.ask [] (.text s)) := by
    refine carried_expand carries_settled fun s _ => carried_reference carries_settled ?_ nofun
    intro u hu
    obtain rfl := List.mem_singleton.mp (show u ∈ selfScored.traits from mem_of_behind hu)
    exact ⟨nofun, rfl⟩
  rw [value, ask_eq, answer]
  exact hsettled.ends

/-- All its readings end while the score is a text. It takes an integer, and none of them is a
variable that could be met again, but then its reading goes on for ever. -/
theorem accepted_integer_is_endless : Reachable selfScored ∧
    (∀ v, Ends (selfScored.lookup v)) ∧ (∀ t ∈ selfScored.traits, Ends (selfScored.expandedValue t)) ∧
    ∃ t ∈ selfScored.traits, t.profile.derivation = .standard ∧
      ∃ d u, selfScored.assign t (.int 0) = .ok (d, true) ∧ d.trait? t.id = some u ∧
        d.expandedValue u = .error .endless := by
  refine ⟨reachable_selfScored, ends_lookup ends_value_selfScored, ?_, ?_⟩
  · exact List.forall_mem_singleton.mpr nofun
  · exact ⟨_, List.mem_cons_self, rfl, _, _, rfl, rfl, rfl⟩

end Character

end CharacterSheet
