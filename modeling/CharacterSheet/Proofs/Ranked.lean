import CharacterSheet.Proofs.Consulting
import CharacterSheet.Proofs.Run
import Mathlib.Data.Finset.Card

/-! Readings that come to an end. A registered name is not looked up within itself, but reading the
members of a group and what stands behind a reserved name is not guarded. Where the traits can be
ranked so that these readings go down, every reading ends: the names that are not being looked up
become fewer with each registered name, and between two of them the rank falls. Since an answer may be
any text, the rank starts anew with each name. -/

namespace CharacterSheet.Character

open Result

/-- Traits with a lower rank stand behind those with a higher one, wherever no name guards a reading.
-/
structure Ranked {α : Type} [LinearOrder α] (c : Character) (rank : Trait → α) : Prop where
  members : ∀ t ∈ c.traits, t.profile.derivation.isMain = true →
    ∀ u ∈ c.present (c.group t.id), rank u < rank t
  virtues : ∀ t ∈ c.traits, ∀ s ∈ t.sources,
    (splitSign s).2 = "RESOLVEPENALTY" ∨ (splitSign s).2 = "EFFECTIVEHUMANITY" →
    ∀ u ∈ c.named? c.engine.ruleset.virtuesTrait, rank u < rank t
  pathScore : ∀ t ∈ c.traits, ∀ s ∈ t.sources, (splitSign s).2 = "EFFECTIVEHUMANITY" →
    ∀ u ∈ c.named? c.engine.ruleset.pathScoreTrait, rank u < rank t

/-! ## Traits that are there -/

section

variable {c : Character} {u : Trait}

theorem mem_of_named? {name : String} (h : u ∈ c.named? name) : u ∈ c.traits := by
  obtain ⟨id, _, hid⟩ := List.exists_of_findSome?_eq_some h
  exact List.mem_of_find?_eq_some hid

theorem mem_of_present {ids : List Int} (h : u ∈ c.present ids) : u ∈ c.traits := by
  obtain ⟨id, _, hid⟩ := List.mem_filterMap.mp h
  exact List.mem_of_find?_eq_some hid

theorem mem_behind {name : String} (h : u ∈ c.behind name) :
    ((name = "RESOLVEPENALTY" ∨ name = "EFFECTIVEHUMANITY") ∧
      u ∈ c.named? c.engine.ruleset.virtuesTrait) ∨
    (name = "EFFECTIVEHUMANITY" ∧ u ∈ c.named? c.engine.ruleset.pathScoreTrait) := by
  unfold behind at h
  dsimp only at h
  split at h
  · rename_i hp
    exact .inl ⟨.inl (beq_iff_eq.mp hp), Option.mem_toList.mp h⟩
  · split at h
    · rename_i hh
      rcases List.mem_append.mp h with h | h
      · exact .inr ⟨beq_iff_eq.mp hh, Option.mem_toList.mp h⟩
      · exact .inl ⟨.inr (beq_iff_eq.mp hh), Option.mem_toList.mp h⟩
    · cases h

theorem mem_of_behind {name : String} (h : u ∈ c.behind name) : u ∈ c.traits := by
  rcases mem_behind h with ⟨_, h⟩ | ⟨_, h⟩ <;> exact mem_of_named? h

end

section

variable {α : Type} [LinearOrder α] {c : Character} {rank : Trait → α} {t u : Trait}
variable {busy busy' : List String} {q q' : Query}

theorem Ranked.behind (h : Ranked c rank) (ht : t ∈ c.traits) {s : String} (hs : s ∈ t.sources)
    (hu : u ∈ c.behind (splitSign s).2) : rank u < rank t := by
  rcases mem_behind hu with ⟨hname, hu⟩ | ⟨hname, hu⟩
  · exact h.virtues t ht s hs hname u hu
  · exact h.pathScore t ht s hs hname u hu

/-! ## The measure -/

/-- How many traits have a lower rank. -/
def below (c : Character) (rank : Trait → α) (t : Trait) : Nat :=
  (c.traits.toFinset.filter fun u => rank u < rank t).card

theorem below_lt_below (hu : u ∈ c.traits) (hlt : rank u < rank t) :
    c.below rank u < c.below rank t := by
  apply Finset.card_lt_card
  rw [Finset.ssubset_iff_of_subset]
  · refine ⟨u, Finset.mem_filter.mpr ⟨List.mem_toFinset.mpr hu, hlt⟩, ?_⟩
    exact fun hself => lt_irrefl _ (Finset.mem_filter.mp hself).2
  · intro v hv
    obtain ⟨hv, hvu⟩ := Finset.mem_filter.mp hv
    exact Finset.mem_filter.mpr ⟨hv, hvu.trans hlt⟩

theorem below_lt_length (ht : t ∈ c.traits) : c.below rank t < c.traits.length := by
  refine lt_of_lt_of_le ?_ (List.toFinset_card_le c.traits)
  apply Finset.card_lt_card
  exact Finset.filter_ssubset.mpr ⟨t, List.mem_toFinset.mpr ht, lt_irrefl _⟩

/-- How many registered names are not being looked up. -/
def free (c : Character) (busy : List String) : Nat :=
  (c.bindings.keys.toFinset \ busy.toFinset).card

theorem free_cons_lt {name : String} {id : Int} (hb : c.bindings.get? name = some id)
    (hfree : name ∉ busy) : c.free (name :: busy) < c.free busy := by
  have hname : name ∈ c.bindings.keys :=
    List.mem_map_of_mem (Table.get?_eq_some_iff.mp hb)
  apply Finset.card_lt_card
  rw [Finset.ssubset_iff_of_subset]
  · refine ⟨name, ?_, ?_⟩
    · simp [hname, hfree]
    · simp
  · intro other hother
    simp only [Finset.mem_sdiff, List.mem_toFinset, List.mem_cons, not_or] at hother ⊢
    exact ⟨hother.1, hother.2.2⟩

theorem free_le (c : Character) (busy : List String) :
    c.free busy ≤ c.bindings.entries.length := by
  refine (Finset.card_le_card Finset.sdiff_subset).trans ?_
  refine (List.toFinset_card_le _).trans ?_
  rw [Table.keys, List.length_map]

/-- What is set aside for the names that may still be looked up. -/
def reserve (c : Character) (busy : List String) : Nat := c.free busy * (2 * c.traits.length + 2)

theorem reserve_cons {name : String} {id : Int} (hb : c.bindings.get? name = some id)
    (hfree : name ∉ busy) :
    c.reserve (name :: busy) + (2 * c.traits.length + 2) ≤ c.reserve busy := by
  rw [reserve, reserve, ← Nat.succ_mul]
  exact Nat.mul_le_mul_right _ (free_cons_lt hb hfree)

/-- Going down `n` times is enough for a query. A trait takes two steps for each rank below it, one
of them for a text between two traits. -/
def Fits (c : Character) (rank : Trait → α) (n : Nat) (busy : List String) : Query → Prop
  | .trait t => t ∈ c.traits ∧ c.reserve busy + 2 * c.below rank t + 1 < n
  | .value (.text s) => c.reserve busy < n ∧
    ∀ u ∈ c.behind (splitSign s).2, c.reserve busy + 2 * c.below rank u + 2 < n
  | .value _ => 0 < n

theorem Fits.pos {n : Nat} (h : c.Fits rank n busy q) : 0 < n := by
  cases q with
  | trait t => exact Nat.zero_lt_of_lt h.2
  | value v =>
    cases v with
    | text s => exact Nat.zero_lt_of_lt h.1
    | int k => exact h
    | bool b => exact h

/-- Whatever may come of a name that has been looked up. -/
theorem fits_value {n : Nat} (h : c.reserve busy + (2 * c.traits.length + 2) ≤ n) (v : Value) :
    c.Fits rank n busy (.value v) := by
  cases v with
  | text s =>
    refine ⟨by omega, fun u hu => ?_⟩
    have hlt : c.below rank u < c.traits.length := below_lt_length (mem_of_behind hu)
    omega
  | int k =>
    show 0 < n
    omega
  | bool b =>
    show 0 < n
    omega

theorem fits_trait {n : Nat} (h : c.reserve busy + (2 * c.traits.length + 2) ≤ n)
    (ht : t ∈ c.traits) : c.Fits rank n busy (.trait t) := by
  have hlt : c.below rank t < c.traits.length := below_lt_length ht
  exact ⟨ht, by omega⟩

/-- Each step down takes a query that it is enough for. -/
theorem Ranked.fits_consulted (h : Ranked c rank) {n : Nat} (hq : c.Fits rank (n + 1) busy q)
    (hc : Consults c busy q busy' q') : c.Fits rank n busy' q' := by
  cases hc with
  | @source t s hs =>
    obtain ⟨ht, hn⟩ := hq
    refine ⟨by omega, fun u hu => ?_⟩
    have hlt := below_lt_below (mem_of_behind hu) (h.behind ht hs hu)
    omega
  | @member t u hm hu =>
    obtain ⟨ht, hn⟩ := hq
    have hlt := below_lt_below (mem_of_present hu) (h.members t ht hm u hu)
    exact ⟨mem_of_present hu, by omega⟩
  | @reserved s u hu =>
    have hn := hq.2 u hu
    exact ⟨mem_of_behind hu, by omega⟩
  | @owner s id t hfree hb ht =>
    have hreserve := reserve_cons hb hfree
    have hn := hq.1
    exact fits_trait (by omega) (List.mem_of_find?_eq_some ht)
  | @again s id v hfree hb =>
    have hreserve := reserve_cons hb hfree
    have hn := hq.1
    exact fits_value (by omega) v

/-! ## Readings end -/

theorem Ranked.settled (h : Ranked c rank) {n m : Nat} (hq : c.Fits rank n busy q) (hle : n ≤ m) :
    Settled (c.askWithin n busy q) (c.askWithin m busy q) := by
  induction n generalizing m busy q with
  | zero => exact absurd hq.pos (lt_irrefl 0)
  | succ n ih =>
    obtain ⟨m, rfl⟩ := Nat.exists_eq_succ_of_ne_zero (Nat.ne_zero_of_lt hle)
    rw [askWithin, askWithin]
    exact carried_answer carries_settled fun busy' q' hc =>
      ih (h.fits_consulted hq hc) (Nat.le_of_succ_le_succ hle)

theorem reserve_le (c : Character) (busy : List String) :
    c.reserve busy + (2 * c.traits.length + 2) ≤ c.depth := by
  rw [reserve, depth, ← Nat.succ_mul]
  exact Nat.mul_le_mul_right _ (Nat.succ_le_succ (c.free_le busy))

theorem Ranked.value (h : Ranked c rank) (v : Value) {n : Nat} (hn : c.depth ≤ n) :
    Settled (c.value v) (c.askWithin n [] (.value v)) :=
  h.settled (fits_value (c.reserve_le []) v) hn

theorem Ranked.expandedValue (h : Ranked c rank) (ht : t ∈ c.traits) {n : Nat} (hn : c.depth ≤ n) :
    Settled (c.expandedValue t) (c.askWithin n [] (.trait t)) :=
  h.settled (fits_trait (c.reserve_le []) ht) hn

theorem Ranked.ends_value (h : Ranked c rank) (v : Value) : Ends (c.value v) :=
  (h.value v le_rfl).ends

theorem Ranked.ends_expandedValue (h : Ranked c rank) (ht : t ∈ c.traits) :
    Ends (c.expandedValue t) := (h.expandedValue ht le_rfl).ends

theorem ends_lookup (h : ∀ s, Ends (c.value (.text s))) (v : Data) : Ends (c.lookup v) := by
  unfold lookup
  split
  · exact ends_ok _
  · exact ends_ok _
  · exact ends_ok _
  · exact (h _).bind fun _ _ => ends_ok _
  · refine v.ends_shown.bind fun s _ => ?_
    split
    · exact (h _).bind fun _ _ => ends_ok _
    · exact ends_ok _

theorem Ranked.ends_bound (h : Ranked c rank) (b : Option String) : Ends (bound c.ask [] b) := by
  cases b with
  | none => exact ends_ok _
  | some s => exact (h.ends_value (.text s)).bind fun _ _ => ends_ok _

theorem Ranked.ends_display (h : Ranked c rank) (ht : t ∈ c.traits) : Ends (c.display t) := by
  refine (h.ends_expandedValue ht).bind fun v _ => v.toData.ends_shown.bind fun s _ => ?_
  dsimp only
  split
  · exact (h.ends_value _).bind fun v _ => v.toData.ends_shown.bind fun _ _ => ends_ok _
  · exact ends_ok _

theorem Ranked.ends_isOffered (h : Ranked c rank) (t : Trait) : Ends (c.isOffered t) := by
  unfold isOffered
  dsimp only
  split
  · exact ends_ok _
  · split
    · exact ends_ok _
    · rename_i main hmain
      obtain ⟨id, _, hid⟩ := Option.bind_eq_some_iff.mp hmain
      refine (h.ends_expandedValue (List.mem_of_find?_eq_some hid)).bind fun v _ => ?_
      split <;> exact ends_ok _

theorem Ranked.ends_visibility (h : Ranked c rank) (ht : t ∈ c.traits) : Ends (c.visibility t) := by
  refine (h.ends_expandedValue ht).bind fun v _ => ?_
  split
  · exact ends_ok _
  · split
    · exact ends_ok _
    · exact (h.ends_isOffered t).bind fun _ _ => ends_ok _
  · exact ends_ok _
  · exact ends_ok _
  · exact ends_ok _
  · exact ends_ok _

/-- Where the traits can be ranked, no reading is cut off, however the registered names refer to each
other, and none would be another one if it could go further down. -/
theorem readings_end (h : Ranked c rank) :
    (∀ v, Ends (c.lookup v)) ∧
    (∀ t ∈ c.traits, Ends (c.expandedValue t) ∧ Ends (c.minimum t) ∧ Ends (c.maximum t) ∧
      Ends (c.display t) ∧ Ends (c.visibility t)) ∧
    ∀ n, c.depth ≤ n → (∀ v, c.askWithin n [] (.value v) = c.value v) ∧
      ∀ t ∈ c.traits, c.askWithin n [] (.trait t) = c.expandedValue t := by
  refine ⟨ends_lookup fun _ => h.ends_value _, fun t ht => ⟨h.ends_expandedValue ht, h.ends_bound _, h.ends_bound _,
    h.ends_display ht, h.ends_visibility ht⟩, fun n hn => ⟨?_, ?_⟩⟩
  · exact fun v => (h.value v hn).same
  · exact fun t ht => (h.expandedValue ht hn).same

end

end CharacterSheet.Character

namespace CharacterSheet

/-- Head and Tail stand for each other, and Mood shows a label that leads back to it by way of the
virtues. -/
def Ruleset.entangled : Ruleset :=
  .small
    [.small 1 "Virtues" "" "MOOD", .small 2 "Path Score" "" "5",
      .small 3 "Head" "IS_VARIABLE|HEAD" "TAIL", .small 4 "Tail" "IS_VARIABLE|TAIL" "-HEAD",
      { TraitDefinition.small 5 "Mood" "" "" with
        rule := .chunks ["IS_VARIABLE|MOOD", "DERIVED_SWITCH|CALM|CALM|RESOLVEPENALTY"] },
      .small 6 "Guilt" "SUBTRAIT|8" "-RESOLVEPENALTY",
      .small 7 "Remorse" "DERIVED_INTEGER|EFFECTIVEHUMANITY|TAIL|+" "",
      .small 8 "Burdens" "MAINTRAIT_MAX" ""]
    [.small .mortal [1, 2, 3, 4, 5, 7, 8]]

def Engine.entangled : Engine where
  ruleset := .entangled
  traits :=
    ⟨[.small 1 "Virtues" "" "MOOD", .small 2 "Path Score" "" "5",
      { TraitDefinition.small 3 "Head" "IS_VARIABLE|HEAD" "TAIL" with
        directives := [.isVariable "HEAD"] },
      { TraitDefinition.small 4 "Tail" "IS_VARIABLE|TAIL" "-HEAD" with
        directives := [.isVariable "TAIL"] },
      { TraitDefinition.small 5 "Mood" "" "" with
        rule := .chunks ["IS_VARIABLE|MOOD", "DERIVED_SWITCH|CALM|CALM|RESOLVEPENALTY"]
        directives := [.isVariable "MOOD",
          .derivedSwitch "CALM" (.ofList [("CALM", "RESOLVEPENALTY")])] },
      { TraitDefinition.small 6 "Guilt" "SUBTRAIT|8" "-RESOLVEPENALTY" with
        directives := [.subTrait (.id 8)] },
      { TraitDefinition.small 7 "Remorse" "DERIVED_INTEGER|EFFECTIVEHUMANITY|TAIL|+" "" with
        directives := [.derivedInteger "EFFECTIVEHUMANITY|TAIL|+"
          (.operation .add (.operand "EFFECTIVEHUMANITY") (.operand "TAIL"))] },
      { TraitDefinition.small 8 "Burdens" "MAINTRAIT_MAX" "" with
        subtraits := [6], directives := [.mainTraitMax none] }],
      .ofList [("Burdens", 8)]⟩
  templates :=
    ⟨[{ TemplateDefinition.small .mortal [1, 2, 3, 4, 5, 7, 8] with
        traitIds := [1, 2, 3, 4, 5, 6, 7, 8] }]⟩
  paths := .empty

theorem Engine.build_entangled : build .entangled = .ok .entangled := (rfl)

namespace Character

def entangled : Character where
  engine := .entangled
  id := 0
  templates := [.mortal]
  traits := Engine.entangled.traits.definitions.map .fresh
  bindings := .ofList [("HEAD", 3), ("TAIL", 4), ("MOOD", 5)]
  groups := .ofList [(8, [6])]

theorem create_entangled : create .entangled ⟨0, [], [], .empty⟩ = .ok (entangled, []) := rfl

theorem ranked_entangled : Ranked entangled Trait.id :=
  ⟨by decide +kernel, by decide +kernel, by decide +kernel⟩

/-- Each of its readings ends, though one name leads to itself and another one into the virtues. -/
theorem readings_end_entangled : Reachable entangled ∧
    Ranked entangled Trait.id ∧
    entangled.lookup (.text "HEAD") = .error (.evaluation (.circular "HEAD")) ∧
    entangled.lookup (.text "RESOLVEPENALTY") = .error (.evaluation (.circular "MOOD")) ∧
    (∀ v, Result.Ends (entangled.lookup v)) ∧
    ∀ t ∈ entangled.traits, Result.Ends (entangled.display t) := by
  obtain ⟨hlookup, htraits, _⟩ := readings_end ranked_entangled
  exact ⟨.created Engine.build_entangled create_entangled, ranked_entangled, rfl, rfl, hlookup,
    fun t ht => (htraits t ht).2.2.2.1⟩

end Character

end CharacterSheet
