import CharacterSheet.Proofs.Settled

/-! What a query consults. The value of a trait hangs on the texts in its rule and on the members of
its group, and what a text stands for on the traits behind a reserved name or on the trait that has
registered the name. `Consults` lists these queries, along with the names that are being looked up
meanwhile; it is all that an answer takes from other queries. So a relation between results that a
computation carries holds of two answers where it holds of what they consult. -/

namespace CharacterSheet

open Result

namespace Derivation

/-- Whether a value comes from the members of a group. -/
def isMain : Derivation → Bool
  | .highest | .tally => true
  | _ => false

/-- The texts that a value comes from. -/
def sources (raw : String) : Derivation → List String
  | .standard | .options | .switched _ => [raw]
  | .arithmetic f => f.operands
  | .highest | .tally => []

end Derivation

namespace Trait

/-- The texts that are looked up for a trait: its raw value or the operands of its formula, and its
bounds. -/
def sources (t : Trait) : List String :=
  t.profile.derivation.sources t.raw ++ (t.profile.minimum.toList ++ t.profile.maximum.toList)

theorem mem_sources_of_value {t : Trait} {s : String}
    (h : s ∈ t.profile.derivation.sources t.raw) : s ∈ t.sources := List.mem_append_left _ h

theorem mem_sources_of_minimum {t : Trait} {s : String} (h : t.profile.minimum = some s) :
    s ∈ t.sources :=
  List.mem_append_right _ (List.mem_append_left _ (Option.mem_toList.mpr h))

theorem mem_sources_of_maximum {t : Trait} {s : String} (h : t.profile.maximum = some s) :
    s ∈ t.sources :=
  List.mem_append_right _ (List.mem_append_right _ (Option.mem_toList.mpr h))

end Trait

namespace Character

/-- The traits that a reserved name is worked out from. -/
def behind (c : Character) (name : String) : List Trait :=
  let virtues := (c.named? c.engine.ruleset.virtuesTrait).toList
  if name == "RESOLVEPENALTY" then virtues
  else if name == "EFFECTIVEHUMANITY" then
    (c.named? c.engine.ruleset.pathScoreTrait).toList ++ virtues
  else []

/-- A query that is answered while some names are busy consults another one. Only a registered name
adds to the names, and what its trait's value is, is looked up once more. -/
inductive Consults (c : Character) : List String → Query → List String → Query → Prop where
  | source {busy : List String} {t : Trait} {s : String} :
      s ∈ t.sources → Consults c busy (.trait t) busy (.value (.text s))
  | member {busy : List String} {t u : Trait} :
      t.profile.derivation.isMain = true → u ∈ c.present (c.group t.id) →
      Consults c busy (.trait t) busy (.trait u)
  | reserved {busy : List String} {s : String} {u : Trait} :
      u ∈ c.behind (splitSign s).2 → Consults c busy (.value (.text s)) busy (.trait u)
  | owner {busy : List String} {s : String} {id : Int} {t : Trait} :
      (splitSign s).2 ∉ busy → c.bindings.get? (splitSign s).2 = some id → c.trait? id = some t →
      Consults c busy (.value (.text s)) ((splitSign s).2 :: busy) (.trait t)
  | again {busy : List String} {s : String} {id : Int} (v : Value) :
      (splitSign s).2 ∉ busy → c.bindings.get? (splitSign s).2 = some id →
      Consults c busy (.value (.text s)) ((splitSign s).2 :: busy) (.value v)

section

variable {R : ∀ α : Type, Result α → Result α → Prop}
variable {c : Character} {ask ask' : Ask} {busy busy' : List String}

/-! ## Texts -/

theorem carried_virtuesPenalty (hR : Carries R)
    (h : ∀ t ∈ c.named? c.engine.ruleset.virtuesTrait,
      R _ (ask busy (.trait t)) (ask' busy' (.trait t))) :
    R _ (c.virtuesPenalty ask busy) (c.virtuesPenalty ask' busy') := by
  unfold virtuesPenalty
  cases hn : c.named? c.engine.ruleset.virtuesTrait with
  | none => exact hR.ok _
  | some t =>
    exact hR.bind (h t hn) fun v _ => hR.ends (v.toData.ends_shown.bind fun _ _ => ends_ok _)

theorem carried_pathScore (hR : Carries R)
    (h : ∀ t ∈ c.named? c.engine.ruleset.pathScoreTrait,
      R _ (ask busy (.trait t)) (ask' busy' (.trait t))) :
    R _ (c.pathScore ask busy) (c.pathScore ask' busy') := by
  unfold pathScore
  cases hn : c.named? c.engine.ruleset.pathScoreTrait with
  | none => exact hR.ok _
  | some t => exact hR.bind (h t hn) fun _ _ => hR.ok _

theorem carried_reserved (hR : Carries R) {name : String}
    (h : ∀ u ∈ c.behind name, R _ (ask busy (.trait u)) (ask' busy' (.trait u))) :
    R _ (c.reserved ask busy name) (c.reserved ask' busy' name) := by
  unfold reserved
  unfold behind at h
  split
  · rename_i hp
    rw [if_pos hp] at h
    exact carried_virtuesPenalty hR fun t ht => h t (Option.mem_toList.mpr ht)
  · rename_i hp
    rw [if_neg hp] at h
    split
    · rename_i hh
      rw [if_pos hh] at h
      have hscore := carried_pathScore hR fun t ht =>
        h t (List.mem_append_left _ (Option.mem_toList.mpr ht))
      have hpenalty := carried_virtuesPenalty hR fun t ht =>
        h t (List.mem_append_right _ (Option.mem_toList.mpr ht))
      refine hR.bind hscore fun score _ => hR.bind hpenalty fun penalty _ => ?_
      split
      · exact hR.ok _
      · exact hR.ends (ends_halfUp _)
      · exact hR.ok _
    · exact hR.ok _

theorem carried_registered (hR : Carries R) {name : String} {id : Int}
    (hbusy : name ∈ busy' ↔ name ∈ busy)
    (howner : name ∉ busy → ∀ t, c.trait? id = some t →
      R _ (ask (name :: busy) (.trait t)) (ask' (name :: busy') (.trait t)))
    (hagain : name ∉ busy → ∀ v,
      R _ (ask (name :: busy) (.value v)) (ask' (name :: busy') (.value v))) :
    R _ (c.registered ask busy name id) (c.registered ask' busy' name id) := by
  unfold registered
  by_cases hmem : name ∈ busy
  · rw [if_pos (by simpa using hmem), if_pos (by simpa using hbusy.mpr hmem)]
    exact hR.error nofun
  · rw [if_neg (by simpa using hmem), if_neg (by simpa using fun hm => hmem (hbusy.mp hm))]
    cases ht : c.trait? id with
    | none => exact hR.error nofun
    | some t => exact hR.bind (howner hmem t ht) fun v _ => hagain hmem v

theorem carried_reference (hR : Carries R) {s : String}
    (hreserved : ∀ u ∈ c.behind (splitSign s).2, R _ (ask busy (.trait u)) (ask' busy' (.trait u)))
    (hregistered : ∀ id, c.bindings.get? (splitSign s).2 = some id →
      R _ (c.registered ask busy (splitSign s).2 id)
        (c.registered ask' busy' (splitSign s).2 id)) :
    R _ (c.reference ask busy s) (c.reference ask' busy' s) := by
  unfold reference
  generalize splitSign s = signed at hreserved hregistered ⊢
  obtain ⟨negative, name⟩ := signed
  dsimp only
  split
  · exact hR.bind (carried_reserved hR hreserved) fun n _ => hR.ends (ends_negate negative (.int n))
  · cases hg : c.bindings.get? name with
    | none => exact hR.ok _
    | some id => exact hR.bind (hregistered id hg) fun v _ => hR.ends (ends_negate negative v)

/-- A value that is no text stands for itself. -/
theorem carried_expand (hR : Carries R) {v : Value}
    (h : ∀ s, v = .text s → R _ (c.reference ask busy s) (c.reference ask' busy' s)) :
    R _ (c.expand ask busy v) (c.expand ask' busy' v) := by
  cases v with
  | int n => exact hR.ok _
  | bool b => exact hR.ok _
  | text s =>
    unfold expand
    dsimp only
    split
    · exact hR.ok _
    · refine hR.bind (hR.ends (ends_integerText? s)) fun n _ => ?_
      split
      · exact hR.ok _
      · split
        · exact hR.ok _
        · exact h s rfl

/-! ## Traits -/

theorem carried_intVariable (hR : Carries R) {s : String}
    (h : R _ (ask busy (.value (.text s))) (ask' busy' (.value (.text s)))) :
    R _ (intVariable ask busy s) (intVariable ask' busy' s) := hR.bind h fun _ _ => hR.ok _

theorem carried_bound (hR : Carries R) {b : Option String}
    (h : ∀ s, b = some s → R _ (ask busy (.value (.text s))) (ask' busy' (.value (.text s)))) :
    R _ (bound ask busy b) (bound ask' busy' b) := by
  cases b with
  | none => exact hR.ok _
  | some s => exact carried_intVariable hR (h s rfl)

theorem carried_countSelected (hR : Carries R) {ts : List Trait}
    (h : ∀ u ∈ ts, R _ (ask busy (.trait u)) (ask' busy' (.trait u))) :
    R _ (countSelected ask busy ts) (countSelected ask' busy' ts) := by
  induction ts with
  | nil => exact hR.ok _
  | cons t r ih =>
    refine hR.bind (h t List.mem_cons_self) fun v _ => ?_
    refine hR.bind (hR.ends v.ends_isSelected) fun selected _ => ?_
    exact hR.bind (ih fun u hu => h u (List.mem_cons_of_mem _ hu)) fun n _ => hR.ok _

theorem carried_integersOf (hR : Carries R) {ts : List Trait}
    (h : ∀ u ∈ ts, R _ (ask busy (.trait u)) (ask' busy' (.trait u))) :
    R _ (integersOf ask busy ts) (integersOf ask' busy' ts) := by
  induction ts with
  | nil => exact hR.ok _
  | cons t r ih =>
    refine hR.bind (h t List.mem_cons_self) fun v _ => ?_
    refine hR.bind (hR.ends v.toData.ends_integer?) fun n _ => ?_
    cases n with
    | some n => exact hR.bind (ih fun u hu => h u (List.mem_cons_of_mem _ hu)) fun _ _ => hR.ok _
    | none => exact hR.error nofun

section

variable {t : Trait} (hR : Carries R)
  (hsource : ∀ s ∈ t.sources, R _ (ask busy (.value (.text s))) (ask' busy' (.value (.text s))))

include hR hsource

theorem carried_bounds : R _ (bounds ask busy t.profile) (bounds ask' busy' t.profile) := by
  have hlow : R _ (bound ask busy t.profile.minimum) (bound ask' busy' t.profile.minimum) :=
    carried_bound hR fun s hs => hsource s (Trait.mem_sources_of_minimum hs)
  have hhigh : R _ (bound ask busy t.profile.maximum) (bound ask' busy' t.profile.maximum) :=
    carried_bound hR fun s hs => hsource s (Trait.mem_sources_of_maximum hs)
  exact hR.bind hlow fun _ _ => hR.bind hhigh fun _ _ => hR.ok _

variable (hmember : t.profile.derivation.isMain = true → ∀ u ∈ c.present (c.group t.id),
  R _ (ask busy (.trait u)) (ask' busy' (.trait u)))

include hmember

theorem carried_unclamped : R _ (c.unclamped ask busy t) (c.unclamped ask' busy' t) := by
  have hvalue : ∀ s ∈ t.profile.derivation.sources t.raw,
      R _ (ask busy (.value (.text s))) (ask' busy' (.value (.text s))) :=
    fun s hs => hsource s (Trait.mem_sources_of_value hs)
  unfold unclamped
  cases hd : t.profile.derivation with
  | standard =>
    rw [hd] at hvalue
    exact hvalue _ List.mem_cons_self
  | options =>
    rw [hd] at hvalue
    exact hvalue _ List.mem_cons_self
  | switched labels =>
    rw [hd] at hvalue
    exact hR.bind (hvalue _ List.mem_cons_self) fun v _ =>
      hR.ends (v.toData.ends_shown.bind fun _ _ => ends_ok _)
  | arithmetic f =>
    rw [hd] at hvalue
    refine hR.bind (f.carried_evaluate hR fun name hn => ?_) fun _ _ => hR.ok _
    exact hR.bind (carried_intVariable hR (hvalue name hn)) fun _ _ => hR.ok _
  | highest =>
    rw [hd] at hmember
    exact hR.bind (carried_integersOf hR (hmember rfl)) fun _ _ => hR.ok _
  | tally =>
    rw [hd] at hmember
    exact hR.bind (carried_countSelected hR (hmember rfl)) fun _ _ => hR.ok _

theorem carried_expanded : R _ (c.expanded ask busy t) (c.expanded ask' busy' t) := by
  refine hR.bind (carried_unclamped hR hsource hmember) fun v _ => ?_
  cases v with
  | int n => exact hR.bind (carried_bounds hR hsource) fun _ _ => hR.ok _
  | bool b => exact hR.ok _
  | text s => exact hR.ok _

end

/-- What holds of all that an answer consults, holds of the answer. -/
theorem carried_answer (hR : Carries R) {q : Query} (h : ∀ busy' q', Consults c busy q busy' q' →
    R _ (ask busy' q') (ask' busy' q')) : R _ (c.answer ask busy q) (c.answer ask' busy q) := by
  cases q with
  | value v =>
    rw [answer, answer]
    refine carried_expand hR fun s hs => ?_
    subst hs
    refine carried_reference hR (fun u hu => h _ _ (.reserved hu)) fun id hg => ?_
    apply carried_registered hR Iff.rfl
    · exact fun hfree t ht => h _ _ (.owner hfree hg ht)
    · exact fun hfree v => h _ _ (.again v hfree hg)
  | trait t =>
    rw [answer, answer]
    apply carried_expanded hR
    · exact fun s hs => h _ _ (.source hs)
    · exact fun hm u hu => h _ _ (.member hm hu)

end

end Character

end CharacterSheet
