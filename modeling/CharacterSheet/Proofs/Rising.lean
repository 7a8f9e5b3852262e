import CharacterSheet.Proofs.Aggregation
import CharacterSheet.Proofs.Assigned
import CharacterSheet.Proofs.Isolation

/-! Main traits whose children rise. Where nothing leads to a trait but one main trait, all that the main
trait reads besides is out of the trait's reach: what came to the trait would have come by way of the
main trait, and a main trait whose reading comes back to itself has no value. So with another raw value
of the trait the other children and the bounds are what they were, and counting, the greatest number and
bounds all go up with what they are made of. -/

namespace CharacterSheet

/-- A child's new value is no setback for a main trait of this kind: what has been counted counts, and an
integer has not fallen. -/
def Derivation.Upholds : Derivation → Value → Value → Prop
  | .tally, w, w' => w.Counts → w'.Counts
  | .highest, w, w' => ∃ j k, w = .int j ∧ w' = .int k ∧ j ≤ k
  | _, _, _ => False

theorem Derivation.isMain_of_upholds {d : Derivation} {w w' : Value} (h : d.Upholds w w') :
    d.isMain = true := by
  cases d with
  | tally => rfl
  | highest => rfl
  | _ => exact h.elim

namespace Character

open Result

/-- Nothing about a character leads to a trait but a single main trait. -/
structure OnlyUnder (c : Character) (m t : Trait) : Prop where
  ungrouped : ∀ p, t.id ∈ c.group p → p = m.id
  unregistered : ∀ name, c.bindings.get? name ≠ some t.id
  virtues : t.name ≠ c.engine.ruleset.virtuesTrait
  pathScore : t.name ≠ c.engine.ruleset.pathScoreTrait

/-! ## What goes up with its parts -/

section

variable {ask ask' : Ask} {busy busy' : List String} {ts : List Trait} {f : Trait → Trait}

theorem clamp_mono {j k : Int} (h : j ≤ k) (b : Option (Int × Int)) : clamp j b ≤ clamp k b := by
  cases b with
  | none => exact h
  | some b =>
    show max b.1 (min b.2 j) ≤ max b.1 (min b.2 k)
    omega

theorem greatest_mono {ns ns' : List Int} (h : List.Forall₂ (· ≤ ·) ns ns') :
    greatest ns ≤ greatest ns' := by
  have hfold : ∀ {ns ns' : List Int}, List.Forall₂ (· ≤ ·) ns ns' → ∀ j k : Int, j ≤ k →
      ns.foldl max j ≤ ns'.foldl max k := by
    intro ns ns' h
    induction h with
    | nil => exact fun _ _ hjk => hjk
    | cons hle _ ih => exact fun j k hjk => ih _ _ (max_le_max hjk hle)
  cases h with
  | nil => exact le_refl _
  | cons hle hrest => exact hfold hrest _ _ hle

theorem countSelected_cons_ok {t : Trait} {j : Int} (h : countSelected ask busy (t :: ts) = .ok j) :
    ∃ v selected i, ask busy (.trait t) = .ok v ∧ v.isSelected = .ok selected ∧
      countSelected ask busy ts = .ok i ∧ j = if selected then i + 1 else i := by
  obtain ⟨v, hv, h⟩ := bind_ok h
  obtain ⟨selected, hselected, h⟩ := bind_ok h
  obtain ⟨i, hi, h⟩ := bind_ok h
  exact ⟨v, selected, i, hv, hselected, hi, (pure_ok h).symm⟩

theorem integersOf_cons_ok {t : Trait} {ns : List Int} (h : integersOf ask busy (t :: ts) = .ok ns) :
    ∃ v n r, ask busy (.trait t) = .ok v ∧ v.integer? = .ok (some n) ∧
      integersOf ask busy ts = .ok r ∧ ns = n :: r := by
  obtain ⟨v, hv, h⟩ := bind_ok h
  obtain ⟨n, hn, h⟩ := bind_ok h
  cases n with
  | none => cases h
  | some n =>
    obtain ⟨r, hr, h⟩ := bind_ok h
    exact ⟨v, n, r, hv, hn, hr, (pure_ok h).symm⟩

/-- Where every child that is selected is so in the other reading, no fewer are. -/
theorem countSelected_mono {j k : Int} (hj : countSelected ask busy ts = .ok j)
    (hk : countSelected ask' busy' (ts.map f) = .ok k)
    (h : ∀ u ∈ ts, ∀ v v', ask busy (.trait u) = .ok v → ask' busy' (.trait (f u)) = .ok v' →
      v.isSelected = .ok true → ∀ p, v'.isSelected = .ok p → p = true) : j ≤ k := by
  induction ts generalizing j k with
  | nil =>
    cases hj
    cases hk
    exact le_refl _
  | cons t r ih =>
    obtain ⟨v, p, i, hv, hp, hi, rfl⟩ := countSelected_cons_ok hj
    obtain ⟨v', p', i', hv', hp', hi', rfl⟩ := countSelected_cons_ok hk
    have hrest := ih hi hi' fun u hu => h u (List.mem_cons_of_mem _ hu)
    have hself := h t List.mem_cons_self v v' hv hv'
    cases p with
    | false => cases p' <;> simp <;> omega
    | true =>
      obtain rfl := hself hp _ hp'
      simpa using hrest

/-- Where no child's integer is less in the other reading, they stand in pairs. -/
theorem integersOf_mono {ns ns' : List Int} (hns : integersOf ask busy ts = .ok ns)
    (hns' : integersOf ask' busy' (ts.map f) = .ok ns')
    (h : ∀ u ∈ ts, ∀ v v', ask busy (.trait u) = .ok v → ask' busy' (.trait (f u)) = .ok v' →
      ∀ j k, v.integer? = .ok (some j) → v'.integer? = .ok (some k) → j ≤ k) :
    List.Forall₂ (· ≤ ·) ns ns' := by
  induction ts generalizing ns ns' with
  | nil =>
    cases hns
    cases hns'
    exact .nil
  | cons t r ih =>
    obtain ⟨v, n, rest, hv, hn, hrest, rfl⟩ := integersOf_cons_ok hns
    obtain ⟨v', n', rest', hv', hn', hrest', rfl⟩ := integersOf_cons_ok hns'
    exact .cons (h t List.mem_cons_self v v' hv hv' n n' hn hn')
      (ih hrest hrest' fun u hu => h u (List.mem_cons_of_mem _ hu))

end

/-! ## What is out of reach -/

section

variable {c d : Character} {m t t' m' : Trait} {busy busy' : List String} {q : Query} {n : Nat}
variable {raw : String} {v v' w w' x y : Value}

theorem mem_ids_of_mem_present {u : Trait} {ids : List Int} (h : u ∈ c.present ids) : u.id ∈ ids := by
  obtain ⟨id, hid, hu⟩ := List.mem_filterMap.mp h
  rwa [id_of_trait? hu]

theorem Sound.name_of_named? (h : c.Sound) {u : Trait} {name : String} (hu : u ∈ c.named? name) :
    u.name = name := by
  obtain ⟨id, hid, htrait⟩ := List.exists_of_findSome?_eq_some hu
  obtain rfl := id_of_trait? htrait
  exact h.name_of_mem_idsForName (mem_of_trait? htrait) hid

/-- Only the main trait consults the trait. -/
theorem OnlyUnder.consults (honly : c.OnlyUnder m t) (h : c.Sound) (hm : m ∈ c.traits)
    (hq : c.Own q) (hc : Consults c busy q busy' (.trait t)) : q = .trait m := by
  cases hc with
  | @member u _ _ hu =>
    have hid : u.id = m.id := honly.ungrouped _ (mem_ids_of_mem_present hu)
    rw [List.inj_on_of_nodup_map h.ascending.nodup hq hm hid]
  | reserved hu =>
    rcases mem_behind hu with ⟨_, hu⟩ | ⟨_, hu⟩
    · exact absurd (h.name_of_named? hu) honly.virtues
    · exact absurd (h.name_of_named? hu) honly.pathScore
  | owner _ hb hu =>
    rw [← id_of_trait? hu] at hb
    exact absurd hb (honly.unregistered _)

/-- Below a reading of the main trait that does not come back to it, other queries are answered alike. -/
theorem OnlyUnder.askWithin_gives (honly : c.OnlyUnder m t) (h : c.Sound) (hm : m ∈ c.traits)
    (ht : t ∈ c.traits) (hunread : ∀ k < n, ∀ b v, c.askWithin k b (.trait m) ≠ .ok v)
    (hq : c.Own q) (hmain : q ≠ .trait m) (raw : String) :
    Gives (c.askWithin n busy q) ((c.setRaw t.id raw).askWithin n busy q) := by
  refine askWithin_apart (P := fun q => c.Own q ∧ q ≠ .trait m) (fun _ q b q' hq hc => ?_)
    ⟨hq, hmain⟩
  by_cases hback : q' = .trait m
  · subst hback
    exact .inl fun k hk => hunread k hk b
  · refine .inr ⟨⟨hc.own, hback⟩, (hc.own.eq_or_revalue h.ascending ht raw).resolve_left ?_⟩
    rintro rfl
    exact hq.2 (honly.consults h hm hq.1 hc)

/-! ## Main traits -/

section

variable (honly : c.OnlyUnder m t) (h : c.Sound) (hm : m ∈ c.traits) (ht : t ∈ c.traits)
  (hunread : ∀ k < n + 1, ∀ b v, c.askWithin k b (.trait m) ≠ .ok v)

include honly h hm ht hunread

/-- A child of the main trait that is not the trait itself is worth what it was worth. -/
theorem OnlyUnder.child_cases {u : Trait} (hu : u ∈ c.traits)
    (hv : c.askWithin n busy (.trait u) = .ok v)
    (hv' : (c.setRaw t.id raw).ask [] (.trait (u.revalue t.id raw)) = .ok v') :
    v' = v ∨ (c.expandedValue t = .ok v ∧ (c.setRaw t.id raw).expandedValue { t with raw } = .ok v')
    := by
  cases Own.eq_or_revalue h.ascending ht (q := .trait u) hu raw with
  | inl he =>
    obtain rfl := Query.trait.inj he
    rw [Trait.revalue_self] at hv'
    exact .inr ⟨ask_of_askWithin (q := .trait u) hu hv, hv'⟩
  | inr he =>
    have hsame : u.revalue t.id raw = u := Query.trait.inj he
    have hmain : Query.trait u ≠ .trait m := by
      intro hum
      rw [hum] at hv
      exact hunread n (Nat.lt_succ_self n) busy v hv
    have hgives := honly.askWithin_gives h hm ht (fun k hk => hunread k (Nat.lt_succ_of_lt hk))
      (q := .trait u) hu hmain raw v hv
    have hown : u ∈ (c.setRaw t.id raw).traits := mem_setRaw_iff.mpr ⟨u, hu, hsame⟩
    rw [hsame] at hv'
    exact .inl (Except.ok.inj (hv'.symm.trans (ask_of_askWithin (q := .trait u) hown hgives)))

/-- The bounds of the main trait are what they were. -/
theorem OnlyUnder.bounds_gives : Gives (bounds (c.askWithin n) busy m.profile)
    (bounds (c.setRaw t.id raw).ask [] m.profile) := by
  refine carried_bounds (t := m) carries_gives fun s _ v hv => ?_
  exact ask_of_askWithin (q := .value _) trivial (honly.askWithin_gives h hm ht
    (fun k hk => hunread k (Nat.lt_succ_of_lt hk)) (q := .value _) trivial nofun raw v hv)

variable (hw : c.expandedValue t = .ok w)
  (hw' : (c.setRaw t.id raw).expandedValue { t with raw } = .ok w')
  (hup : m.profile.derivation.Upholds w w')

include hw hw' hup

/-- What the main trait makes of its children, before its bounds are looked at. -/
theorem OnlyUnder.unclamped_mono (hx : c.unclamped (c.askWithin n) busy m = .ok x)
    (hy : (c.setRaw t.id raw).unclamped (c.setRaw t.id raw).ask [] m = .ok y) :
    ∃ j k, x = .int j ∧ y = .int k ∧ j ≤ k := by
  have hcases : ∀ u ∈ c.present (c.group m.id), ∀ v v',
      c.askWithin n busy (.trait u) = .ok v →
      (c.setRaw t.id raw).ask [] (.trait (u.revalue t.id raw)) = .ok v' →
      v' = v ∨ (v = w ∧ v' = w') := by
    intro u hu v v' hv hv'
    refine (honly.child_cases h hm ht hunread (mem_of_present hu) hv hv').imp_right fun hself => ?_
    exact ⟨Except.ok.inj (hself.1.symm.trans hw), Except.ok.inj (hself.2.symm.trans hw')⟩
  rw [unclamped, setRaw_group, present_setRaw] at hy
  rw [unclamped] at hx
  cases hderivation : m.profile.derivation with
  | tally =>
    rw [hderivation] at hx hy hup
    obtain ⟨j, hj, hx⟩ := bind_ok hx
    obtain ⟨k, hk, hy⟩ := bind_ok hy
    refine ⟨j, k, (pure_ok hx).symm, (pure_ok hy).symm, countSelected_mono hj hk ?_⟩
    intro u hu v v' hv hv' hselected p hp
    rcases hcases u hu v v' hv hv' with rfl | ⟨rfl, rfl⟩
    · exact (Except.ok.inj (hselected.symm.trans hp)).symm
    · have hcounts := hup (of_decide_eq_true (Value.isSelected_ok hselected).symm)
      rw [Value.isSelected_ok hp, decide_eq_true hcounts]
  | highest =>
    rw [hderivation] at hx hy hup
    obtain ⟨ns, hns, hx⟩ := bind_ok hx
    obtain ⟨ns', hns', hy⟩ := bind_ok hy
    refine ⟨_, _, (pure_ok hx).symm, (pure_ok hy).symm,
      greatest_mono (integersOf_mono hns hns' ?_)⟩
    intro u hu v v' hv hv' j k hj hk
    rcases hcases u hu v v' hv hv' with rfl | ⟨rfl, rfl⟩
    · exact le_of_eq (Option.some.inj (Except.ok.inj (hj.symm.trans hk)))
    · obtain ⟨j', k', rfl, rfl, hle⟩ := hup
      obtain rfl := Option.some.inj (Except.ok.inj hj)
      obtain rfl := Option.some.inj (Except.ok.inj hk)
      exact hle
  | _ =>
    rw [hderivation] at hup
    exact hup.elim

end

/-- When a child rises to which nothing but its main trait leads, the main trait does not fall, if it can
be read before and after. -/
theorem mainTrait_monotone (h : Reachable c) (hm : m ∈ c.traits) (ht : t ∈ c.traits)
    (honly : c.OnlyUnder m t) {v : Data} (htaken : c.assign t v = .ok (d, true))
    (ht' : d.trait? t.id = some t') (hm' : d.trait? m.id = some m')
    (hw : c.expandedValue t = .ok w) (hw' : d.expandedValue t' = .ok w')
    (hup : m.profile.derivation.Upholds w w')
    (hx : c.expandedValue m = .ok x) (hy : d.expandedValue m' = .ok y) :
    ∃ j k, x = .int j ∧ y = .int k ∧ j ≤ k := by
  obtain ⟨ha, _, raw, _, _, rfl⟩ := assign_taken_iff.mp htaken
  have hd : (c.setRaw t.id raw).Sound := h.sound.setRaw ht ha raw
  have hne : m.id ≠ t.id := by
    intro hid
    obtain rfl := List.inj_on_of_nodup_map h.sound.ascending.nodup hm ht hid
    have hmain := Derivation.isMain_of_upholds hup
    rw [isMain_of_isAssignable ha] at hmain
    cases hmain
  obtain rfl : t' = { t with raw } :=
    Option.some.inj (ht'.symm.trans (trait?_of_mem hd.ascending (mem_setRaw ht raw)))
  rw [setRaw_trait?_of_ne hne, trait?_of_mem h.sound.ascending hm] at hm'
  obtain rfl := Option.some.inj hm'
  -- below its shallowest reading the main trait has not been read
  obtain ⟨n, busy, hread, hunread⟩ := exists_shallowest (q := .trait m) hm hx
  rw [askWithin, answer] at hread
  rw [expandedValue_eq] at hy
  obtain ⟨x, hx, hclampx⟩ := expanded_ok hread
  obtain ⟨y, hy, hclampy⟩ := expanded_ok hy
  obtain ⟨j, k, rfl, rfl, hle⟩ :=
    honly.unclamped_mono h.sound hm ht hunread hw hw' hup hx hy
  obtain ⟨_, b, hj, hb, rfl⟩ | ⟨hno, _⟩ := hclampx
  · obtain ⟨_, b', hk, hb', rfl⟩ | ⟨hno, _⟩ := hclampy
    · obtain rfl := Value.int.inj hj
      obtain rfl := Value.int.inj hk
      have hsame : bounds (c.setRaw t.id raw).ask [] m.profile = .ok b :=
        honly.bounds_gives h.sound hm ht hunread b hb
      obtain rfl := Except.ok.inj (hsame.symm.trans hb')
      exact ⟨_, _, rfl, rfl, clamp_mono hle b⟩
    · exact absurd rfl (hno k)
  · exact absurd rfl (hno j)

end

end Character

/-- Bounds that hang on a variable, and for the arts the lower one above the upper one. -/
def Ruleset.rising : Ruleset :=
  .small
    [.ruled 1 "Merits" ["MAINTRAIT_COUNT", "MINMAX|0|LIMIT"] "",
      .ruled 2 "Arts" ["MAINTRAIT_MAX", "MINMAX|9|LIMIT"] "",
      .small 3 "Limit" "IS_VARIABLE|LIMIT" "2", .small 4 "Brave" "SUBTRAIT|1" "0",
      .small 5 "Rich" "SUBTRAIT|1" "LIMIT", .small 6 "Glamour" "SUBTRAIT|2" "-2"]
    [.small .mortal [1, 2, 3]]

def Engine.rising : Engine where
  ruleset := .rising
  traits :=
    ⟨TraitDefinition.finished Ruleset.rising.traits
      [([.mainTraitCount none, .minMax "0" "LIMIT"], [4, 5]),
        ([.mainTraitMax none, .minMax "9" "LIMIT"], [6]), ([.isVariable "LIMIT"], []),
        ([.subTrait (.id 1)], []), ([.subTrait (.id 1)], []), ([.subTrait (.id 2)], [])],
      .ofList [("Merits", 1), ("Arts", 2)]⟩
  templates :=
    ⟨[{ TemplateDefinition.small .mortal [1, 2, 3] with traitIds := [1, 2, 3, 4, 5, 6] }]⟩
  paths := .empty

theorem Engine.build_rising : build .rising = .ok .rising := (rfl)

namespace Character

def rising : Character where
  engine := .rising
  id := 0
  templates := [.mortal]
  traits := Engine.rising.traits.definitions.map .fresh
  bindings := .ofList [("LIMIT", 3)]
  groups := .ofList [(1, [4, 5]), (2, [6])]

theorem create_rising : create .rising ⟨0, [], [], .empty⟩ = .ok (rising, []) := rfl

theorem onlyUnder_rising {m t : Trait} (hnot : t.id ≠ 3) (hv : t.name ≠ "Virtues")
    (hp : t.name ≠ "Path Score")
    (hgroup : ∀ e ∈ rising.groups.entries, t.id ∈ e.2 → e.1 = m.id) : rising.OnlyUnder m t where
  ungrouped p h := by
    rw [group] at h
    cases hget : rising.groups.get? p with
    | none =>
      rw [hget] at h
      cases h
    | some members =>
      rw [hget] at h
      exact hgroup _ (Table.get?_eq_some_iff.mp hget) h
  unregistered name h := by
    have hm : (name, t.id) ∈ [("LIMIT", 3)] := Table.get?_eq_some_iff.mp h
    exact hnot (Prod.mk.inj (List.mem_singleton.mp hm)).2
  virtues := hv
  pathScore := hp

/-- One more merit counts, and the greatest art has grown, though its bounds leave it where they are. -/
theorem mainTrait_monotone_rising : Reachable rising ∧
    (∃ m ∈ rising.traits, ∃ t ∈ rising.traits, m.name = "Merits" ∧ t.name = "Brave" ∧
      rising.OnlyUnder m t ∧ ∃ d, rising.assign t (.text "yes") = .ok (d, true) ∧
      ∃ j k, rising.expandedValue m = .ok (.int j) ∧ d.expandedValue m = .ok (.int k) ∧ j ≤ k) ∧
    ∃ m ∈ rising.traits, ∃ t ∈ rising.traits, m.name = "Arts" ∧ t.name = "Glamour" ∧
      rising.OnlyUnder m t ∧ ∃ d, rising.assign t (.int 7) = .ok (d, true) ∧
      ∃ j k, rising.expandedValue m = .ok (.int j) ∧ d.expandedValue m = .ok (.int k) ∧ j ≤ k := by
  have hrising : Reachable rising := .created Engine.build_rising create_rising
  refine ⟨hrising, ⟨_, List.mem_of_getElem? (i := 0) rfl, _, List.mem_of_getElem? (i := 3) rfl, rfl,
    rfl, ?_, _, rfl, ?_⟩, _, List.mem_of_getElem? (i := 1) rfl, _, List.mem_of_getElem? (i := 5) rfl,
    rfl, rfl, ?_, _, rfl, ?_⟩
  · exact onlyUnder_rising (by decide) (by decide) (by decide) (by decide)
  · have hup : Derivation.tally.Upholds (.int 0) (.text "yes") := fun _ => by decide
    obtain ⟨j, k, hj, hk, hle⟩ := mainTrait_monotone hrising (List.mem_of_getElem? (i := 0) rfl)
      (List.mem_of_getElem? (i := 3) rfl)
      (onlyUnder_rising (by decide) (by decide) (by decide) (by decide)) (v := .text "yes")
      rfl rfl rfl rfl rfl hup (x := .int 1) rfl (y := .int 2) rfl
    exact ⟨j, k, hj ▸ rfl, hk ▸ rfl, hle⟩
  · exact onlyUnder_rising (by decide) (by decide) (by decide) (by decide)
  · have hup : Derivation.highest.Upholds (.int (-2)) (.int 7) := ⟨_, _, rfl, rfl, by decide⟩
    obtain ⟨j, k, hj, hk, hle⟩ := mainTrait_monotone hrising (List.mem_of_getElem? (i := 1) rfl)
      (List.mem_of_getElem? (i := 5) rfl)
      (onlyUnder_rising (by decide) (by decide) (by decide) (by decide)) (v := .int 7)
      rfl rfl rfl rfl rfl hup (x := .int 9) rfl (y := .int 9) rfl
    exact ⟨j, k, hj ▸ rfl, hk ▸ rfl, hle⟩

end Character

end CharacterSheet
