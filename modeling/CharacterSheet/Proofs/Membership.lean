import CharacterSheet.Proofs.Rebuilding

/-! What holds of a character's templates while nothing fails. There is one at least, Mortal stands
alone, and all that the templates grant is there. For the last, each change of the templates has to
tell what it may take away: superseding Mortal and removing a template both spare whatever one of the
templates that stay grants. Only removing a trait by itself can break it. -/

namespace CharacterSheet

/-- A template grants a trait. -/
def TemplateCatalog.Grants (c : TemplateCatalog) (key : TemplateKey) (id : Int) : Prop :=
  ∃ t, c.get? key = some t ∧ id ∈ t.traitIds

theorem TemplateCatalog.grants_iff {c : TemplateCatalog} {key : TemplateKey}
    {t : TemplateDefinition} (hg : c.get? key = some t) {id : Int} :
    c.Grants key id ↔ id ∈ t.traitIds := by
  refine ⟨?_, fun hid => ⟨t, hg, hid⟩⟩
  rintro ⟨u, hu, hid⟩
  obtain rfl := Option.some.inj (hg.symm.trans hu)
  exact hid

namespace Character

/-- The states that runs lead to in which no action fails and no trait is removed by itself. -/
inductive Intact : Character → Prop where
  | created {r : Ruleset} {e : Engine} {b : Blueprint} {c : Character} {ws : List Warning} :
      Engine.build r = .ok e → create e b = .ok (c, ws) → Intact c
  | acted {c : Character} (a : Action) : Intact c → (∀ id, a ≠ .removeTrait id) →
      (c.perform a).fault = none → Intact (c.perform a).after

theorem Intact.faultFree {c : Character} (h : Intact c) : FaultFree c := by
  induction h with
  | created hb hc => exact .created hb hc
  | acted a _ _ hok ih => exact .acted a ih hok

theorem Intact.each {c : Character} (h : Intact c) {as : List Action}
    (has : ∀ id, .removeTrait id ∉ as) (hok : (Change.each perform as c).fault = none) :
    Intact (Change.each perform as c).after :=
  Change.each_keeps_ok (fun _ a ha hd hda => hd.acted a (fun id he => has id (he ▸ ha)) hda) h hok

section

variable {c d : Character} {key : TemplateKey} {keys : List TemplateKey} {x : Int}

theorem granted_mono {more : List TemplateKey} (hsub : ∀ k ∈ keys, k ∈ more)
    (hx : x ∈ c.granted keys) : x ∈ c.granted more := by
  obtain ⟨k, hk, hg⟩ := mem_granted.mp hx
  exact mem_granted.mpr ⟨k, hsub k hk, hg⟩

/-! ## What changes of templates leave -/

/-- Superseding Mortal takes what Mortal grants and none of the other templates does. -/
theorem mem_traitIds_supersedeMortal (hm : .mortal ∈ c.templates) (hne : c.templates ≠ [.mortal]) :
    x ∈ c.supersedeMortal.traitIds ↔ x ∈ c.traitIds ∧
      (x ∈ c.granted [.mortal] → x ∈ c.granted (c.templates.filter (· != .mortal))) := by
  rw [supersedeMortal, if_pos (by simp [hm, hne])]
  dsimp only
  rw [mem_traitIds_removeTraits, List.mem_filter]
  show x ∈ c.traitIds ∧ _ ↔ _
  simp only [Bool.not_eq_true', List.contains_eq_mem, decide_eq_false_iff_not, not_and, not_not]

/-- A character without templates that becomes a mortal. -/
theorem Sound.becomeMortal (h : c.Sound) (hempty : c.templates = [])
    (hok : (c.addTemplate .mortal).fault = none) :
    ∃ m, c.engine.templates.get? .mortal = some m ∧
      Grown { c with templates := [.mortal] } m.traitIds (c.addTemplate .mortal).after := by
  rcases h.addTemplate_ok hok with ⟨hs | ⟨_, hne⟩, _⟩ | ⟨m, q, hg, _, _, _, hgrown, he⟩
  · rw [hempty] at hs; cases hs
  · exact absurd hempty hne
  · rw [hempty] at hgrown
    have halone : q.MortalAlone := fun _ => hgrown.framed.templates
    rw [he, supersedeMortal_of_alone halone]
    exact ⟨m, hg, hgrown⟩

theorem GrantsPresent.supersedeMortal (h : c.GrantsPresent) : c.supersedeMortal.GrantsPresent := by
  by_cases hs : .mortal ∈ c.templates ∧ c.templates ≠ [.mortal]
  · intro x hx
    rw [granted, supersedeMortal_engine, supersedeMortal_templates, if_pos hs] at hx
    have hold : x ∈ c.granted c.templates := granted_mono (fun _ hk => List.mem_of_mem_filter hk) hx
    exact (mem_traitIds_supersedeMortal hs.1 hs.2).mpr ⟨h x hold, fun _ => hx⟩
  · rw [Character.supersedeMortal, if_neg (by simpa using hs)]
    exact h

/-- Removing a template leaves what the other templates and Mortal grant. -/
theorem mem_traitIds_without : x ∈ (c.without key).traitIds ↔
    x ∈ c.traitIds ∧ x ∈ c.granted (.mortal :: c.templates.filter (· != key)) := by
  rw [without, mem_traitIds_removeTraits, List.mem_filter]
  show x ∈ c.traitIds ∧ _ ↔ _
  apply and_congr_right
  intro hx
  simp [hx]

theorem GrantsPresent.without (h : c.GrantsPresent) (key : TemplateKey) :
    (c.without key).GrantsPresent := by
  intro x hx
  rw [granted, without_engine, without_templates] at hx
  have hold : x ∈ c.granted c.templates := granted_mono (fun _ hk => List.mem_of_mem_filter hk) hx
  have hkept : x ∈ c.granted (.mortal :: c.templates.filter (· != key)) :=
    granted_mono (fun _ hk => List.mem_cons_of_mem _ hk) hx
  exact mem_traitIds_without.mpr ⟨h x hold, hkept⟩

/-! ## What actions leave -/

/-- Neither keys nor traits have gone, and no key has come. -/
theorem GrantsPresent.framed (h : c.GrantsPresent) (hf : Framed c d)
    (hids : ∀ x ∈ c.traitIds, x ∈ d.traitIds) : d.GrantsPresent := by
  intro x hx
  rw [granted, hf.engine, hf.templates] at hx
  exact hids x (h x hx)

theorem GrantsPresent.addTrait (h : c.GrantsPresent) {id : Int}
    (hok : (c.addTrait id).fault = none) : (c.addTrait id).after.GrantsPresent :=
  h.framed (addTrait_framed c id) fun _ hx => (addTrait_ok hok).mem_traitIds.mpr (.inl hx)

theorem GrantsPresent.each_addTrait (h : c.GrantsPresent) {ids : List Int}
    (hok : (Change.each Character.addTrait ids c).fault = none) :
    (Change.each Character.addTrait ids c).after.GrantsPresent :=
  Change.each_keeps_ok (fun _ _ _ hd hd' => hd.addTrait hd') h hok

/-- A key that has been taken on with its traits. -/
theorem GrantsPresent.grown (h : c.GrantsPresent) {t : TemplateDefinition}
    (hg : c.engine.templates.get? key = some t)
    (hgrown : Grown { c with templates := insertKey key c.templates } t.traitIds d) :
    d.GrantsPresent := by
  intro x hx
  rw [granted, hgrown.framed.engine, hgrown.framed.templates] at hx
  exact hgrown.mem_traitIds.mpr (((mem_granted_insertKey hg).mp hx).imp_left (h x))

theorem GrantsPresent.addTemplate (hc : c.Sound) (h : c.GrantsPresent)
    (hok : (c.addTemplate key).fault = none) : (c.addTemplate key).after.GrantsPresent := by
  rcases hc.addTemplate_ok hok with ⟨_, he⟩ | ⟨t, q, hg, _, _, _, hgrown, he⟩
  · rw [he]; exact h
  · rw [he]; exact (h.grown hg hgrown).supersedeMortal

theorem GrantsPresent.removeTemplate (hc : c.Sound) (h : c.GrantsPresent)
    (hok : (c.removeTemplate key).fault = none) : (c.removeTemplate key).after.GrantsPresent := by
  rcases removeTemplate_cases c key with ⟨_, he⟩ | ⟨_, _, _, _, he⟩ | ⟨_, _, _, he⟩
  · rw [he]; exact h
  · rw [he] at hok ⊢
    exact (h.without key).addTemplate (hc.without key) hok
  · rw [he]; exact h.without key

theorem GrantsPresent.perform (hc : c.Sound) (h : c.GrantsPresent) :
    ∀ a, (∀ id, a ≠ .removeTrait id) → (c.perform a).fault = none →
      (c.perform a).after.GrantsPresent
  | .addTemplate _, _, hok => h.addTemplate hc hok
  | .removeTemplate _, _, hok => h.removeTemplate hc hok
  | .addTrait _, _, hok => h.addTrait hok
  | .removeTrait id, hno, _ => absurd rfl (hno id)
  | .assign id v, _, _ => h.framed (offer_framed c id v) fun _ hx => (offer_ids c id v).symm ▸ hx
  | .ask _, _, _ => h

theorem create_grantsPresent {e : Engine} (he : e.traits.Coherent) {b : Blueprint}
    {ws : List Warning} (h : create e b = .ok (c, ws)) : c.GrantsPresent := by
  obtain ⟨hbase, hvalues⟩ := create_ok h
  have hids := assignListed_ids hvalues
  have hstart : Sound (empty e b.id) ∧ GrantsPresent (empty e b.id) :=
    ⟨.empty he b.id, fun _ hx => absurd hx List.not_mem_nil⟩
  obtain ⟨hkeys, _⟩ := base_ok hbase
  have hgranted : GrantsPresent (Change.each addTemplate (Blueprint.keys b) (empty e b.id)).after :=
    (Change.each_keeps_ok (P := fun d => d.Sound ∧ d.GrantsPresent)
      (fun _ k _ hd hok => ⟨hd.1.addTemplate k, hd.2.addTemplate hd.1 hok⟩) hstart hkeys).2
  refine GrantsPresent.framed ?_ (assignListed_framed hvalues) fun _ hx => hids.symm ▸ hx
  rw [base, Change.andThen_of_none hkeys] at hbase ⊢
  exact hgranted.each_addTrait hbase

theorem Intact.grantsPresent (h : Intact c) : c.GrantsPresent := by
  induction h with
  | created hb hc => exact create_grantsPresent (Engine.coherent hb) hc
  | acted a hr hno hok ih => exact ih.perform hr.faultFree.reachable.sound a hno hok

/-- Where there is a Mortal template, a character has some template, has Mortal only if it has no
other, and has all traits that its templates grant. -/
theorem template_membership (h : Intact c) (hmortal : c.engine.templates.contains .mortal = true) :
    c.templates ≠ [] ∧ (.mortal ∈ c.templates → c.templates = [.mortal]) ∧
      ∀ key ∈ c.templates, c.engine.templates.contains key = true ∧
        ∀ id, c.engine.templates.Grants key id → c.has id = true := by
  have hreach := h.faultFree.reachable
  refine ⟨hreach.templates_ne_nil hmortal, h.faultFree.alone, ?_⟩
  intro key hk
  refine ⟨hreach.sound.known key hk, ?_⟩
  rintro id ⟨t, hg, hx⟩
  exact has_iff_mem.mpr (h.grantsPresent id (mem_granted.mpr ⟨key, hk, t, hg, hx⟩))

end

end Character

/-- Its templates share a trait, and one of them brings a main trait with its subtrait. -/
def Ruleset.overlapping : Ruleset :=
  .small
    [.small 1 "Faith" "IS_VARIABLE|FAITH" "0", .small 2 "Strength" "IS_VARIABLE|STRENGTH" "1",
      .small 3 "Clan" "IS_VARIABLE|CLAN" "", .small 4 "Arts" "MAINTRAIT_COUNT" "",
      .small 5 "Glamour" "SUBTRAIT|4" "0"]
    [.small .mortal [1, 2], .small .kindred [2, 3], .small .fae [2, 4]]

def Engine.overlapping : Engine where
  ruleset := .overlapping
  traits :=
    ⟨[{ TraitDefinition.small 1 "Faith" "IS_VARIABLE|FAITH" "0" with
        directives := [.isVariable "FAITH"] },
      { TraitDefinition.small 2 "Strength" "IS_VARIABLE|STRENGTH" "1" with
        directives := [.isVariable "STRENGTH"] },
      { TraitDefinition.small 3 "Clan" "IS_VARIABLE|CLAN" "" with
        directives := [.isVariable "CLAN"] },
      { TraitDefinition.small 4 "Arts" "MAINTRAIT_COUNT" "" with
        subtraits := [5], directives := [.mainTraitCount none] },
      { TraitDefinition.small 5 "Glamour" "SUBTRAIT|4" "0" with
        directives := [.subTrait (.id 4)] }],
      .ofList [("Arts", 4)]⟩
  templates :=
    ⟨[{ TemplateDefinition.small .mortal [1, 2] with traitIds := [1, 2] },
      { TemplateDefinition.small .kindred [2, 3] with traitIds := [2, 3] },
      { TemplateDefinition.small .fae [2, 4] with traitIds := [2, 4, 5] }]⟩
  paths := .empty

theorem Engine.build_overlapping : build .overlapping = .ok .overlapping := (rfl)

namespace Character

/-- Mortal is superseded on the way, a template goes, and what only it has brought goes with it. -/
theorem template_membership_overlapping : ∃ c d ws,
    create .overlapping ⟨0, [], [], .empty⟩ = .ok (c, ws) ∧
    Change.each perform [.addTemplate .kindred, .addTemplate .fae, .addTrait 1, .assign 2 (.int 4),
      .removeTemplate .kindred] c = .done d ∧
    d.templates = [.fae] ∧ d.traitIds = [1, 2, 4, 5] ∧
    (d.templates ≠ [] ∧ (.mortal ∈ d.templates → d.templates = [.mortal]) ∧
      ∀ key ∈ d.templates, d.engine.templates.contains key = true ∧
        ∀ id, d.engine.templates.Grants key id → d.has id = true) := by
  refine ⟨_, _, _, rfl, rfl, rfl, rfl, ?_⟩
  have hnew := Intact.created (b := ⟨0, [], [], .empty⟩) Engine.build_overlapping rfl
  have hd := hnew.each (by simp) (show (Change.each perform [.addTemplate .kindred,
    .addTemplate .fae, .addTrait 1, .assign 2 (.int 4), .removeTemplate .kindred] _).fault = none
    from rfl)
  exact template_membership hd rfl

end Character

end CharacterSheet
