import CharacterSheet.Proofs.Compatible
import CharacterSheet.Proofs.Keys

/-! Building a character anew from its template keys and its added traits. No trait of it can fail,
since all of them are compatible in the character that was saved. So the templates bring back the
traits that they grant, Mortal is not superseded, and the added traits bring back the rest. -/

namespace CharacterSheet.Character

theorem mem_granted {c : Character} {keys : List TemplateKey} {x : Int} :
    x ∈ c.granted keys ↔
      ∃ k ∈ keys, ∃ t, c.engine.templates.get? k = some t ∧ x ∈ t.traitIds := by
  rw [granted, TemplateCatalog.granted, List.mem_flatMap]
  constructor
  · rintro ⟨k, hk, hx⟩
    cases hg : c.engine.templates.get? k with
    | none => rw [hg] at hx; cases hx
    | some t => rw [hg] at hx; exact ⟨k, hk, t, hg, hx⟩
  · rintro ⟨k, hk, t, hg, hx⟩
    exact ⟨k, hk, by rw [hg]; exact hx⟩

/-- A key that is known adds what it grants. -/
theorem mem_granted_insertKey {c : Character} {key : TemplateKey} {t : TemplateDefinition}
    (hg : c.engine.templates.get? key = some t) {keys : List TemplateKey} {x : Int} :
    x ∈ c.granted (insertKey key keys) ↔ x ∈ c.granted keys ∨ x ∈ t.traitIds := by
  rw [mem_granted, mem_granted]
  constructor
  · rintro ⟨k, hk, u, hu, hx⟩
    rcases mem_insertKey.mp hk with rfl | hk
    · obtain rfl := Option.some.inj (hg.symm.trans hu)
      exact .inr hx
    · exact .inl ⟨k, hk, u, hu, hx⟩
  · rintro (⟨k, hk, hx⟩ | hx)
    · exact ⟨k, mem_insertKey.mpr (.inr hk), hx⟩
    · exact ⟨key, mem_insertKey.mpr (.inl rfl), t, hg, hx⟩

/-- All traits that are granted are there. -/
def GrantsPresent (c : Character) : Prop := ∀ x ∈ c.granted c.templates, x ∈ c.traitIds

/-- A character that is being built anew: it has fresh traits, all of which belong to it. -/
structure Rebuilding (c p : Character) : Prop where
  sound : p.Sound
  engine : p.engine = c.engine
  id : p.id = c.id
  fresh : ∀ t ∈ p.traits, t = .fresh t.definition
  within : ∀ x ∈ p.traitIds, x ∈ c.traitIds

section

variable {c p q : Character} {ids : List Int}

/-! ## Traits -/

theorem Rebuilding.empty (hc : c.Sound) : Rebuilding c (empty c.engine c.id) where
  sound := .empty hc.catalog c.id
  engine := rfl
  id := rfl
  fresh := fun _ hm => absurd hm List.not_mem_nil
  within := fun _ hm => absurd hm List.not_mem_nil

theorem Rebuilding.grown (h : Rebuilding c p) (hg : Grown p ids q) (hq : q.Sound)
    (hids : ∀ x ∈ ids, x ∈ c.traitIds) : Rebuilding c q := by
  refine ⟨hq, hg.framed.engine.trans h.engine, hg.framed.id.trans h.id,
    hg.fresh hq.ascending h.fresh, ?_⟩
  intro x hx
  rcases hg.mem_traitIds.mp hx with hx | hx
  · exact h.within x hx
  · exact hids x hx

theorem Rebuilding.each (hc : c.Sound) (h : Rebuilding c p) (hids : ∀ x ∈ ids, x ∈ c.traitIds) :
    (Change.each addTrait ids p).fault = none ∧
      Rebuilding c (Change.each addTrait ids p).after := by
  have hok : (Change.each addTrait ids p).fault = none := by
    rw [h.sound.each_addTrait_ok_iff, h.engine]
    apply hc.compatible.mono
    intro x hx
    rcases List.mem_append.mp hx with hx | hx
    · exact hids x hx
    · exact h.within x hx
  exact ⟨hok, h.grown (each_addTrait_ok hok) (h.sound.each_addTrait ids) hids⟩

/-! ## Templates -/

theorem MortalAlone.of_subset (hc : c.MortalAlone) (hp : p.Sound)
    (hsub : ∀ k ∈ p.templates, k ∈ c.templates) : p.MortalAlone := by
  intro hm
  have hone := hc (hsub _ hm)
  apply keys_ext hp.keys (List.pairwise_singleton _ _)
  intro k
  rw [List.mem_singleton]
  constructor
  · exact fun hk => List.mem_singleton.mp (hone ▸ hsub k hk)
  · rintro rfl
    exact hm

theorem supersedeMortal_of_alone (hc : c.MortalAlone) : c.supersedeMortal = c := by
  rw [supersedeMortal, if_neg]
  intro h
  rw [Bool.and_eq_true, List.contains_iff_mem, bne_iff_ne] at h
  exact h.2 (hc h.1)

/-- Some templates have been taken on again, with nothing but their traits. -/
structure Regranting (c p : Character) : Prop extends Rebuilding c p where
  keys : ∀ k ∈ p.templates, k ∈ c.templates
  granted : ∀ x, x ∈ p.traitIds ↔ x ∈ c.granted p.templates

theorem Regranting.addTemplate (hc : c.Sound) (halone : c.MortalAlone) (hgrants : c.GrantsPresent)
    (h : Regranting c p) {key : TemplateKey} (hk : key ∈ c.templates) (hno : key ∉ p.templates) :
    (p.addTemplate key).fault = none ∧ Regranting c (p.addTemplate key).after ∧
      (p.addTemplate key).after.templates = Character.insertKey key p.templates := by
  have hknown : p.engine.templates.contains key = true := h.engine.symm ▸ hc.known key hk
  rcases addTemplate_cases p key with ⟨hg, _⟩ | ⟨_, hs, _⟩ | ⟨t, hg, _, _, he⟩
  · rw [TemplateCatalog.contains, hg] at hknown
    cases hknown
  · -- Only a key that is there already, or Mortal after another one, is passed over.
    rcases hs with hm | ⟨rfl, hne⟩
    · exact absurd hm hno
    · obtain ⟨k, hm⟩ := List.exists_mem_of_ne_nil _ hne
      have hmortal := h.keys k hm
      rw [halone hk, List.mem_singleton] at hmortal
      exact absurd (hmortal ▸ hm) hno
  · have hg' : c.engine.templates.get? key = some t := h.engine ▸ hg
    have hq : Rebuilding c { p with templates := Character.insertKey key p.templates } :=
      ⟨h.sound.insertKey hknown, h.engine, h.id, h.fresh, h.within⟩
    have hids : ∀ x ∈ t.traitIds, x ∈ c.traitIds := fun x hx =>
      hgrants x (mem_granted.mpr ⟨key, hk, t, hg', hx⟩)
    obtain ⟨hok, hr⟩ := hq.each hc hids
    have hgrown := each_addTrait_ok hok
    have hkeys : ∀ k ∈ Character.insertKey key p.templates, k ∈ c.templates := by
      intro k hm
      rcases mem_insertKey.mp hm with rfl | hm
      · exact hk
      · exact h.keys k hm
    have hafter : ∀ k ∈ (Change.each addTrait t.traitIds
        { p with templates := Character.insertKey key p.templates }).after.templates,
        k ∈ c.templates := by
      rw [hgrown.framed.templates]
      exact hkeys
    -- Mortal would have to stand beside another key to be superseded, here as in `c`.
    have hsame := supersedeMortal_of_alone (halone.of_subset hr.sound hafter)
    rw [he, Change.andThen_of_none hok, hsame]
    refine ⟨rfl, ⟨hr, hafter, ?_⟩, hgrown.framed.templates⟩
    intro x
    show x ∈ (Change.each _ _ _).after.traitIds ↔ x ∈ c.granted (Change.each _ _ _).after.templates
    rw [hgrown.framed.templates, hgrown.mem_traitIds, mem_granted_insertKey hg']
    exact or_congr_left (h.granted x)

theorem Regranting.each (hc : c.Sound) (halone : c.MortalAlone) (hgrants : c.GrantsPresent)
    {keys : List TemplateKey} (h : Regranting c p) (hkeys : ∀ k ∈ keys, k ∈ c.templates)
    (hno : ∀ k ∈ keys, k ∉ p.templates) (hnodup : keys.Nodup) :
    (Change.each Character.addTemplate keys p).fault = none ∧
      Regranting c (Change.each Character.addTemplate keys p).after ∧
      ∀ k, k ∈ (Change.each Character.addTemplate keys p).after.templates ↔
        k ∈ keys ∨ k ∈ p.templates := by
  induction keys generalizing p with
  | nil => exact ⟨rfl, h, fun k => by simp [Change.each, Change.done]⟩
  | cons key r ih =>
    obtain ⟨hfirst, hnodup⟩ := List.nodup_cons.mp hnodup
    obtain ⟨hok, hnext, ht⟩ := h.addTemplate hc halone hgrants (hkeys key List.mem_cons_self)
      (hno key List.mem_cons_self)
    have hrest : ∀ k ∈ r, k ∉ (p.addTemplate key).after.templates := by
      intro k hm
      rw [ht, mem_insertKey, not_or]
      exact ⟨fun he => hfirst (he ▸ hm), hno k (List.mem_cons_of_mem _ hm)⟩
    obtain ⟨hrok, hr, hrt⟩ := ih hnext (fun k hm => hkeys k (List.mem_cons_of_mem _ hm)) hrest hnodup
    rw [Change.each, Change.andThen_of_none hok]
    refine ⟨hrok, hr, fun k => ?_⟩
    rw [hrt, ht, mem_insertKey, List.mem_cons]
    tauto

/-- What a character is built anew from, before its values: its keys and its added traits. -/
theorem rebuild (hc : c.Sound) (hne : c.templates ≠ []) (halone : c.MortalAlone)
    (hgrants : c.GrantsPresent) (values : Table Int Data) :
    (base c.engine ⟨c.id, c.templates, c.save.addedTraits, values⟩).fault = none ∧
    Rebuilding c (base c.engine ⟨c.id, c.templates, c.save.addedTraits, values⟩).after ∧
    (base c.engine ⟨c.id, c.templates, c.save.addedTraits, values⟩).after.templates =
      c.templates ∧
    (base c.engine ⟨c.id, c.templates, c.save.addedTraits, values⟩).after.traitIds =
      c.traitIds := by
  have hkeys : Blueprint.keys ⟨c.id, c.templates, c.save.addedTraits, values⟩ = c.templates := by
    rw [Blueprint.keys, if_neg (by simpa using hne)]
  have hstart : Regranting c (empty c.engine c.id) :=
    ⟨.empty hc, fun _ hm => absurd hm List.not_mem_nil, fun _ => Iff.rfl⟩
  have hnodup : c.templates.Nodup := List.Nodup.of_map _ hc.keys.nodup
  obtain ⟨hok, hp, hpk⟩ := hstart.each hc halone hgrants (fun _ hk => hk)
    (fun _ _ => List.not_mem_nil) hnodup
  rw [base, hkeys, Change.andThen_of_none hok]
  generalize (Change.each addTemplate c.templates (Character.empty c.engine c.id)).after = p at hp hpk
  -- All keys are there now; of the added traits, those that no key has granted are still to come.
  have hpt : p.templates = c.templates := by
    apply keys_ext hp.sound.keys hc.keys
    intro k
    rw [hpk]
    exact or_iff_left List.not_mem_nil
  have hadded : ∀ x ∈ c.save.addedTraits.filter p.engine.traits.contains, x ∈ c.traitIds :=
    fun x hx => List.mem_of_mem_filter (List.mem_of_mem_filter hx)
  obtain ⟨haok, hq⟩ := hp.toRebuilding.each hc hadded
  have hgrown := each_addTrait_ok haok
  refine ⟨haok, hq, hgrown.framed.templates.trans hpt, ?_⟩
  apply hq.sound.ascending.ext hc.ascending
  intro x
  constructor
  · exact hq.within x
  · intro hx
    rw [hgrown.mem_traitIds, hp.granted, hpt]
    by_cases hg : x ∈ c.granted c.templates
    · exact .inl hg
    · obtain ⟨t, ht, rfl⟩ := List.mem_map.mp hx
      refine .inr (List.mem_filter.mpr ⟨List.mem_filter.mpr ⟨hx, by simpa using hg⟩, ?_⟩)
      rw [hp.engine, TraitCatalog.contains, hc.defined t ht]
      rfl

end

end CharacterSheet.Character
