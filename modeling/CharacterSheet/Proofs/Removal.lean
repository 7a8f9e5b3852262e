import CharacterSheet.Proofs.Membership

/-! What removing a template takes away: its key, and of the traits all that neither another template
nor Mortal grants, those that were added by themselves included. Where no template would be left,
Mortal comes back with what it grants. A trait that stays is not touched: it has its value, and since
what a character has registered hangs on its traits alone, it has its variables and its groups. -/

namespace CharacterSheet.Character

section

variable {c d : Character} {key : TemplateKey} {x : Int} {t : Trait}

/-! ## What a trait has registered -/

theorem Sound.eq_definition (h : c.Sound) (ht : c.trait? x = some t) {u : TraitDefinition}
    (hu : u ∈ c.definitions) (hid : u.id = x) : u = t.definition := by
  have hget := h.defined t (mem_of_trait? ht)
  rw [id_of_trait? ht, ← hid, (h.mem_definitions.mp hu).2] at hget
  exact Option.some.inj hget

theorem Sound.get?_bindings_iff (h : c.Sound) (ht : c.trait? x = some t) {name : String} :
    c.bindings.get? name = some x ↔ name ∈ t.definition.claims := by
  show c.registry.bindings.get? name = some x ↔ _
  rw [h.registered.bindings]
  constructor
  · rintro ⟨u, hu, hid, hc⟩
    exact h.eq_definition ht hu hid ▸ hc
  · exact fun hc => ⟨t.definition, List.mem_map_of_mem (mem_of_trait? ht), id_of_trait? ht, hc⟩

theorem Sound.mem_group_iff (h : c.Sound) (ht : c.trait? x = some t) {p : Int} :
    x ∈ c.group p ↔ p ∈ t.definition.mains := by
  show x ∈ c.registry.members p ↔ _
  rw [h.registered.members]
  constructor
  · rintro ⟨u, hu, hid, hp⟩
    exact h.eq_definition ht hu hid ▸ hp
  · exact fun hp => ⟨t.definition, List.mem_map_of_mem (mem_of_trait? ht), id_of_trait? ht, hp⟩

/-- Two characters with one trait in common agree on what it has registered. -/
theorem Sound.registered_alike (hc : c.Sound) (hd : d.Sound) (ht : c.trait? x = some t)
    (hu : d.trait? x = some t) :
    (∀ name, d.bindings.get? name = some x ↔ c.bindings.get? name = some x) ∧
      ∀ p, x ∈ d.group p ↔ x ∈ c.group p := by
  refine ⟨fun name => ?_, fun p => ?_⟩
  · rw [hd.get?_bindings_iff hu, hc.get?_bindings_iff ht]
  · rw [hd.mem_group_iff hu, hc.mem_group_iff ht]

/-! ## Removing a template -/

theorem Sound.trait?_without (h : c.Sound) (ht : c.trait? x = some t)
    (hx : (c.without key).has x = true) : (c.without key).trait? x = some t := by
  obtain ⟨u, hu⟩ := Option.isSome_iff_exists.mp hx
  have hmem : u ∈ c.traits := (mem_removeTraits.mp (mem_of_trait? hu)).1
  have hold := trait?_of_mem h.ascending hmem
  rw [id_of_trait? hu, ht] at hold
  rw [hu, hold]

/-- What a character with some templates left has kept and, if none are left, has got back. -/
structure Removed (c : Character) (rest : List TemplateKey) (d : Character) : Prop where
  templates : d.templates =
    if rest = [] ∧ c.engine.templates.contains .mortal = true then [.mortal] else rest
  traits : ∀ id, d.has id = true ↔
    (c.has id = true ∧ ∃ key ∈ .mortal :: rest, c.engine.templates.Grants key id) ∨
    (rest = [] ∧ c.engine.templates.Grants .mortal id)
  kept : ∀ id t, c.trait? id = some t → d.has id = true → d.trait? id = some t ∧
    (∀ name, d.bindings.get? name = some id ↔ c.bindings.get? name = some id) ∧
    ∀ p, id ∈ d.group p ↔ id ∈ c.group p

theorem has_without : (c.without key).has x = true ↔ c.has x = true ∧
    ∃ k ∈ .mortal :: c.templates.filter (· != key), c.engine.templates.Grants k x := by
  rw [has_iff_mem, has_iff_mem, mem_traitIds_without, mem_granted]
  rfl

/-- Nothing comes back. -/
theorem Sound.removed_without (h : c.Sound)
    (hleft : c.templates.filter (· != key) ≠ [] ∨ c.engine.templates.contains .mortal = false) :
    Removed c (c.templates.filter (· != key)) (c.without key) := by
  refine ⟨?_, ?_, ?_⟩
  · rw [without_templates, if_neg]
    rintro ⟨hempty, hmortal⟩
    rcases hleft with hne | hno
    · exact hne hempty
    · rw [hmortal] at hno; cases hno
  · intro id
    rw [has_without]
    refine ⟨Or.inl, ?_⟩
    rintro (hkept | ⟨hempty, m, hg, _⟩)
    · exact hkept
    · rcases hleft with hne | hno
      · exact absurd hempty hne
      · rw [TemplateCatalog.contains_of_get? hg] at hno; cases hno
  · intro id t ht hid
    have hu := h.trait?_without ht hid
    exact ⟨hu, h.registered_alike (h.without key) ht hu⟩

/-- Mortal comes back. -/
theorem Sound.removed_last (h : c.Sound) (hempty : c.templates.filter (· != key) = [])
    (hmortal : c.engine.templates.contains .mortal = true)
    (hok : ((c.without key).addTemplate .mortal).fault = none) :
    Removed c [] ((c.without key).addTemplate .mortal).after := by
  have hp := h.without key
  obtain ⟨m, hg, hgrown⟩ := hp.becomeMortal ((without_templates c key).trans hempty) hok
  rw [without_engine] at hg
  have hhas : ∀ id, ((c.without key).addTemplate .mortal).after.has id = true ↔
      (c.without key).has id = true ∨ id ∈ m.traitIds := by
    intro id
    rw [has_iff_mem, has_iff_mem]
    exact hgrown.mem_traitIds
  refine ⟨?_, ?_, ?_⟩
  · rw [if_pos ⟨rfl, hmortal⟩]
    exact hgrown.framed.templates
  · intro id
    rw [hhas, has_without, hempty, TemplateCatalog.grants_iff hg]
    exact or_congr_right (iff_and_self.mpr fun _ => rfl)
  · intro id t ht hid
    -- What Mortal grants of the traits there were has not gone.
    have hstays : (c.without key).has id = true := by
      rcases (hhas id).mp hid with hstays | hm
      · exact hstays
      · have hc : c.has id = true := by rw [has, ht]; rfl
        exact has_without.mpr ⟨hc, .mortal, List.mem_cons_self,
          (TemplateCatalog.grants_iff hg).mpr hm⟩
    have hu : ((c.without key).addTemplate .mortal).after.trait? id = some t := by
      rw [hgrown.traits]
      show ((c.without key).trait? id).or _ = _
      rw [h.trait?_without ht hstays, Option.some_or]
    exact ⟨hu, h.registered_alike (hp.addTemplate .mortal) ht hu⟩

/-- Removing a template takes away exactly what neither the other templates nor Mortal need. -/
theorem removeTemplate_exact (h : Reachable c) (hk : key ≠ .mortal) (hm : key ∈ c.templates)
    (hok : (c.removeTemplate key).fault = none) :
    Removed c (c.templates.filter (· != key)) (c.removeTemplate key).after := by
  rcases removeTemplate_cases c key with
    ⟨hs, _⟩ | ⟨_, _, hempty, hmortal, he⟩ | ⟨_, _, hleft, he⟩
  · exact absurd hs (by simp [hk, hm])
  · rw [he] at hok ⊢
    rw [hempty]
    exact h.sound.removed_last hempty hmortal hok
  · rw [he]
    exact h.sound.removed_without hleft

/-- The last template goes: its own trait with it, the trait it shares with Mortal stays as it is,
and Mortal's other trait comes. -/
theorem removeTemplate_exact_overlapping : ∃ c d, Reachable c ∧
    c.templates = [.kindred] ∧ c.traits.map (fun t => (t.id, t.raw)) = [(2, "4"), (3, "")] ∧
    c.removeTemplate .kindred = .done d ∧
    d.traits.map (fun t => (t.id, t.raw)) = [(1, "0"), (2, "4")] ∧ Removed c [] d := by
  have hnew := Reachable.created (b := ⟨0, [], [], .empty⟩) Engine.build_overlapping rfl
  have hc := hnew.run [.addTemplate .kindred, .addTemplate .fae, .assign 2 (.int 4),
    .removeTemplate .fae]
  refine ⟨_, _, hc, rfl, rfl, rfl, rfl, ?_⟩
  exact removeTemplate_exact hc (by decide) (List.mem_singleton.mpr rfl) rfl

end

end CharacterSheet.Character
