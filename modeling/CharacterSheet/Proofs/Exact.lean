import CharacterSheet.Proofs.Sound

/-! What a character's variables and groups say, in every state that a run can reach: exactly what
the rules of its traits say. A name stands for the one trait whose rule takes it, and the group of a
main trait is the traits there are whose rules name it, in order, which are the children that the
catalog knows of it as far as the character has them. -/

namespace CharacterSheet.Character

section

variable {c : Character}

theorem Sound.mem_bindings (h : c.Sound) {name : String} {id : Int} :
    (name, id) ∈ c.bindings.entries ↔ Registrable name ∧
      ∃ t ∈ c.traits, t.id = id ∧ .isVariable name ∈ t.definition.directives := by
  rw [← Table.get?_eq_some_iff]
  show c.registry.bindings.get? name = some id ↔ _
  rw [h.registered.bindings]
  constructor
  · rintro ⟨d, hd, rfl, hc⟩
    obtain ⟨t, ht, rfl⟩ := List.mem_map.mp hd
    obtain ⟨hv, hr⟩ := TraitDefinition.mem_claims.mp hc
    exact ⟨hr, t, ht, rfl, hv⟩
  · rintro ⟨hr, t, ht, rfl, hv⟩
    exact ⟨t.definition, List.mem_map_of_mem ht, rfl, TraitDefinition.mem_claims.mpr ⟨hv, hr⟩⟩

theorem Sound.unshared (h : c.Sound) {name : String} (hr : Registrable name) {t u : Trait}
    (ht : t ∈ c.traits) (hu : u ∈ c.traits) (hnt : .isVariable name ∈ t.definition.directives)
    (hnu : .isVariable name ∈ u.definition.directives) : t = u := by
  have hid : t.id = u.id := h.registered.unshared (List.mem_map_of_mem ht) (List.mem_map_of_mem hu)
    (TraitDefinition.mem_claims.mpr ⟨hnt, hr⟩) (TraitDefinition.mem_claims.mpr ⟨hnu, hr⟩)
  exact List.inj_on_of_nodup_map h.ascending.nodup ht hu hid

theorem Sound.mem_group (h : c.Sound) {p id : Int} :
    id ∈ c.group p ↔ ∃ t ∈ c.traits, t.id = id ∧ .subTrait (.id p) ∈ t.definition.directives := by
  have hmains : ∀ t ∈ c.traits,
      p ∈ t.definition.mains ↔ .subTrait (.id p) ∈ t.definition.directives := by
    intro t ht
    apply TraitDefinition.mem_mains
    exact h.catalog.resolved _ (TraitCatalog.mem_of_get? (h.defined t ht))
  show id ∈ c.registry.members p ↔ _
  rw [h.registered.members]
  constructor
  · rintro ⟨d, hd, rfl, hp⟩
    obtain ⟨t, ht, rfl⟩ := List.mem_map.mp hd
    exact ⟨t, ht, rfl, (hmains t ht).mp hp⟩
  · rintro ⟨t, ht, rfl, hp⟩
    exact ⟨t.definition, List.mem_map_of_mem ht, rfl, (hmains t ht).mpr hp⟩

theorem Sound.group_ascending (h : c.Sound) (p : Int) : Ascending (c.group p) :=
  h.registered.tidy.ascending p

theorem Sound.group_eq (h : c.Sound) (p : Int) :
    c.group p = (c.traits.filter fun t => .subTrait (.id p) ∈ t.definition.directives).map
      Trait.id := by
  apply (h.group_ascending p).ext (h.ascending.sublist (List.filter_sublist.map _))
  intro id
  rw [h.mem_group, List.mem_map]
  simp only [List.mem_filter, decide_eq_true_eq]
  constructor
  · rintro ⟨t, ht, rfl, hp⟩
    exact ⟨t, ⟨ht, hp⟩, rfl⟩
  · rintro ⟨t, ⟨ht, hp⟩, rfl⟩
    exact ⟨t, ht, rfl, hp⟩

theorem Sound.group_eq_subtraits (h : c.Sound) {p : Int} {d : TraitDefinition}
    (hd : c.engine.traits.get? p = some d) : c.group p = d.subtraits.filter c.has := by
  have hasc := h.catalog.childrenAscending d (TraitCatalog.mem_of_get? hd)
  apply (h.group_ascending p).ext (List.Pairwise.filter _ hasc)
  intro id
  rw [h.mem_group, List.mem_filter, has_iff_mem, h.catalog.mem_subtraits hd]
  constructor
  · rintro ⟨t, ht, rfl, hp⟩
    exact ⟨⟨t.definition, h.defined t ht, hp⟩, List.mem_map_of_mem ht⟩
  · rintro ⟨⟨u, hu, hp⟩, hm⟩
    obtain ⟨t, ht, rfl⟩ := List.mem_map.mp hm
    obtain rfl : u = t.definition := Option.some.inj (hu.symm.trans (h.defined t ht))
    exact ⟨t, ht, rfl, hp⟩

/-- What variables and groups are to be. -/
structure Exact (c : Character) : Prop where
  known : ∀ t ∈ c.traits, c.engine.traits.get? t.id = some t.definition
  bindings : ∀ name id, (name, id) ∈ c.bindings.entries ↔ Registrable name ∧
    ∃ t ∈ c.traits, t.id = id ∧ .isVariable name ∈ t.definition.directives
  unshared : ∀ name, Registrable name → ∀ t ∈ c.traits, ∀ u ∈ c.traits,
    .isVariable name ∈ t.definition.directives → .isVariable name ∈ u.definition.directives → t = u
  groups : ∀ p, c.group p =
    (c.traits.filter fun t => .subTrait (.id p) ∈ t.definition.directives).map Trait.id
  children : ∀ p d, c.engine.traits.get? p = some d → c.group p = d.subtraits.filter c.has
  occupied : ∀ p, (p, []) ∉ c.groups.entries

theorem Sound.exact (h : c.Sound) : c.Exact where
  known := h.defined
  bindings _ _ := h.mem_bindings
  unshared _ hr _ ht _ hu := h.unshared hr ht hu
  groups := h.group_eq
  children _ _ hd := h.group_eq_subtraits hd
  occupied p he := h.registered.tidy.occupied p (Table.get?_eq_some_iff.mpr he)

/-- Variables and groups are exactly those of the traits there are, whatever has been done to the
character and whatever of it has failed. -/
theorem registrations_exact (h : Reachable c) : c.Exact := h.sound.exact

/-- Here two traits of a template were added before the third one failed. -/
theorem registrations_exact_clashing : ∃ c ws,
    create .clashing ⟨0, [], [], .empty⟩ = .ok (c, ws) ∧
    (c.addTemplate .kindred).fault = some (.rule (.sharedVariable "X" 1 "Delta")) ∧
    (c.run [.addTemplate .kindred]).traitIds = [1, 2, 3] ∧
    (c.run [.addTemplate .kindred]).Exact := by
  have hnew := Reachable.created (b := ⟨0, [], [], .empty⟩) Engine.build_clashing rfl
  exact ⟨_, _, rfl, rfl, rfl, registrations_exact (hnew.run _)⟩

end

end CharacterSheet.Character
