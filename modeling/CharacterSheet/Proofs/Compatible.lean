import CharacterSheet.Proofs.Growth

/-! Which traits a character can have together: those that the engine knows and whose names can be
read, none of which takes a name twice and no two of which take the same name. Adding traits to a
character goes well exactly where they are compatible with one another and with the traits that are
there. So it hangs neither on the order in which they come nor on anything else about the character. -/

namespace CharacterSheet

namespace TraitCatalog

/-- A trait of the catalog takes a name. -/
def Claims (c : TraitCatalog) (id : Int) (name : String) : Prop :=
  ∃ t, c.get? id = some t ∧ name ∈ t.claims

structure Compatible (c : TraitCatalog) (ids : List Int) : Prop where
  known : ∀ x ∈ ids, c.contains x = true
  legible : ∀ x ∈ ids, ∀ t, c.get? x = some t → Legible t.directives
  once : ∀ x ∈ ids, ∀ t, c.get? x = some t → t.claims.Nodup
  unshared : ∀ x ∈ ids, ∀ y ∈ ids, ∀ name, c.Claims x name → c.Claims y name → x = y

theorem Compatible.mono {c : TraitCatalog} {ids more : List Int} (h : c.Compatible more)
    (hsub : ∀ x ∈ ids, x ∈ more) : c.Compatible ids where
  known := fun x hx => h.known x (hsub x hx)
  legible := fun x hx => h.legible x (hsub x hx)
  once := fun x hx => h.once x (hsub x hx)
  unshared := fun x hx y hy => h.unshared x (hsub x hx) y (hsub y hy)

theorem compatible_append {c : TraitCatalog} {ids more : List Int} :
    c.Compatible (ids ++ more) ↔ c.Compatible ids ∧ c.Compatible more ∧
      ∀ x ∈ ids, ∀ y ∈ more, ∀ name, c.Claims x name → c.Claims y name → x = y := by
  constructor
  · intro h
    refine ⟨h.mono fun _ => List.mem_append_left _, h.mono fun _ => List.mem_append_right _, ?_⟩
    exact fun x hx y hy => h.unshared x (List.mem_append_left _ hx) y (List.mem_append_right _ hy)
  · rintro ⟨hids, hmore, hcross⟩
    refine ⟨?_, ?_, ?_, ?_⟩
    · exact fun x hx => (List.mem_append.mp hx).elim (hids.known x) (hmore.known x)
    · exact fun x hx => (List.mem_append.mp hx).elim (hids.legible x) (hmore.legible x)
    · exact fun x hx => (List.mem_append.mp hx).elim (hids.once x) (hmore.once x)
    · intro x hx y hy name hcx hcy
      rcases List.mem_append.mp hx with hx | hx <;> rcases List.mem_append.mp hy with hy | hy
      · exact hids.unshared x hx y hy name hcx hcy
      · exact hcross x hx y hy name hcx hcy
      · exact (hcross y hy x hx name hcy hcx).symm
      · exact hmore.unshared x hx y hy name hcx hcy

end TraitCatalog

namespace Character

section

variable {c : Character} {id : Int} {ids : List Int}

/-- The traits of a character are compatible. -/
theorem Sound.compatible (h : c.Sound) : c.engine.traits.Compatible c.traitIds := by
  have hdef : ∀ x ∈ c.traitIds, ∀ t, c.engine.traits.get? x = some t → t ∈ c.definitions := by
    intro x hx t ht
    obtain rfl := TraitCatalog.id_of_get? ht
    exact h.mem_definitions.mpr ⟨has_iff_mem.mpr hx, ht⟩
  refine ⟨?_, ?_, ?_, ?_⟩
  · intro x hx
    obtain ⟨t, ht, rfl⟩ := List.mem_map.mp hx
    rw [TraitCatalog.contains, h.defined t ht]
    rfl
  · exact fun x hx t ht => h.registered.legible t (hdef x hx t ht)
  · exact fun x hx t ht => h.registered.once t (hdef x hx t ht)
  · rintro x hx y hy name ⟨t, ht, hct⟩ ⟨u, hu, hcu⟩
    have hid := h.registered.unshared (hdef x hx t ht) (hdef y hy u hu) hct hcu
    rwa [TraitCatalog.id_of_get? ht, TraitCatalog.id_of_get? hu] at hid

/-- A trait that is compatible with those that are there finds its names free. -/
theorem Sound.addTrait_compatible (h : c.Sound)
    (hall : c.engine.traits.Compatible (id :: c.traitIds)) : (c.addTrait id).fault = none := by
  rcases h.addTrait_cases id with ⟨_, he⟩ | ⟨_, _, _, _, _, he⟩ | ⟨f, hno, hfail, _⟩
  · rw [he]; rfl
  · rw [he]; rfl
  · obtain ⟨t, hg⟩ := Option.isSome_iff_exists.mp (hall.known id List.mem_cons_self)
    have hfree : ∀ name ∈ t.claims, c.registry.bindings.get? name = none := by
      intro name hname
      cases hb : c.registry.bindings.get? name with
      | none => rfl
      | some owner =>
        obtain ⟨u, hu, rfl, hcu⟩ := (h.registered.bindings name owner).mp hb
        obtain ⟨hthere, hgu⟩ := h.mem_definitions.mp hu
        have hsame : id = u.id := hall.unshared id List.mem_cons_self u.id
          (List.mem_cons_of_mem _ (has_iff_mem.mp hthere)) name ⟨t, hg, hname⟩ ⟨u, hgu, hcu⟩
        rw [hsame, hthere] at hno
        cases hno
    obtain ⟨r, hr⟩ := Registry.addAll_free (hall.legible id List.mem_cons_self t hg)
      (hall.once id List.mem_cons_self t hg) hfree
    exact absurd hr (hfail t r hg)

/-- Traits can be added one after the other exactly where all are compatible in the end. -/
theorem Sound.each_addTrait_ok_iff (h : c.Sound) :
    (Change.each Character.addTrait ids c).fault = none ↔
      c.engine.traits.Compatible (ids ++ c.traitIds) := by
  constructor
  · intro hok
    have hgrown := each_addTrait_ok hok
    rw [← hgrown.framed.engine]
    apply (h.each_addTrait ids).compatible.mono
    intro x hx
    exact hgrown.mem_traitIds.mpr (List.mem_append.mp hx).symm
  · intro hall
    induction ids generalizing c with
    | nil => rfl
    | cons id r ih =>
      have hid : (c.addTrait id).fault = none := by
        apply h.addTrait_compatible
        apply hall.mono
        intro x hx
        rcases List.mem_cons.mp hx with rfl | hx
        · exact List.mem_cons_self
        · exact List.mem_append_right _ hx
      rw [Change.each, Change.andThen_of_none hid]
      apply ih (h.addTrait id)
      rw [(addTrait_framed c id).engine]
      apply hall.mono
      intro x hx
      rw [List.mem_append, (addTrait_ok hid).mem_traitIds, List.mem_singleton] at hx
      rw [List.mem_append, List.mem_cons]
      tauto

/-- A template can be added where it need not be, or where its traits are compatible with those that
are there. -/
theorem Sound.addTemplate_ok_iff (h : c.Sound) {key : TemplateKey} :
    (c.addTemplate key).fault = none ↔ ∃ t, c.engine.templates.get? key = some t ∧
      (key ∈ c.templates ∨ (key = .mortal ∧ c.templates ≠ []) ∨
        c.engine.traits.Compatible (t.traitIds ++ c.traitIds)) := by
  rcases addTemplate_cases c key with ⟨hg, he⟩ | ⟨hk, hs, he⟩ | ⟨t, hg, hno, hempty, he⟩
  · rw [he, hg]
    exact iff_of_false (by nofun) (by nofun)
  · obtain ⟨t, hg⟩ := Option.isSome_iff_exists.mp hk
    rw [he]
    exact iff_of_true rfl ⟨t, hg, hs.imp_right .inl⟩
  · rw [he, Change.andThen_done_fault,
      (h.insertKey (TemplateCatalog.contains_of_get? hg)).each_addTrait_ok_iff]
    constructor
    · exact fun hall => ⟨t, hg, .inr (.inr hall)⟩
    · rintro ⟨u, hu, hm | ⟨rfl, hne⟩ | hall⟩
      · exact absurd hm hno
      · exact absurd (hempty rfl) hne
      · obtain rfl := Option.some.inj (hg.symm.trans hu)
        exact hall

end

end Character

end CharacterSheet
