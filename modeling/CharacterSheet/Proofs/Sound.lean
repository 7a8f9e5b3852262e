import CharacterSheet.Proofs.Registration
import CharacterSheet.Proofs.Run

/-! The invariant of a character. Its traits stand in order and are those of its engine's catalog,
its registry holds what they register, computed traits keep their raw values, and its template keys
stand in order and are known. Every action keeps it, whether it fails or not: a trait that can not
register itself leaves the character exactly as it was, so a template that fails half-way has only
added some traits. The state of the traits is told through `trait?`, one lemma an operation. -/

namespace CharacterSheet

theorem TemplateCatalog.contains_of_get? {c : TemplateCatalog} {key : TemplateKey}
    {t : TemplateDefinition} (h : c.get? key = some t) : c.contains key = true := by
  rw [contains, h]
  rfl

namespace Trait

/-- The trait with this ID has another raw value, and any other trait its own. -/
def revalue (id : Int) (raw : String) (t : Trait) : Trait := if t.id = id then { t with raw } else t

section

variable (id : Int) (raw : String) (t : Trait)

@[simp] theorem revalue_definition : (t.revalue id raw).definition = t.definition := by
  unfold revalue
  split <;> rfl

@[simp] theorem revalue_id : (t.revalue id raw).id = t.id :=
  congrArg TraitDefinition.id (revalue_definition id raw t)

@[simp] theorem revalue_name : (t.revalue id raw).name = t.name :=
  congrArg TraitDefinition.name (revalue_definition id raw t)

@[simp] theorem revalue_profile : (t.revalue id raw).profile = t.profile :=
  congrArg Profile.of (revalue_definition id raw t)

@[simp] theorem revalue_self : t.revalue t.id raw = { t with raw } := if_pos rfl

/-- Only the last raw value counts. -/
@[simp] theorem revalue_revalue (raw' : String) :
    (t.revalue id raw).revalue id raw' = t.revalue id raw' := by
  rw [revalue, revalue_id]
  by_cases h : t.id = id
  · simp [revalue, h]
  · simp [revalue, h]

end

theorem revalue_of_ne {id : Int} {t : Trait} (h : t.id ≠ id) (raw : String) :
    t.revalue id raw = t := if_neg h

end Trait

namespace Character

open TraitCatalog (insertId mem_insertId insertId_ascending)

def definitions (c : Character) : List TraitDefinition := c.traits.map Trait.definition

structure Sound (c : Character) : Prop where
  catalog : c.engine.traits.Coherent
  ascending : Ascending c.traitIds
  defined : ∀ t ∈ c.traits, c.engine.traits.get? t.id = some t.definition
  registered : c.registry.Holds c.definitions
  computed : ∀ t ∈ c.traits, t.profile.derivation.isAssignable = false → t = .fresh t.definition
  keys : Ascending (c.templates.map Vocabulary.code)
  known : ∀ k ∈ c.templates, c.engine.templates.contains k = true

/-! ## Looking at traits -/

theorem id_of_trait? {c : Character} {id : Int} {t : Trait} (h : c.trait? id = some t) :
    t.id = id := by simpa using List.find?_some h

theorem mem_of_trait? {c : Character} {id : Int} {t : Trait} (h : c.trait? id = some t) :
    t ∈ c.traits := List.mem_of_find?_eq_some h

theorem has_iff_mem {c : Character} {id : Int} : c.has id = true ↔ id ∈ c.traitIds := by
  rw [has, Option.isSome_iff_exists, traitIds, List.mem_map]
  constructor
  · rintro ⟨t, ht⟩
    exact ⟨t, mem_of_trait? ht, id_of_trait? ht⟩
  · rintro ⟨t, ht, rfl⟩
    cases hf : c.trait? t.id with
    | none => exact absurd (beq_self_eq_true t.id) (List.find?_eq_none.mp hf t ht)
    | some u => exact ⟨u, rfl⟩

theorem not_mem_of_has_eq_false {c : Character} {id : Int} (h : c.has id = false) :
    id ∉ c.traitIds := by
  intro hm
  rw [has_iff_mem.mpr hm] at h
  cases h

theorem trait?_eq_none_of_has {c : Character} {id : Int} (h : c.has id = false) :
    c.trait? id = none := by simpa [has] using h

theorem trait?_of_mem {c : Character} (h : Ascending c.traitIds) {t : Trait} (ht : t ∈ c.traits) :
    c.trait? t.id = some t := by
  have hhas : c.has t.id = true := has_iff_mem.mpr (List.mem_map_of_mem ht)
  obtain ⟨u, hu⟩ := Option.isSome_iff_exists.mp hhas
  rw [hu, List.inj_on_of_nodup_map h.nodup (mem_of_trait? hu) ht (id_of_trait? hu)]

theorem named?_eq_head? (c : Character) (name : String) :
    c.named? name = (c.present (c.engine.traits.idsForName name)).head? :=
  List.head?_filterMap.symm

/-- Characters that show the same traits have the same traits. -/
theorem traits_ext {c d : Character} (hc : Ascending c.traitIds) (hd : Ascending d.traitIds)
    (h : ∀ id, c.trait? id = d.trait? id) : c.traits = d.traits := by
  have hids : c.traitIds = d.traitIds := by
    apply hc.ext hd
    intro id
    rw [← has_iff_mem, ← has_iff_mem, has, has, h]
  have hget : ∀ e : Character, Ascending e.traitIds →
      e.traits.map some = e.traitIds.map e.trait? := by
    intro e he
    rw [traitIds, List.map_map]
    exact List.map_congr_left fun t ht => (trait?_of_mem he ht).symm
  have hsome : c.traits.map some = d.traits.map some := by
    rw [hget c hc, hget d hd, hids]
    exact List.map_congr_left fun id _ => h id
  exact List.map_injective_iff.mpr (Option.some_injective _) hsome

theorem ids_definitions (c : Character) :
    c.definitions.map TraitDefinition.id = c.traitIds := by
  rw [definitions, List.map_map]
  rfl

theorem Sound.mem_definitions {c : Character} (h : c.Sound) {t : TraitDefinition} :
    t ∈ c.definitions ↔ c.has t.id = true ∧ c.engine.traits.get? t.id = some t := by
  rw [has_iff_mem, traitIds, definitions, List.mem_map]
  constructor
  · rintro ⟨u, hu, rfl⟩
    exact ⟨List.mem_map_of_mem hu, h.defined u hu⟩
  · rintro ⟨hm, hg⟩
    obtain ⟨u, hu, hid⟩ := List.mem_map.mp hm
    have hg' := h.defined u hu
    rw [hid, hg] at hg'
    exact ⟨u, hu, (Option.some.inj hg').symm⟩

/-- Characters with the same traits have registered the same, in whatever order. -/
theorem Sound.registrations_ext {c d : Character} (hc : c.Sound) (hd : d.Sound)
    (he : d.engine = c.engine) (hids : d.traitIds = c.traitIds) :
    (∀ name, d.bindings.get? name = c.bindings.get? name) ∧
      ∀ p, d.groups.get? p = c.groups.get? p := by
  apply Registry.Holds.ext hd.registered hc.registered
  intro t
  rw [hd.mem_definitions, hc.mem_definitions, he, has_iff_mem, has_iff_mem, hids]

/-! ## Traits -/

section Traits

variable {c : Character}

theorem Sound.withTraits (h : c.Sound) {d : Character} (he : d.engine = c.engine)
    (hk : d.templates = c.templates) (hasc : Ascending d.traitIds)
    (hdef : ∀ t ∈ d.traits, d.engine.traits.get? t.id = some t.definition)
    (hreg : d.registry.Holds d.definitions)
    (hcomp : ∀ t ∈ d.traits, t.profile.derivation.isAssignable = false → t = .fresh t.definition) :
    d.Sound where
  catalog := he ▸ h.catalog
  ascending := hasc
  defined := hdef
  registered := hreg
  computed := hcomp
  keys := hk ▸ h.keys
  known := by rw [hk, he]; exact h.known

/-- All that adding a trait can do. -/
theorem addTrait_cases (c : Character) (id : Int) :
    (c.has id = true ∧ c.addTrait id = .done c) ∨
    (∃ d r, c.has id = false ∧ c.engine.traits.get? id = some d ∧
      Registry.addAll d c.registry d.directives = .ok r ∧ c.addTrait id =
        .done { c.withRegistry r with traits := insertTrait (.fresh d) c.traits }) ∨
    (∃ d f, c.has id = false ∧ c.engine.traits.get? id = some d ∧
      Registry.addAll d c.registry d.directives = .error f ∧
      c.addTrait id = .failed (c.withRegistry (c.registry.purge id)) f) ∨
    (c.has id = false ∧ c.engine.traits.get? id = none ∧
      c.addTrait id = .failed c (.value (.unknownTrait id))) := by
  unfold addTrait
  by_cases hh : c.has id = true
  · exact .inl ⟨hh, if_pos hh⟩
  · have hno : c.has id = false := by simpa using hh
    rw [if_neg hh]
    cases hg : c.engine.traits.get? id with
    | none => exact .inr (.inr (.inr ⟨hno, rfl, rfl⟩))
    | some d =>
      cases ha : Registry.addAll d c.registry d.directives with
      | ok r => exact .inr (.inl ⟨d, r, hno, rfl, ha, by simp only [ha]⟩)
      | error f => exact .inr (.inr (.inl ⟨d, f, hno, rfl, ha, by simp only [ha]⟩))

/-- A trait that is not there has nothing to be purged. -/
theorem Sound.purge_absent (h : c.Sound) {id : Int} (hno : c.has id = false) :
    c.registry.purge id = c.registry := by
  apply h.registered.purge_absent
  rw [ids_definitions]
  exact not_mem_of_has_eq_false hno

/-- Adding a trait to a sound character either does so or leaves it as it is. -/
theorem Sound.addTrait_cases (h : c.Sound) (id : Int) :
    (c.has id = true ∧ c.addTrait id = .done c) ∨
    (∃ d r, c.has id = false ∧ c.engine.traits.get? id = some d ∧
      Registry.addAll d c.registry d.directives = .ok r ∧ c.addTrait id =
        .done { c.withRegistry r with traits := insertTrait (.fresh d) c.traits }) ∨
    (∃ f, c.has id = false ∧
      (∀ d r, c.engine.traits.get? id = some d → Registry.addAll d c.registry d.directives ≠ .ok r) ∧
      c.addTrait id = .failed c f) := by
  rcases Character.addTrait_cases c id with
    hthere | hadded | ⟨d, f, hno, hg, ha, he⟩ | ⟨hno, hg, he⟩
  · exact .inl hthere
  · exact .inr (.inl hadded)
  · rw [h.purge_absent hno] at he
    refine .inr (.inr ⟨f, hno, ?_, he⟩)
    intro u r hu
    rw [hg] at hu
    obtain rfl := Option.some.inj hu
    rw [ha]
    nofun
  · refine .inr (.inr ⟨_, hno, ?_, he⟩)
    intro u r hu
    rw [hg] at hu
    cases hu

theorem Sound.addTrait (h : c.Sound) (id : Int) : (c.addTrait id).after.Sound := by
  rcases h.addTrait_cases id with ⟨_, he⟩ | ⟨d, r, hno, hg, ha, he⟩ | ⟨f, _, _, he⟩
  · rw [he]; exact h
  · have hid : d.id = id := TraitCatalog.id_of_get? hg
    have habs : (Trait.fresh d).id ∉ c.traits.map Trait.id := by
      show d.id ∉ _
      rw [hid]
      exact not_mem_of_has_eq_false hno
    rw [he]
    refine h.withTraits rfl rfl ?_ ?_ ?_ ?_
    · show Ascending ((insertTrait (.fresh d) c.traits).map Trait.id)
      rw [insertTrait_ids]
      exact insertId_ascending h.ascending
    · intro t ht
      rcases (mem_insertTrait habs).mp ht with rfl | ht
      · show c.engine.traits.get? d.id = some d
        rw [hid]
        exact hg
      · exact h.defined t ht
    · apply h.registered.add ha
      intro u
      show u ∈ (insertTrait (.fresh d) c.traits).map Trait.definition ↔ u = d ∨ u ∈ c.definitions
      rw [definitions, List.mem_map, List.mem_map]
      constructor
      · rintro ⟨t, ht, rfl⟩
        rcases (mem_insertTrait habs).mp ht with rfl | ht
        · exact .inl rfl
        · exact .inr ⟨t, ht, rfl⟩
      · rintro (rfl | ⟨t, ht, rfl⟩)
        · exact ⟨_, (mem_insertTrait habs).mpr (.inl rfl), rfl⟩
        · exact ⟨t, (mem_insertTrait habs).mpr (.inr ht), rfl⟩
    · intro t ht hc
      rcases (mem_insertTrait habs).mp ht with rfl | ht
      · rfl
      · exact h.computed t ht hc
  · rw [he]; exact h

theorem Sound.removeTrait (h : c.Sound) (id : Int) : (c.removeTrait id).Sound := by
  unfold Character.removeTrait
  split
  · refine h.withTraits rfl rfl ?_ ?_ ?_ ?_
    · exact h.ascending.sublist (List.filter_sublist.map _)
    · exact fun t ht => h.defined t (List.mem_of_mem_filter ht)
    · apply h.registered.purge
      intro u
      show u ∈ (c.traits.filter fun t => t.id != id).map Trait.definition ↔ _
      rw [definitions, List.mem_map, List.mem_map]
      constructor
      · rintro ⟨t, ht, rfl⟩
        obtain ⟨hm, hne⟩ := List.mem_filter.mp ht
        exact ⟨⟨t, hm, rfl⟩, bne_iff_ne.mp hne⟩
      · rintro ⟨⟨t, ht, rfl⟩, hne⟩
        exact ⟨t, List.mem_filter.mpr ⟨ht, bne_iff_ne.mpr hne⟩, rfl⟩
    · exact fun t ht => h.computed t (List.mem_of_mem_filter ht)
  · exact h

theorem Sound.removeTraits (h : c.Sound) (ids : List Int) : (c.removeTraits ids).Sound := by
  induction ids generalizing c with
  | nil => exact h
  | cons id r ih => exact ih (h.removeTrait id)

theorem setRaw_traits (c : Character) (id : Int) (raw : String) :
    (c.setRaw id raw).traits = c.traits.map (Trait.revalue id raw) := rfl

theorem mem_setRaw_iff {id : Int} {raw : String} {u : Trait} :
    u ∈ (c.setRaw id raw).traits ↔ ∃ t ∈ c.traits, t.revalue id raw = u := List.mem_map

theorem setRaw_ids (id : Int) (raw : String) : (c.setRaw id raw).traitIds = c.traitIds := by
  rw [traitIds, traitIds, setRaw_traits, List.map_map]
  exact List.map_congr_left fun t _ => Trait.revalue_id id raw t

theorem setRaw_definitions (id : Int) (raw : String) :
    (c.setRaw id raw).definitions = c.definitions := by
  rw [definitions, definitions, setRaw_traits, List.map_map]
  exact List.map_congr_left fun t _ => Trait.revalue_definition id raw t

theorem trait?_setRaw (c : Character) (id : Int) (raw : String) (x : Int) :
    (c.setRaw id raw).trait? x = (c.trait? x).map (Trait.revalue id raw) := by
  have hid : ((fun t : Trait => t.id == x) ∘ Trait.revalue id raw) = fun t => t.id == x := by
    funext t
    simp
  rw [trait?, setRaw_traits, List.find?_map, hid]
  rfl

theorem setRaw_trait?_of_ne {id x : Int} (hne : x ≠ id) (raw : String) :
    (c.setRaw id raw).trait? x = c.trait? x := by
  rw [trait?_setRaw]
  cases hx : c.trait? x with
  | none => rfl
  | some t =>
    have hid : t.id ≠ id := id_of_trait? hx ▸ hne
    exact congrArg some (Trait.revalue_of_ne hid raw)

theorem Sound.setRaw (h : c.Sound) {t : Trait} (ht : t ∈ c.traits)
    (ha : t.profile.derivation.isAssignable = true) (raw : String) : (c.setRaw t.id raw).Sound := by
  refine h.withTraits rfl rfl ?_ ?_ ?_ ?_
  · rw [setRaw_ids]; exact h.ascending
  · intro u hu
    obtain ⟨v, hv, rfl⟩ := mem_setRaw_iff.mp hu
    rw [Trait.revalue_id, Trait.revalue_definition]
    exact h.defined v hv
  · rw [setRaw_definitions]; exact h.registered
  · intro u hu hc
    obtain ⟨v, hv, rfl⟩ := mem_setRaw_iff.mp hu
    by_cases hid : v.id = t.id
    · rw [Trait.revalue_profile, List.inj_on_of_nodup_map h.ascending.nodup hv ht hid] at hc
      exact absurd (ha.symm.trans hc) (by decide)
    · rw [Trait.revalue_of_ne hid] at hc ⊢
      exact h.computed v hv hc

end Traits

/-! ## Templates -/

section Templates

variable {c : Character}

theorem Sound.withTemplates (h : c.Sound) {keys : List TemplateKey}
    (hk : Ascending (keys.map Vocabulary.code))
    (hkn : ∀ k ∈ keys, c.engine.templates.contains k = true) :
    Sound { c with templates := keys } :=
  ⟨h.catalog, h.ascending, h.defined, h.registered, h.computed, hk, hkn⟩

theorem Sound.insertKey (h : c.Sound) {key : TemplateKey}
    (hk : c.engine.templates.contains key = true) :
    Sound { c with templates := insertKey key c.templates } := by
  apply h.withTemplates
  · rw [insertKey_codes]
    exact insertId_ascending h.keys
  · intro k hm
    rcases mem_insertKey.mp hm with rfl | hm
    · exact hk
    · exact h.known k hm

theorem Sound.filterKeys (h : c.Sound) (p : TemplateKey → Bool) :
    Sound { c with templates := c.templates.filter p } := by
  apply h.withTemplates
  · exact h.keys.sublist (List.filter_sublist.map _)
  · exact fun k hk => h.known k (List.mem_of_mem_filter hk)

theorem Sound.supersedeMortal (h : c.Sound) : c.supersedeMortal.Sound := by
  unfold Character.supersedeMortal
  split
  · exact (h.filterKeys _).removeTraits _
  · exact h

theorem Sound.each_addTrait (h : c.Sound) (ids : List Int) :
    (Change.each Character.addTrait ids c).after.Sound :=
  Change.each_keeps (fun _ id hd => hd.addTrait id) h

theorem Sound.addTemplate (h : c.Sound) (key : TemplateKey) : (c.addTemplate key).after.Sound := by
  unfold Character.addTemplate
  cases hg : c.engine.templates.get? key with
  | none => exact h
  | some t =>
    have hk := TemplateCatalog.contains_of_get? hg
    dsimp only
    split
    · exact h
    · exact Change.andThen_keeps ((h.insertKey hk).each_addTrait _) fun d hd => hd.supersedeMortal

theorem Sound.removeTemplate (h : c.Sound) (key : TemplateKey) :
    (c.removeTemplate key).after.Sound := by
  unfold Character.removeTemplate
  split
  · exact h
  · have hrest := (h.filterKeys (· != key)).removeTraits
      (c.traitIds.filter fun id => !(c.granted (.mortal :: c.templates.filter (· != key))).contains id)
    dsimp only
    split
    · exact hrest.addTemplate .mortal
    · exact hrest

end Templates

/-! ## Runs -/

section Runs

variable {c : Character}

/-- All that assigning a value can do. -/
theorem assign_ok {t : Trait} {v : Data} {d : Character} {taken : Bool}
    (h : c.assign t v = .ok (d, taken)) :
    (t.profile.derivation.isAssignable = true ∧ ∃ raw, d = c.setRaw t.id raw) ∨ d = c := by
  obtain ⟨decision, hw, h⟩ := Result.bind_ok h
  split at h
  · rename_i hs
    obtain ⟨s, _, h⟩ := Result.bind_ok h
    obtain ⟨rfl, _⟩ := Prod.mk.inj (Result.pure_ok h)
    cases ha : t.profile.derivation.isAssignable with
    | true => exact .inl ⟨rfl, _, rfl⟩
    | false =>
      rw [weigh, ha] at hw
      cases hw
      cases hs
  · obtain ⟨_, _, h⟩ := Result.bind_ok h
    obtain ⟨rfl, _⟩ := Prod.mk.inj (Result.pure_ok h)
    exact .inr rfl

theorem Sound.assign (h : c.Sound) {t : Trait} (ht : t ∈ c.traits) {v : Data} {d : Character}
    {taken : Bool} (ha : c.assign t v = .ok (d, taken)) : d.Sound := by
  rcases assign_ok ha with ⟨hassignable, _, rfl⟩ | rfl
  · exact h.setRaw ht hassignable _
  · exact h

theorem Sound.offer (h : c.Sound) (id : Int) (v : Data) : (c.offer id v).after.Sound := by
  unfold Character.offer
  split
  · exact h
  · rename_i t ht
    split
    · exact h.assign (mem_of_trait? ht) ‹_›
    · exact h

theorem Sound.perform (h : c.Sound) : ∀ a, (c.perform a).after.Sound
  | .addTemplate key => h.addTemplate key
  | .removeTemplate key => h.removeTemplate key
  | .addTrait id => h.addTrait id
  | .removeTrait id => h.removeTrait id
  | .assign id v => h.offer id v
  | .ask _ => h

theorem Sound.empty {e : Engine} (h : e.traits.Coherent) (id : Int) : (empty e id).Sound where
  catalog := h
  ascending := List.Pairwise.nil
  defined := fun _ hm => absurd hm List.not_mem_nil
  registered := .empty
  computed := fun _ hm => absurd hm List.not_mem_nil
  keys := List.Pairwise.nil
  known := fun _ hm => absurd hm List.not_mem_nil

theorem Sound.assignListed (h : c.Sound) {l : List (Int × Data)} {d : Character}
    (ha : c.assignListed l = .ok d) : d.Sound := by
  induction l generalizing c with
  | nil => cases ha; exact h
  | cons p r ih =>
    obtain ⟨id, v⟩ := p
    unfold Character.assignListed at ha
    split at ha
    · rename_i t ht
      obtain ⟨⟨q, taken⟩, hq, ha⟩ := Result.bind_ok ha
      exact ih (h.assign (mem_of_trait? ht) hq) ha
    · exact ih h ha

/-- What a new character is before its values are assigned. -/
def base (e : Engine) (b : Blueprint) : Change :=
  (Change.each addTemplate (Blueprint.keys b) (Character.empty e b.id)).andThen
    (addListed · b.addedTraits)

/-- What there is to say against what a new character is made of. -/
def warnings (e : Engine) (b : Blueprint) : List Warning :=
  (b.addedTraits.filter fun id => !e.traits.contains id).map (.unknownTrait b.id) ++
    (b.values.keys.filter fun id => !(base e b).after.has id).map (.strayValue b.id)

theorem create_eq (e : Engine) (b : Blueprint) : create e b = match (base e b).fault with
    | some f => .error f
    | none => (base e b).after.assignListed b.values.entries >>= fun c =>
      .ok (c, warnings e b) := rfl

theorem create_ok {e : Engine} {b : Blueprint} {ws : List Warning}
    (h : create e b = .ok (c, ws)) :
    (base e b).fault = none ∧ (base e b).after.assignListed b.values.entries = .ok c := by
  rw [create_eq] at h
  split at h
  · cases h
  · rename_i hf
    obtain ⟨d, hd, h⟩ := Result.bind_ok h
    cases h
    exact ⟨hf, hd⟩

theorem create_of_base {e : Engine} {b : Blueprint} (hf : (base e b).fault = none)
    (ha : (base e b).after.assignListed b.values.entries = .ok c) :
    create e b = .ok (c, warnings e b) := by
  rw [create_eq, hf]
  dsimp only
  rw [ha]
  rfl

theorem Sound.base {e : Engine} (h : e.traits.Coherent) (b : Blueprint) :
    (Character.base e b).after.Sound := by
  have hkeys :
      (Change.each Character.addTemplate (Blueprint.keys b) (Character.empty e b.id)).after.Sound :=
    Change.each_keeps (fun _ key hd => hd.addTemplate key) (Sound.empty h b.id)
  exact Change.andThen_keeps hkeys fun d hd => hd.each_addTrait _

theorem Sound.create {e : Engine} (h : e.traits.Coherent) {b : Blueprint} {ws : List Warning}
    (hc : create e b = .ok (c, ws)) : c.Sound :=
  (Sound.base h b).assignListed (create_ok hc).2

theorem Reachable.sound (h : Reachable c) : c.Sound := by
  induction h with
  | created hb hc => exact .create (Engine.coherent hb) hc
  | acted a _ ih => exact ih.perform a

end Runs

end Character

end CharacterSheet
