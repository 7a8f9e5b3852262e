import CharacterSheet.Proofs.Sound

/-! What adding and removing traits does to a character, told through `trait?`. Only the traits and
what they register change. Adding some traits leaves those alone that were there and brings the
others in fresh; where it fails, it has done so up to the trait that failed. -/

namespace CharacterSheet.Character

/-- Only traits, and what they register, may differ. -/
structure Framed (c d : Character) : Prop where
  engine : d.engine = c.engine
  id : d.id = c.id
  templates : d.templates = c.templates

theorem Framed.refl (c : Character) : Framed c c := ⟨rfl, rfl, rfl⟩

theorem Framed.trans {b c d : Character} (h : Framed b c) (hd : Framed c d) : Framed b d :=
  ⟨hd.engine.trans h.engine, hd.id.trans h.id, hd.templates.trans h.templates⟩

section

variable {c d : Character} {ids : List Int}

theorem addTrait_framed (c : Character) (id : Int) : Framed c (c.addTrait id).after := by
  rcases addTrait_cases c id with
    ⟨_, he⟩ | ⟨_, _, _, _, _, he⟩ | ⟨_, _, _, _, _, he⟩ | ⟨_, _, he⟩ <;>
  · rw [he]
    exact ⟨rfl, rfl, rfl⟩

theorem removeTrait_framed (c : Character) (id : Int) : Framed c (c.removeTrait id) := by
  unfold removeTrait
  split
  · exact ⟨rfl, rfl, rfl⟩
  · exact .refl c

theorem removeTraits_framed (c : Character) (ids : List Int) : Framed c (c.removeTraits ids) := by
  induction ids generalizing c with
  | nil => exact .refl c
  | cons id r ih => exact (removeTrait_framed c id).trans (ih _)

theorem each_addTrait_framed (c : Character) (ids : List Int) :
    Framed c (Change.each addTrait ids c).after :=
  Change.each_keeps (fun d id hd => hd.trans (addTrait_framed d id)) (.refl c)

/-! ## Removing -/

theorem removeTrait_traits (c : Character) (id : Int) :
    (c.removeTrait id).traits = c.traits.filter fun t => t.id != id := by
  unfold removeTrait
  split
  · rfl
  · rename_i hno
    have habs := not_mem_of_has_eq_false (by simpa using hno)
    symm
    rw [List.filter_eq_self]
    intro t ht
    rw [bne_iff_ne]
    rintro rfl
    exact habs (List.mem_map_of_mem ht)

theorem mem_removeTraits {t : Trait} :
    t ∈ (c.removeTraits ids).traits ↔ t ∈ c.traits ∧ t.id ∉ ids := by
  induction ids generalizing c with
  | nil => simp [removeTraits]
  | cons id r ih =>
    show t ∈ ((c.removeTrait id).removeTraits r).traits ↔ _
    rw [ih, removeTrait_traits, List.mem_filter, bne_iff_ne, List.mem_cons, not_or, and_assoc]

theorem mem_traitIds_removeTraits {x : Int} :
    x ∈ (c.removeTraits ids).traitIds ↔ x ∈ c.traitIds ∧ x ∉ ids := by
  rw [traitIds, traitIds, List.mem_map, List.mem_map]
  constructor
  · rintro ⟨t, ht, rfl⟩
    obtain ⟨ht, hno⟩ := mem_removeTraits.mp ht
    exact ⟨⟨t, ht, rfl⟩, hno⟩
  · rintro ⟨⟨t, ht, rfl⟩, hno⟩
    exact ⟨t, mem_removeTraits.mpr ⟨ht, hno⟩, rfl⟩

/-! ## Adding -/

/-- Some traits have been added where they were missing. -/
structure Grown (c : Character) (ids : List Int) (d : Character) : Prop where
  framed : Framed c d
  traits : ∀ x, d.trait? x =
    (c.trait? x).or (if x ∈ ids then (c.engine.traits.get? x).map .fresh else none)
  present : ∀ x ∈ ids, d.has x = true

theorem Grown.refl (c : Character) : Grown c [] c :=
  ⟨.refl c, fun x => by simp, fun _ hx => absurd hx List.not_mem_nil⟩

theorem Grown.mem_traitIds (h : Grown c ids d) {x : Int} :
    x ∈ d.traitIds ↔ x ∈ c.traitIds ∨ x ∈ ids := by
  constructor
  · intro hx
    have hd := has_iff_mem.mpr hx
    rw [has, h.traits] at hd
    cases hc : c.trait? x with
    | some t => exact .inl (has_iff_mem.mp (by rw [has, hc]; rfl))
    | none =>
      rw [hc, Option.none_or] at hd
      split at hd
      · exact .inr ‹_›
      · cases hd
  · rintro (hx | hx)
    · apply has_iff_mem.mp
      obtain ⟨t, ht⟩ := Option.isSome_iff_exists.mp (has_iff_mem.mpr hx)
      rw [has, h.traits, ht]
      rfl
    · exact has_iff_mem.mp (h.present x hx)

theorem Grown.fresh (h : Grown c ids d) (hd : Ascending d.traitIds)
    (hfresh : ∀ t ∈ c.traits, t = .fresh t.definition) : ∀ t ∈ d.traits, t = .fresh t.definition := by
  intro t ht
  have hview := trait?_of_mem hd ht
  rw [h.traits] at hview
  cases hc : c.trait? t.id with
  | some u =>
    rw [hc, Option.some_or] at hview
    obtain rfl := Option.some.inj hview
    exact hfresh u (mem_of_trait? hc)
  | none =>
    rw [hc, Option.none_or] at hview
    split at hview
    · obtain ⟨_, _, rfl⟩ := Option.map_eq_some_iff.mp hview
      rfl
    · cases hview

theorem Grown.cons {id : Int} {m : Character} (h : Grown c [id] m) (hd : Grown m ids d) :
    Grown c (id :: ids) d := by
  refine ⟨h.framed.trans hd.framed, ?_, ?_⟩
  · intro x
    rw [hd.traits, h.traits, h.framed.engine, Option.or_assoc]
    congr 1
    obtain rfl | hx := eq_or_ne x id
    · by_cases hr : x ∈ ids <;> cases c.engine.traits.get? x <;> simp [hr]
    · simp [hx]
  · intro x hx
    rw [has_iff_mem, hd.mem_traitIds, h.mem_traitIds]
    rcases List.mem_cons.mp hx with rfl | hx
    · exact .inl (.inr List.mem_cons_self)
    · exact .inr hx

/-- A trait that was added is there, and was there before or is fresh. -/
theorem addTrait_ok {id : Int} (h : (c.addTrait id).fault = none) :
    Grown c [id] (c.addTrait id).after := by
  have hframed := addTrait_framed c id
  rcases addTrait_cases c id with
    ⟨hh, he⟩ | ⟨t, r, hno, hg, _, he⟩ | ⟨_, _, _, _, _, he⟩ | ⟨_, _, he⟩
  · rw [he] at hframed ⊢
    refine ⟨hframed, ?_, fun x hx => List.mem_singleton.mp hx ▸ hh⟩
    intro x
    show c.trait? x = _
    by_cases hx : x = id
    · subst hx
      obtain ⟨t, ht⟩ := Option.isSome_iff_exists.mp hh
      rw [ht, Option.some_or]
    · simp [hx]
  · rw [he] at hframed ⊢
    have hid : (Trait.fresh t).id = id := TraitCatalog.id_of_get? hg
    have hview : ∀ x, (Change.done { c.withRegistry r with
          traits := insertTrait (.fresh t) c.traits }).after.trait? x =
        if id = x then some (.fresh t) else c.trait? x := by
      intro x
      rw [← hid]
      exact find?_insertTrait (.fresh t) c.traits x
    refine ⟨hframed, ?_, ?_⟩
    · intro x
      rw [hview]
      by_cases hx : id = x
      · subst hx
        rw [if_pos rfl, trait?_eq_none_of_has hno, hg]
        simp
      · rw [if_neg hx]
        simp [Ne.symm hx]
    · intro x hx
      obtain rfl := List.mem_singleton.mp hx
      rw [has, hview, if_pos rfl]
      rfl
  · rw [he] at h; cases h
  · rw [he] at h; cases h

theorem each_addTrait_ok (h : (Change.each addTrait ids c).fault = none) :
    Grown c ids (Change.each addTrait ids c).after := by
  induction ids generalizing c with
  | nil => exact .refl c
  | cons id r ih =>
    obtain ⟨hid, hr, he⟩ := Change.each_cons_ok h
    rw [he]
    exact (addTrait_ok hid).cons (ih hr)

theorem Sound.addTrait_fault (h : c.Sound) {id : Int} {f : Fault}
    (hf : (c.addTrait id).fault = some f) : (c.addTrait id).after = c ∧ c.has id = false := by
  rcases h.addTrait_cases id with ⟨_, he⟩ | ⟨_, _, _, _, _, he⟩ | ⟨_, hno, _, he⟩
  · rw [he] at hf; cases hf
  · rw [he] at hf; cases hf
  · rw [he]; exact ⟨rfl, hno⟩

/-- Where adding traits fails, those before the failing one have been added. -/
theorem Sound.each_addTrait_fault (h : c.Sound) {f : Fault}
    (hf : (Change.each Character.addTrait ids c).fault = some f) :
    ∃ pre x post, ids = pre ++ x :: post ∧
      Grown c pre (Change.each Character.addTrait ids c).after ∧
      (Change.each Character.addTrait ids c).after.has x = false := by
  obtain ⟨pre, x, post, rfl, hpre, hx, he⟩ := Change.each_fault hf
  obtain ⟨hsame, hno⟩ := (h.each_addTrait pre).addTrait_fault hx
  rw [hsame] at he
  exact ⟨pre, x, post, rfl, by rw [he]; exact each_addTrait_ok hpre, by rw [he]; exact hno⟩

/-! ## Templates -/

/-- All that adding a template can do. -/
theorem addTemplate_cases (c : Character) (key : TemplateKey) :
    (c.engine.templates.get? key = none ∧
      c.addTemplate key = .failed c (.value (.unknownTemplate (Vocabulary.label key)))) ∨
    (c.engine.templates.contains key = true ∧
      (key ∈ c.templates ∨ (key = .mortal ∧ c.templates ≠ [])) ∧ c.addTemplate key = .done c) ∨
    (∃ t, c.engine.templates.get? key = some t ∧ key ∉ c.templates ∧
      (key = .mortal → c.templates = []) ∧ c.addTemplate key =
        (Change.each addTrait t.traitIds
          { c with templates := insertKey key c.templates }).andThen
            fun c => .done c.supersedeMortal) := by
  unfold addTemplate
  cases hg : c.engine.templates.get? key with
  | none => exact .inl ⟨rfl, rfl⟩
  | some t =>
    dsimp only
    split
    · rename_i hs
      refine .inr (.inl ⟨TemplateCatalog.contains_of_get? hg, ?_, rfl⟩)
      simpa using hs
    · rename_i hs
      obtain ⟨hm, hempty⟩ : key ∉ c.templates ∧ (key = .mortal → c.templates = []) := by
        simpa using hs
      exact .inr (.inr ⟨t, rfl, hm, hempty, rfl⟩)

/-- A template that was added had no need to be, or has brought its traits and superseded Mortal. -/
theorem Sound.addTemplate_ok (h : c.Sound) {key : TemplateKey}
    (hok : (c.addTemplate key).fault = none) :
    ((key ∈ c.templates ∨ (key = .mortal ∧ c.templates ≠ [])) ∧ (c.addTemplate key).after = c) ∨
    ∃ t q, c.engine.templates.get? key = some t ∧ key ∉ c.templates ∧
      (key = .mortal → c.templates = []) ∧ Sound q ∧
      Grown { c with templates := Character.insertKey key c.templates } t.traitIds q ∧
      (c.addTemplate key).after = q.supersedeMortal := by
  rcases addTemplate_cases c key with ⟨_, he⟩ | ⟨_, hs, he⟩ | ⟨t, hg, hno, hempty, he⟩
  · rw [he] at hok; cases hok
  · exact .inl ⟨hs, by rw [he]; rfl⟩
  · rw [he, Change.andThen_done_fault] at hok
    rw [he, Change.andThen_of_none hok]
    have hq := (h.insertKey (TemplateCatalog.contains_of_get? hg)).each_addTrait t.traitIds
    exact .inr ⟨t, _, hg, hno, hempty, hq, each_addTrait_ok hok, rfl⟩

/-- A character without one of its keys, and without the traits that only this key has kept. -/
def without (c : Character) (key : TemplateKey) : Character :=
  let keys := c.templates.filter (· != key)
  { c with templates := keys }.removeTraits
    (c.traitIds.filter fun id => !(c.granted (.mortal :: keys)).contains id)

theorem without_templates (c : Character) (key : TemplateKey) :
    (c.without key).templates = c.templates.filter (· != key) := (removeTraits_framed _ _).templates

theorem Sound.without (h : c.Sound) (key : TemplateKey) : (c.without key).Sound :=
  (h.filterKeys (· != key)).removeTraits _

/-- All that removing a template can do. -/
theorem removeTemplate_cases (c : Character) (key : TemplateKey) :
    ((key = .mortal ∨ key ∉ c.templates) ∧ c.removeTemplate key = .done c) ∨
    (key ≠ .mortal ∧ key ∈ c.templates ∧ c.templates.filter (· != key) = [] ∧
      c.engine.templates.contains .mortal = true ∧
      c.removeTemplate key = (c.without key).addTemplate .mortal) ∨
    (key ≠ .mortal ∧ key ∈ c.templates ∧
      (c.templates.filter (· != key) ≠ [] ∨ c.engine.templates.contains .mortal = false) ∧
      c.removeTemplate key = .done (c.without key)) := by
  unfold removeTemplate
  split
  · rename_i hs
    exact .inl ⟨by simpa using hs, rfl⟩
  · rename_i hs
    obtain ⟨hk, hm⟩ : key ≠ .mortal ∧ key ∈ c.templates := by simpa using hs
    dsimp only
    split
    · rename_i he
      rw [Bool.and_eq_true, List.isEmpty_iff] at he
      exact .inr (.inl ⟨hk, hm, he.1, he.2, rfl⟩)
    · rename_i he
      rw [Bool.and_eq_true, List.isEmpty_iff, not_and_or, Bool.not_eq_true] at he
      exact .inr (.inr ⟨hk, hm, he, rfl⟩)

end

end CharacterSheet.Character
