import CharacterSheet.Proofs.Alike
import CharacterSheet.Proofs.Membership

/-! Whether somebody who was a mortal first can be told from somebody who never was. A character with
nothing but what its templates bring is settled by their keys, however they came, and so is whether it
can take on another one. Superseding Mortal leaves such a character, so from the first template on both
go the same way. Only that first template is taken on while the traits of Mortal are still there, and
there a name may be wanted twice that is wanted once in the end. -/

namespace CharacterSheet

/-- A trait that a template brings and Mortal does not takes a name that a trait takes which Mortal
brings and the template does not. -/
def Engine.ClashesWithMortal (e : Engine) (key : TemplateKey) : Prop :=
  ∃ x y name, e.templates.Grants key x ∧ ¬ e.templates.Grants .mortal x ∧
    e.templates.Grants .mortal y ∧ ¬ e.templates.Grants key y ∧
    e.traits.Claims x name ∧ e.traits.Claims y name

namespace Character

/-- A character with the fresh traits that its templates grant, and no others. -/
structure Plain (c : Character) : Prop where
  sound : c.Sound
  alone : c.MortalAlone
  fresh : ∀ t ∈ c.traits, t = .fresh t.definition
  granted : ∀ x, x ∈ c.traitIds ↔ x ∈ c.granted c.templates

/-- Two plain characters with the same templates. -/
structure Twins (c d : Character) : Prop where
  left : Plain c
  right : Plain d
  engine : d.engine = c.engine
  templates : d.templates = c.templates

section

variable {c d : Character} {key : TemplateKey} {keys : List TemplateKey}

/-! ## What templates alone make of a character -/

theorem Plain.empty {e : Engine} (he : e.traits.Coherent) (id : Int) : Plain (empty e id) where
  sound := .empty he id
  alone := fun hm => absurd hm List.not_mem_nil
  fresh := fun _ hm => absurd hm List.not_mem_nil
  granted := fun _ => Iff.rfl

theorem supersedeMortal_traits_subset (c : Character) :
    ∀ t ∈ c.supersedeMortal.traits, t ∈ c.traits := by
  intro t ht
  unfold supersedeMortal at ht
  split at ht
  · exact (mem_removeTraits.mp ht).1
  · exact ht

/-- Superseding Mortal leaves what the other templates grant. -/
theorem supersedeMortal_granted (h : ∀ x, x ∈ c.traitIds ↔ x ∈ c.granted c.templates) (x : Int) :
    x ∈ c.supersedeMortal.traitIds ↔ x ∈ c.supersedeMortal.granted c.supersedeMortal.templates := by
  by_cases hs : .mortal ∈ c.templates ∧ c.templates ≠ [.mortal]
  · have hleft : c.supersedeMortal.granted c.supersedeMortal.templates =
        c.granted (c.templates.filter (· != .mortal)) := by
      rw [supersedeMortal_templates, if_pos hs, granted, granted, supersedeMortal_engine]
    rw [mem_traitIds_supersedeMortal hs.1 hs.2, h, hleft]
    constructor
    · rintro ⟨hx, hkept⟩
      obtain ⟨k, hk, hg⟩ := mem_granted.mp hx
      by_cases hm : k = .mortal
      · subst hm
        exact hkept (mem_granted.mpr ⟨_, List.mem_singleton.mpr rfl, hg⟩)
      · exact mem_granted.mpr ⟨k, List.mem_filter.mpr ⟨hk, bne_iff_ne.mpr hm⟩, hg⟩
    · exact fun hx => ⟨granted_mono (fun _ hk => List.mem_of_mem_filter hk) hx, fun _ => hx⟩
  · rw [Character.supersedeMortal, if_neg (by simpa using hs)]
    exact h x

theorem Plain.addTemplate (h : Plain c) (hok : (c.addTemplate key).fault = none) :
    Plain (c.addTemplate key).after := by
  have hsound := h.sound.addTemplate key
  have halone := addTemplate_alone h.alone hok
  rcases h.sound.addTemplate_ok hok with ⟨_, he⟩ | ⟨t, q, hg, _, _, hq, hgrown, he⟩
  · rw [he]; exact h
  · rw [he] at hsound halone ⊢
    refine ⟨hsound, halone, ?_, supersedeMortal_granted ?_⟩
    · intro u hu
      exact hgrown.fresh hq.ascending h.fresh u (supersedeMortal_traits_subset q u hu)
    · intro x
      rw [hgrown.mem_traitIds, Character.granted, hgrown.framed.engine, hgrown.framed.templates]
      exact (or_congr_left (h.granted x)).trans (mem_granted_insertKey hg).symm

/-- The template has joined the others, and Mortal is not among them. -/
theorem Plain.mem_templates (h : Plain c) (hk : key ≠ .mortal)
    (hok : (c.addTemplate key).fault = none) (k : TemplateKey) :
    k ∈ (c.addTemplate key).after.templates ↔ k ≠ .mortal ∧ (k = key ∨ k ∈ c.templates) := by
  rcases h.sound.addTemplate_ok hok with ⟨hs, he⟩ | ⟨t, q, _, _, _, _, hgrown, he⟩
  · have hm : key ∈ c.templates := hs.resolve_right fun hs => hk hs.1
    rw [he]
    constructor
    · intro hkm
      refine ⟨?_, .inr hkm⟩
      rintro rfl
      rw [h.alone hkm, List.mem_singleton] at hm
      exact hk hm
    · rintro ⟨_, rfl | hkm⟩
      · exact hm
      · exact hkm
  · have hq : q.templates = Character.insertKey key c.templates := hgrown.framed.templates
    rw [he, supersedeMortal_templates, hq]
    split
    · rw [List.mem_filter, mem_insertKey, bne_iff_ne, and_comm]
    · rename_i hs
      rw [mem_insertKey, iff_and_self]
      rintro hkm rfl
      -- Mortal would stand beside the key and be superseded.
      refine hs ⟨mem_insertKey.mpr hkm, fun hone => hk ?_⟩
      have hm : key ∈ Character.insertKey key c.templates := mem_insertKey.mpr (.inl rfl)
      rwa [hone, List.mem_singleton] at hm

theorem Plain.trait?_eq (h : Plain c) (x : Int) :
    c.trait? x = if x ∈ c.traitIds then (c.engine.traits.get? x).map .fresh else none := by
  split
  · rename_i hx
    obtain ⟨t, ht, rfl⟩ := List.mem_map.mp hx
    rw [trait?_of_mem h.sound.ascending ht, h.sound.defined t ht]
    exact congrArg some (h.fresh t ht)
  · rename_i hx
    apply trait?_eq_none_of_has
    rwa [← Bool.not_eq_true, has_iff_mem]

/-! ## Two with the same templates -/

theorem Twins.of_mem (hc : Plain c) (hd : Plain d) (he : d.engine = c.engine)
    (hk : ∀ k, k ∈ d.templates ↔ k ∈ c.templates) : Twins c d :=
  ⟨hc, hd, he, keys_ext hd.sound.keys hc.sound.keys hk⟩

theorem Twins.traitIds (h : Twins c d) : d.traitIds = c.traitIds := by
  apply h.right.sound.ascending.ext h.left.sound.ascending
  intro x
  rw [h.right.granted, h.left.granted, Character.granted, Character.granted, h.engine, h.templates]

theorem Twins.alike (h : Twins c d) : Alike c d := by
  have htraits : d.traits = c.traits := by
    apply traits_ext h.right.sound.ascending h.left.sound.ascending
    intro x
    rw [h.right.trait?_eq, h.left.trait?_eq, h.traitIds, h.engine]
  obtain ⟨hbindings, hgroups⟩ :=
    h.left.sound.registrations_ext h.right.sound h.engine h.traitIds
  exact ⟨h.engine, htraits, hbindings, hgroups⟩

theorem Twins.addTemplate (h : Twins c d) (hk : key ≠ .mortal)
    (hok : (c.addTemplate key).fault = none) :
    (d.addTemplate key).fault = none ∧ Twins (c.addTemplate key).after (d.addTemplate key).after := by
  have hd : (d.addTemplate key).fault = none := by
    rw [h.right.sound.addTemplate_ok_iff, h.engine, h.templates, h.traitIds]
    exact h.left.sound.addTemplate_ok_iff.mp hok
  refine ⟨hd, .of_mem (h.left.addTemplate hok) (h.right.addTemplate hd) ?_ fun k => ?_⟩
  · rw [addTemplate_engine, addTemplate_engine, h.engine]
  · rw [h.left.mem_templates hk hok, h.right.mem_templates hk hd, h.templates]

theorem Twins.each (h : Twins c d) (hno : .mortal ∉ keys)
    (hok : (Change.each Character.addTemplate keys c).fault = none) :
    (Change.each Character.addTemplate keys d).fault = none ∧
      Twins (Change.each Character.addTemplate keys c).after
        (Change.each Character.addTemplate keys d).after := by
  induction keys generalizing c d with
  | nil => exact ⟨rfl, h⟩
  | cons key r ih =>
    rw [List.mem_cons, not_or] at hno
    obtain ⟨hk, hno⟩ := hno
    obtain ⟨hfirst, hrest, he⟩ := Change.each_cons_ok hok
    obtain ⟨hd, hnext⟩ := h.addTemplate (Ne.symm hk) hfirst
    rw [he, Change.each, Change.andThen_of_none hd]
    exact ih hnext hno hrest

/-! ## Having been a mortal -/

/-- With nothing but templates to take on, a new character is what they make of it. -/
theorem create_bare {e : Engine} {id : Int} {ws : List Warning}
    (h : create e ⟨id, keys, [], .empty⟩ = .ok (c, ws)) :
    (Change.each addTemplate (Blueprint.keys ⟨id, keys, [], .empty⟩) (empty e id)).fault = none ∧
    (Change.each addTemplate (Blueprint.keys ⟨id, keys, [], .empty⟩) (empty e id)).after = c := by
  obtain ⟨hbase, hvalues⟩ := create_ok h
  obtain ⟨hkeys, _⟩ := base_ok hbase
  rw [base, Change.andThen_of_none hkeys] at hvalues
  exact ⟨hkeys, Except.ok.inj hvalues⟩

/-- A mortal can take on a template that others can have exactly where no name gets in the way. -/
theorem mortal_addTemplate_ok_iff {e : Engine} {id : Int} {m : Character} (hm : Plain m)
    (he : m.engine = e) (hkeys : m.templates = [.mortal]) (hk : key ≠ .mortal)
    (hempty : (Character.empty e id).Sound)
    (hdirect : ((Character.empty e id).addTemplate key).fault = none) :
    (m.addTemplate key).fault = none ↔ ¬ e.ClashesWithMortal key := by
  subst he
  obtain ⟨t, hg, ht⟩ := hempty.addTemplate_ok_iff.mp hdirect
  replace hg : m.engine.templates.get? key = some t := hg
  have hown : m.engine.traits.Compatible t.traitIds := by
    rcases ht with hmem | ⟨hmortal, _⟩ | hall
    · cases hmem
    · exact absurd hmortal hk
    · exact (TraitCatalog.compatible_append.mp hall).1
  have hgrants : ∀ x, m.engine.templates.Grants key x ↔ x ∈ t.traitIds :=
    fun x => TemplateCatalog.grants_iff hg
  have hmortal : ∀ x, m.engine.templates.Grants .mortal x ↔ x ∈ m.traitIds := by
    intro x
    rw [hm.granted, hkeys, mem_granted]
    simp only [List.mem_singleton, exists_eq_left]
    rfl
  have hall : (m.addTemplate key).fault = none ↔
      m.engine.traits.Compatible (t.traitIds ++ m.traitIds) := by
    rw [hm.sound.addTemplate_ok_iff, hg, hkeys]
    simp [hk]
  rw [hall, TraitCatalog.compatible_append]
  constructor
  · rintro ⟨_, _, hcross⟩ ⟨x, y, name, hx, hxno, hy, _, hcx, hcy⟩
    obtain rfl := hcross x ((hgrants x).mp hx) y ((hmortal y).mp hy) name hcx hcy
    exact hxno hy
  · intro hno
    refine ⟨hown, hm.sound.compatible, ?_⟩
    intro x hx y hy name hcx hcy
    by_cases hxm : x ∈ m.traitIds
    · exact hm.sound.compatible.unshared x hxm y hy name hcx hcy
    by_cases hyt : y ∈ t.traitIds
    · exact hown.unshared x hx y hyt name hcx hcy
    exact absurd ⟨x, y, name, (hgrants x).mpr hx, (hmortal x).not.mpr hxm, (hmortal y).mpr hy,
      (hgrants y).not.mpr hyt, hcx, hcy⟩ hno

theorem create_mortal {e : Engine} (he : e.traits.Coherent) {id : Int} {m : Character}
    {ws : List Warning} (h : create e ⟨id, [], [], .empty⟩ = .ok (m, ws)) :
    Plain m ∧ m.engine = e ∧ m.templates = [.mortal] := by
  obtain ⟨hok, hafter⟩ : (Change.each addTemplate [.mortal] (empty e id)).fault = none ∧
      (Change.each addTemplate [.mortal] (empty e id)).after = m := create_bare h
  obtain ⟨hfirst, _, hone⟩ := Change.each_cons_ok hok
  rw [hone] at hafter
  obtain rfl : ((empty e id).addTemplate .mortal).after = m := hafter
  obtain ⟨t, _, hgrown⟩ := (Sound.empty he id).becomeMortal rfl hfirst
  exact ⟨(Plain.empty he id).addTemplate hfirst, hgrown.framed.engine, hgrown.framed.templates⟩

/-- Taking on templates as a mortal ends as having them from the start does, unless a name gets in the
way of the first one. -/
theorem superseding_mortal_iff {r : Ruleset} {e : Engine} {id : Int} {m d : Character}
    {ws ws' : List Warning} {rest : List TemplateKey} (hb : Engine.build r = .ok e)
    (hmortal : create e ⟨id, [], [], .empty⟩ = .ok (m, ws))
    (hdirect : create e ⟨id, key :: rest, [], .empty⟩ = .ok (d, ws'))
    (hno : .mortal ∉ key :: rest) :
    ((Change.each addTemplate (key :: rest) m).fault = none ↔ ¬ e.ClashesWithMortal key) ∧
    ((Change.each addTemplate (key :: rest) m).fault = none →
      (Change.each addTemplate (key :: rest) m).after.templates = d.templates ∧
      Alike d (Change.each addTemplate (key :: rest) m).after) := by
  have hempty := Plain.empty (Engine.coherent hb) id
  obtain ⟨hm, hengine, hkeys⟩ := create_mortal (Engine.coherent hb) hmortal
  obtain ⟨hdok, rfl⟩ := create_bare hdirect
  obtain ⟨hfirst, hdrest, hd⟩ := Change.each_cons_ok hdok
  have hk : key ≠ .mortal := fun he => hno (he ▸ List.mem_cons_self)
  -- The first template decides: it is the only one that Mortal is there for.
  have hboth : (m.addTemplate key).fault = none →
      (Change.each addTemplate (key :: rest) m).fault = none ∧
      Twins (Change.each addTemplate (key :: rest) (empty e id)).after
        (Change.each addTemplate (key :: rest) m).after := by
    intro hok
    have htwins : Twins ((empty e id).addTemplate key).after (m.addTemplate key).after := by
      refine .of_mem (hempty.addTemplate hfirst) (hm.addTemplate hok) ?_ fun k => ?_
      · rw [addTemplate_engine, addTemplate_engine, hengine]
        rfl
      · rw [hm.mem_templates hk hok, hempty.mem_templates hk hfirst, hkeys, List.mem_singleton]
        exact and_congr_right fun hkm => or_congr_right (iff_of_false hkm List.not_mem_nil)
    rw [hd, Change.each, Change.andThen_of_none hok]
    exact htwins.each (fun hr => hno (List.mem_cons_of_mem _ hr)) hdrest
  rw [← mortal_addTemplate_ok_iff hm hengine hkeys hk hempty.sound hfirst]
  refine ⟨⟨fun hok => (Change.each_cons_ok hok).1, fun hok => (hboth hok).1⟩, ?_⟩
  intro hok
  have h := (hboth (Change.each_cons_ok hok).1).2
  exact ⟨h.templates, h.alike⟩

/-- Delta, which only Kindred brings, finds its name taken by Alpha, which is about to go. -/
theorem superseding_mortal_fails : ∃ m d ws ws',
    create .clashing ⟨0, [], [], .empty⟩ = .ok (m, ws) ∧
    create .clashing ⟨0, [.kindred], [], .empty⟩ = .ok (d, ws') ∧
    d.templates = [.kindred] ∧ d.traitIds = [2, 3, 4] ∧
    (m.addTemplate .kindred).fault = some (.rule (.sharedVariable "X" 1 "Delta")) ∧
    (m.addTemplate .kindred).after.templates = [.mortal, .kindred] ∧
    (m.addTemplate .kindred).after.traitIds = [1, 2, 3] :=
  ⟨_, _, _, _, rfl, rfl, rfl, rfl, rfl, rfl, rfl⟩

/-- Where templates share a trait and take different names, and where they take the same name. -/
theorem superseding_mortal_overlapping :
    (∃ m d ws ws', create .overlapping ⟨0, [], [], .empty⟩ = .ok (m, ws) ∧
      create .overlapping ⟨0, [.kindred, .fae], [], .empty⟩ = .ok (d, ws') ∧
      ¬ Engine.overlapping.ClashesWithMortal .kindred ∧
      (Change.each addTemplate [.kindred, .fae] m).after.templates = [.kindred, .fae] ∧
      (Change.each addTemplate [.kindred, .fae] m).after.traitIds = [2, 3, 4, 5] ∧
      Alike d (Change.each addTemplate [.kindred, .fae] m).after) ∧
    Engine.clashing.ClashesWithMortal .kindred := by
  refine ⟨⟨_, _, _, _, rfl, rfl, ?_⟩, ?_⟩
  · obtain ⟨hok, hsame⟩ := superseding_mortal_iff Engine.build_overlapping
      (show create .overlapping ⟨0, [], [], .empty⟩ = .ok _ from rfl)
      (show create .overlapping ⟨0, [.kindred, .fae], [], .empty⟩ = .ok _ from rfl) (by decide)
    exact ⟨hok.mp rfl, rfl, rfl, (hsame rfl).2⟩
  · by_contra hno
    have hok := (superseding_mortal_iff Engine.build_clashing
      (show create .clashing ⟨0, [], [], .empty⟩ = .ok _ from rfl)
      (show create .clashing ⟨0, [.kindred], [], .empty⟩ = .ok _ from rfl) (by decide)).1.mpr hno
    cases hok

end

end Character

end CharacterSheet
