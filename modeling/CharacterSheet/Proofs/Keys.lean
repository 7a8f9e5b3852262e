import CharacterSheet.Proofs.Growth

/-! Which template keys a character can have. While nothing fails, a mortal has no other template:
every template that is added ends with Mortal being superseded. And where there is a Mortal template,
a character always has some template, whatever fails: keys are only taken away when others are left,
or Mortal comes back. -/

namespace CharacterSheet.Character

section

variable {c : Character} {key : TemplateKey}

/-! ## The engine stays, and values change no IDs -/

theorem assign_framed {t : Trait} {v : Data} {d : Character} {taken : Bool}
    (h : c.assign t v = .ok (d, taken)) : Framed c d := by
  rcases assign_ok h with ⟨_, _, rfl⟩ | rfl
  · exact ⟨rfl, rfl, rfl⟩
  · exact .refl _

theorem offer_framed (c : Character) (id : Int) (v : Data) : Framed c (c.offer id v).after := by
  unfold offer
  split
  · exact .refl c
  · split
    · exact assign_framed ‹_›
    · exact .refl c

theorem assignListed_framed {l : List (Int × Data)} {d : Character}
    (h : c.assignListed l = .ok d) : Framed c d := by
  induction l generalizing c with
  | nil => cases h; exact .refl _
  | cons p r ih =>
    obtain ⟨id, v⟩ := p
    unfold assignListed at h
    split at h
    · obtain ⟨⟨q, taken⟩, hq, h⟩ := Result.bind_ok h
      exact (assign_framed hq).trans (ih h)
    · exact ih h

theorem assign_ids {t : Trait} {v : Data} {d : Character} {taken : Bool}
    (h : c.assign t v = .ok (d, taken)) : d.traitIds = c.traitIds := by
  rcases assign_ok h with ⟨_, _, rfl⟩ | rfl
  · exact setRaw_ids _ _
  · rfl

theorem offer_ids (c : Character) (id : Int) (v : Data) :
    (c.offer id v).after.traitIds = c.traitIds := by
  unfold offer
  split
  · rfl
  · split
    · exact assign_ids ‹_›
    · rfl

theorem assignListed_ids {l : List (Int × Data)} {d : Character} (h : c.assignListed l = .ok d) :
    d.traitIds = c.traitIds := by
  induction l generalizing c with
  | nil => cases h; rfl
  | cons p r ih =>
    obtain ⟨id, v⟩ := p
    unfold assignListed at h
    split at h
    · obtain ⟨⟨q, taken⟩, hq, h⟩ := Result.bind_ok h
      exact (ih h).trans (assign_ids hq)
    · exact ih h

theorem supersedeMortal_engine (c : Character) : c.supersedeMortal.engine = c.engine := by
  unfold supersedeMortal
  split
  · exact (removeTraits_framed _ _).engine
  · rfl

theorem addTemplate_engine (c : Character) (key : TemplateKey) :
    (c.addTemplate key).after.engine = c.engine := by
  rcases addTemplate_cases c key with ⟨_, he⟩ | ⟨_, _, he⟩ | ⟨t, _, _, _, he⟩
  · rw [he]; rfl
  · rw [he]; rfl
  · rw [he]
    apply Change.andThen_keeps (P := fun d => d.engine = c.engine)
    · exact (each_addTrait_framed _ _).engine
    · exact fun d hd => (supersedeMortal_engine d).trans hd

theorem without_engine (c : Character) (key : TemplateKey) : (c.without key).engine = c.engine :=
  (removeTraits_framed _ _).engine

theorem removeTemplate_engine (c : Character) (key : TemplateKey) :
    (c.removeTemplate key).after.engine = c.engine := by
  rcases removeTemplate_cases c key with ⟨_, he⟩ | ⟨_, _, _, _, he⟩ | ⟨_, _, _, he⟩
  · rw [he]; rfl
  · rw [he, addTemplate_engine, without_engine]
  · rw [he]; exact without_engine c key

theorem perform_engine (c : Character) : ∀ a, (c.perform a).after.engine = c.engine
  | .addTemplate key => addTemplate_engine c key
  | .removeTemplate key => removeTemplate_engine c key
  | .addTrait id => (addTrait_framed c id).engine
  | .removeTrait id => (removeTrait_framed c id).engine
  | .assign id v => (offer_framed c id v).engine
  | .ask _ => rfl

theorem each_addTemplate_engine (c : Character) (keys : List TemplateKey) :
    (Change.each addTemplate keys c).after.engine = c.engine :=
  Change.each_keeps (P := fun d => d.engine = c.engine)
    (fun d key hd => (addTemplate_engine d key).trans hd) rfl

/-! ## A mortal is nothing else -/

/-- A character with the mortal template has no other. -/
def MortalAlone (c : Character) : Prop := .mortal ∈ c.templates → c.templates = [.mortal]

theorem Framed.mortalAlone {d : Character} (h : Framed c d) (hc : c.MortalAlone) :
    d.MortalAlone := by rwa [MortalAlone, h.templates]

theorem supersedeMortal_templates (c : Character) : c.supersedeMortal.templates =
    if .mortal ∈ c.templates ∧ c.templates ≠ [.mortal] then c.templates.filter (· != .mortal)
    else c.templates := by
  unfold supersedeMortal
  by_cases h : .mortal ∈ c.templates ∧ c.templates ≠ [.mortal]
  · rw [if_pos h, if_pos (by simpa using h)]
    exact (removeTraits_framed _ _).templates
  · rw [if_neg h, if_neg (by simpa using h)]

theorem supersedeMortal_alone (c : Character) : c.supersedeMortal.MortalAlone := by
  intro hm
  rw [supersedeMortal_templates] at hm ⊢
  split at hm
  · exact absurd rfl (bne_iff_ne.mp (List.mem_filter.mp hm).2)
  · rename_i h
    rw [if_neg h]
    by_contra hne
    exact h ⟨hm, hne⟩

theorem addTemplate_alone (hc : c.MortalAlone) (h : (c.addTemplate key).fault = none) :
    (c.addTemplate key).after.MortalAlone := by
  rcases addTemplate_cases c key with ⟨_, he⟩ | ⟨_, _, he⟩ | ⟨t, _, _, _, he⟩
  · rw [he]; exact hc
  · rw [he]; exact hc
  · rw [he, Change.andThen_done_fault] at h
    rw [he, Change.andThen_of_none h]
    exact supersedeMortal_alone _

theorem without_alone (hc : c.MortalAlone) (hk : key ≠ .mortal) (hm : key ∈ c.templates) :
    (c.without key).MortalAlone := by
  intro hmortal
  rw [without_templates] at hmortal
  rw [hc (List.mem_of_mem_filter hmortal), List.mem_singleton] at hm
  exact absurd hm hk

theorem removeTemplate_alone (hc : c.MortalAlone) (h : (c.removeTemplate key).fault = none) :
    (c.removeTemplate key).after.MortalAlone := by
  rcases removeTemplate_cases c key with ⟨_, he⟩ | ⟨hk, hm, _, _, he⟩ | ⟨hk, hm, _, he⟩
  · rw [he]; exact hc
  · rw [he] at h ⊢
    exact addTemplate_alone (without_alone hc hk hm) h
  · rw [he]; exact without_alone hc hk hm

theorem perform_alone (hc : c.MortalAlone) : ∀ a, (c.perform a).fault = none →
    (c.perform a).after.MortalAlone
  | .addTemplate _, h => addTemplate_alone hc h
  | .removeTemplate _, h => removeTemplate_alone hc h
  | .addTrait id, _ => (addTrait_framed c id).mortalAlone hc
  | .removeTrait id, _ => (removeTrait_framed c id).mortalAlone hc
  | .assign id v, _ => (offer_framed c id v).mortalAlone hc
  | .ask _, _ => hc

theorem each_addTemplate_alone {keys : List TemplateKey} (hc : c.MortalAlone)
    (h : (Change.each addTemplate keys c).fault = none) :
    (Change.each addTemplate keys c).after.MortalAlone :=
  Change.each_keeps_ok (fun _ _ _ hd hok => addTemplate_alone hd hok) hc h

/-- How a base comes about without a fault: first the templates, then the added traits. -/
theorem base_ok {e : Engine} {b : Blueprint} (h : (base e b).fault = none) :
    (Change.each addTemplate (Blueprint.keys b) (empty e b.id)).fault = none ∧
    Framed (Change.each addTemplate (Blueprint.keys b) (empty e b.id)).after (base e b).after := by
  rw [base] at h ⊢
  cases hx : (Change.each addTemplate (Blueprint.keys b) (empty e b.id)).fault with
  | some f => rw [Change.andThen_of_fault hx, hx] at h; cases h
  | none => rw [Change.andThen_of_none hx]; exact ⟨rfl, each_addTrait_framed _ _⟩

theorem create_engine {e : Engine} {b : Blueprint} {ws : List Warning}
    (h : create e b = .ok (c, ws)) : c.engine = e := by
  obtain ⟨hbase, hvalues⟩ := create_ok h
  obtain ⟨_, hframed⟩ := base_ok hbase
  exact (hframed.trans (assignListed_framed hvalues)).engine.trans (each_addTemplate_engine _ _)

/-- Whatever is done to a character, its engine stays the one that was built. -/
theorem Reachable.built (h : Reachable c) : ∃ r, Engine.build r = .ok c.engine := by
  induction h with
  | created hb hc => exact ⟨_, create_engine hc ▸ hb⟩
  | acted a _ ih => rwa [perform_engine]

theorem create_alone {e : Engine} {b : Blueprint} {ws : List Warning}
    (h : create e b = .ok (c, ws)) : c.MortalAlone := by
  obtain ⟨hbase, hvalues⟩ := create_ok h
  obtain ⟨hkeys, hframed⟩ := base_ok hbase
  have hempty : (empty e b.id).MortalAlone := fun hm => absurd hm List.not_mem_nil
  exact (hframed.trans (assignListed_framed hvalues)).mortalAlone
    (each_addTemplate_alone hempty hkeys)

theorem FaultFree.alone (h : FaultFree c) : c.MortalAlone := by
  induction h with
  | created _ hc => exact create_alone hc
  | acted a _ hf ih => exact perform_alone ih a hf

/-! ## There is always a template -/

theorem insertKey_ne_nil (key : TemplateKey) (ks : List TemplateKey) : insertKey key ks ≠ [] :=
  List.ne_nil_of_mem (mem_insertKey.mpr (.inl rfl))

theorem Sound.supersedeMortal_ne_nil (h : c.Sound) (hne : c.templates ≠ []) :
    c.supersedeMortal.templates ≠ [] := by
  rw [supersedeMortal_templates]
  split
  · rename_i hm
    intro hnil
    apply hm.2
    exact keys_eq_singleton h.keys hm.1 hnil
  · exact hne

theorem Sound.addTemplate_ne_nil (h : c.Sound)
    (hne : c.templates ≠ [] ∨ c.engine.templates.contains key = true) :
    (c.addTemplate key).after.templates ≠ [] := by
  rcases addTemplate_cases c key with ⟨hg, he⟩ | ⟨_, hs, he⟩ | ⟨t, hg, _, _, he⟩
  · rw [he]
    rcases hne with hne | hk
    · exact hne
    · rw [TemplateCatalog.contains, hg] at hk
      cases hk
  · rw [he]
    rcases hs with hm | ⟨_, hne⟩
    · exact List.ne_nil_of_mem hm
    · exact hne
  · rw [he]
    have hk := TemplateCatalog.contains_of_get? hg
    refine (Change.andThen_keeps (P := fun d => d.Sound ∧ d.templates ≠ []) ?_ ?_).2
    · refine ⟨(h.insertKey hk).each_addTrait _, ?_⟩
      rw [(each_addTrait_framed _ _).templates]
      exact insertKey_ne_nil key c.templates
    · exact fun d hd => ⟨hd.1.supersedeMortal, hd.1.supersedeMortal_ne_nil hd.2⟩

theorem Sound.removeTemplate_ne_nil (h : c.Sound)
    (hmortal : c.engine.templates.contains .mortal = true) (hne : c.templates ≠ []) :
    (c.removeTemplate key).after.templates ≠ [] := by
  rcases removeTemplate_cases c key with ⟨_, he⟩ | ⟨_, _, _, _, he⟩ | ⟨_, _, hs, he⟩
  · rw [he]; exact hne
  · rw [he]
    exact (h.without key).addTemplate_ne_nil (.inr (by rw [without_engine]; exact hmortal))
  · rw [he]
    show (c.without key).templates ≠ []
    rw [without_templates]
    rcases hs with hs | hs
    · exact hs
    · rw [hmortal] at hs; cases hs

theorem Sound.perform_ne_nil (h : c.Sound)
    (hmortal : c.engine.templates.contains .mortal = true) (hne : c.templates ≠ []) :
    ∀ a, (c.perform a).after.templates ≠ []
  | .addTemplate _ => h.addTemplate_ne_nil (.inl hne)
  | .removeTemplate _ => h.removeTemplate_ne_nil hmortal hne
  | .addTrait id => by rw [Character.perform, (addTrait_framed c id).templates]; exact hne
  | .removeTrait id => by
    show (c.removeTrait id).templates ≠ []
    rw [(removeTrait_framed c id).templates]
    exact hne
  | .assign id v => by rw [Character.perform, (offer_framed c id v).templates]; exact hne
  | .ask _ => hne

theorem contains_of_addTemplate_ok (h : (c.addTemplate key).fault = none) :
    c.engine.templates.contains key = true := by
  rcases addTemplate_cases c key with ⟨_, he⟩ | ⟨hk, _, _⟩ | ⟨t, hg, _, _, _⟩
  · rw [he] at h; cases h
  · exact hk
  · exact TemplateCatalog.contains_of_get? hg

theorem create_ne_nil {e : Engine} (hcat : e.traits.Coherent) {b : Blueprint}
    {ws : List Warning} (h : create e b = .ok (c, ws)) : c.templates ≠ [] := by
  obtain ⟨hbase, hvalues⟩ := create_ok h
  obtain ⟨hkeys, hframed⟩ := base_ok hbase
  rw [(hframed.trans (assignListed_framed hvalues)).templates]
  cases hk : Blueprint.keys b with
  | nil =>
    unfold Blueprint.keys at hk
    split at hk
    · cases hk
    · rename_i hne
      rw [hk] at hne
      exact absurd rfl hne
  | cons key r =>
    rw [hk] at hkeys
    obtain ⟨hfirst, _, he⟩ := Change.each_cons_ok hkeys
    rw [he]
    have hempty := Sound.empty hcat b.id
    refine (Change.each_keeps (P := fun d => d.Sound ∧ d.templates ≠ []) ?_ ?_).2
    · exact fun d k hd => ⟨hd.1.addTemplate k, hd.1.addTemplate_ne_nil (.inl hd.2)⟩
    · exact ⟨hempty.addTemplate key,
        hempty.addTemplate_ne_nil (.inr (contains_of_addTemplate_ok hfirst))⟩

theorem Reachable.templates_ne_nil (h : Reachable c)
    (hmortal : c.engine.templates.contains .mortal = true) : c.templates ≠ [] := by
  induction h with
  | created hb hc => exact create_ne_nil (Engine.coherent hb) hc
  | acted a hr ih =>
    rw [perform_engine] at hmortal
    exact hr.sound.perform_ne_nil hmortal (ih hmortal) a

end

end CharacterSheet.Character
