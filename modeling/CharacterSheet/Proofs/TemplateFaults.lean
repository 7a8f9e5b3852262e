import CharacterSheet.Proofs.Growth

/-! What is left of a template change that failed. A template that the engine does not know leaves
nothing behind. Any other failure comes from one of the traits that are being granted: the key and
the traits before that one stay, Mortal is not yet superseded, and adding the key once more passes
for done. Removing a template fails only where the last one goes and Mortal can not come back. -/

namespace CharacterSheet.Character

/-- A key has been taken on with some of its traits, one of them being missing. -/
structure HalfApplied (c : Character) (key : TemplateKey) (d : Character) : Prop where
  absent : key ∉ c.templates
  templates : d.templates = insertKey key c.templates
  traits : ∃ t pre x post, c.engine.templates.get? key = some t ∧ t.traitIds = pre ++ x :: post ∧
    d.has x = false ∧ (∀ y ∈ pre, d.has y = true) ∧ ∀ y, d.trait? y =
      (c.trait? y).or (if y ∈ pre then (c.engine.traits.get? y).map .fresh else none)
  passed : d.addTemplate key = .done d

section

variable {c : Character} {key : TemplateKey} {f : Fault}

theorem HalfApplied.ne {d : Character} (h : HalfApplied c key d) : d ≠ c := by
  rintro rfl
  apply h.absent
  rw [h.templates]
  exact mem_insertKey.mpr (.inl rfl)

theorem Sound.addTemplate_fault (h : c.Sound) (hf : (c.addTemplate key).fault = some f) :
    (c.engine.templates.contains key = false ∧ (c.addTemplate key).after = c) ∨
    (c.engine.templates.contains key = true ∧ HalfApplied c key (c.addTemplate key).after) := by
  rcases addTemplate_cases c key with ⟨hg, he⟩ | ⟨_, _, he⟩ | ⟨t, hg, hm, _, he⟩
  · exact .inl ⟨by rw [TemplateCatalog.contains, hg]; rfl, by rw [he]; rfl⟩
  · rw [he] at hf; cases hf
  · have hk := TemplateCatalog.contains_of_get? hg
    rw [he] at hf ⊢
    cases hx : (Change.each Character.addTrait t.traitIds
        { c with templates := Character.insertKey key c.templates }).fault with
    | none => rw [Change.andThen_of_none hx] at hf; cases hf
    | some x =>
      rw [Change.andThen_of_fault hx]
      obtain ⟨pre, x, post, hids, hgrown, hno⟩ := (h.insertKey hk).each_addTrait_fault hx
      have hmem := mem_insertKey.mpr (.inl rfl : key = key ∨ key ∈ c.templates)
      refine .inr ⟨hk, hm, hgrown.framed.templates, ?_, ?_⟩
      · exact ⟨t, pre, x, post, hg, hids, hno, hgrown.present, hgrown.traits⟩
      · -- the key is among the templates now, so nothing more is done about it
        rw [Character.addTemplate, hgrown.framed.engine, hgrown.framed.templates]
        dsimp only
        rw [hg]
        dsimp only
        rw [if_pos (by simp [hmem])]

theorem Sound.removeTemplate_fault (h : c.Sound) (hf : (c.removeTemplate key).fault = some f) :
    c.templates = [key] ∧ key ≠ .mortal ∧
      HalfApplied (c.without key) .mortal (c.removeTemplate key).after := by
  rcases removeTemplate_cases c key with ⟨_, he⟩ | ⟨hk, hm, hlast, hmortal, he⟩ | ⟨_, _, _, he⟩
  · rw [he] at hf; cases hf
  · rw [he] at hf ⊢
    rcases (h.without key).addTemplate_fault hf with ⟨hno, _⟩ | ⟨_, hhalf⟩
    · have hengine : (c.without key).engine = c.engine := (removeTraits_framed _ _).engine
      rw [hengine, hmortal] at hno
      cases hno
    · exact ⟨keys_eq_singleton h.keys hm hlast, hk, hhalf⟩
  · rw [he] at hf; cases hf

/-- A failed template change is undone exactly where it was about a template that the engine does not
know. What is left otherwise is a key that is only half applied. -/
theorem failed_template_change (h : Reachable c) (key : TemplateKey) :
    (∀ f, (c.addTemplate key).fault = some f →
      ((c.addTemplate key).after = c ↔ c.engine.templates.contains key = false) ∧
      (c.engine.templates.contains key = true → HalfApplied c key (c.addTemplate key).after)) ∧
    ∀ f, (c.removeTemplate key).fault = some f →
      (c.removeTemplate key).after ≠ c ∧ c.templates = [key] ∧
      HalfApplied (c.without key) .mortal (c.removeTemplate key).after := by
  refine ⟨?_, ?_⟩
  · intro f hf
    rcases h.sound.addTemplate_fault hf with ⟨hno, hsame⟩ | ⟨hk, hhalf⟩
    · exact ⟨iff_of_true hsame hno, fun hk => absurd (hk.symm.trans hno) (by decide)⟩
    · exact ⟨iff_of_false hhalf.ne (by simp [hk]), fun _ => hhalf⟩
  · intro f hf
    obtain ⟨hkeys, hk, hhalf⟩ := h.sound.removeTemplate_fault hf
    refine ⟨?_, hkeys, hhalf⟩
    intro he
    have hmem : TemplateKey.mortal ∈ (c.removeTemplate key).after.templates := by
      rw [hhalf.templates]
      exact mem_insertKey.mpr (.inl rfl)
    rw [he, hkeys, List.mem_singleton] at hmem
    exact hk hmem.symm

/-- The new template stays with two of its three traits. -/
theorem failed_addTemplate_not_undone : ∃ c ws,
    create .clashing ⟨0, [], [], .empty⟩ = .ok (c, ws) ∧ Reachable c ∧
    c.templates = [.mortal] ∧ c.traitIds = [1] ∧
    (c.addTemplate .kindred).fault = some (.rule (.sharedVariable "X" 1 "Delta")) ∧
    (c.addTemplate .kindred).after.templates = [.mortal, .kindred] ∧
    (c.addTemplate .kindred).after.traitIds = [1, 2, 3] ∧ (c.addTemplate .kindred).after ≠ c := by
  have hnew := Reachable.created (b := ⟨0, [], [], .empty⟩) Engine.build_clashing rfl
  refine ⟨_, _, rfl, hnew, rfl, rfl, rfl, rfl, rfl, ?_⟩
  intro h
  have hkeys : [TemplateKey.mortal, .kindred] = [.mortal] := congrArg Character.templates h
  cases hkeys

theorem failed_template_change_clashing :
    (∃ c ws, create .clashing ⟨0, [], [], .empty⟩ = .ok (c, ws) ∧
      HalfApplied c .kindred (c.addTemplate .kindred).after) ∧
    ∃ c ws, create .mortalClash ⟨0, [.kindred], [], .empty⟩ = .ok (c, ws) ∧
      HalfApplied (c.without .kindred) .mortal (c.removeTemplate .kindred).after := by
  have hmortal := Reachable.created (b := ⟨0, [], [], .empty⟩) Engine.build_clashing rfl
  have hkindred := Reachable.created (b := ⟨0, [.kindred], [], .empty⟩) Engine.build_mortalClash rfl
  refine ⟨⟨_, _, rfl, ?_⟩, _, _, rfl, ?_⟩
  · exact ((failed_template_change hmortal .kindred).1 _ rfl).2 rfl
  · exact ((failed_template_change hkindred .kindred).2 _ rfl).2.2

end

end CharacterSheet.Character
