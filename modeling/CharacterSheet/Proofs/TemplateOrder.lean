import CharacterSheet.Proofs.Superseding

/-! The order in which a new character takes on its templates. Without Mortal a character has what its
templates grant together, and traits are compatible or not whatever their order. So templates can be
taken on exactly where all of them are known and all that they grant is compatible: the order decides
which trait fails, and not whether one does. -/

namespace CharacterSheet

namespace Character

section

variable {c : Character} {key : TemplateKey} {keys keys' : List TemplateKey}

/-- What templates grant that the engine knows is compatible. -/
def Grantable (e : Engine) (keys : List TemplateKey) : Prop :=
  (∀ k ∈ keys, e.templates.contains k = true) ∧
    e.traits.Compatible (e.templates.granted keys)

theorem Grantable.mono {e : Engine} (h : Grantable e keys) (hsub : ∀ k ∈ keys', k ∈ keys) :
    Grantable e keys' :=
  ⟨fun k hk => h.1 k (hsub k hk), h.2.mono fun _ hx => granted_mono (c := empty e 0) hsub hx⟩

theorem Plain.grantable (h : Plain c) : Grantable c.engine c.templates :=
  ⟨h.sound.known, h.sound.compatible.mono fun x hx => (h.granted x).mpr hx⟩

/-- One more template can be taken on where it goes with those that are there. -/
theorem Plain.addTemplate_of_grantable (h : Plain c)
    (hall : Grantable c.engine (key :: c.templates)) : (c.addTemplate key).fault = none := by
  obtain ⟨t, hg⟩ := Option.isSome_iff_exists.mp (hall.1 key List.mem_cons_self)
  refine h.sound.addTemplate_ok_iff.mpr ⟨t, hg, .inr (.inr (hall.2.mono fun x hx => ?_))⟩
  apply mem_granted (c := c).mpr
  rcases List.mem_append.mp hx with hx | hx
  · exact ⟨key, List.mem_cons_self, t, hg, hx⟩
  · obtain ⟨k, hk, hgranted⟩ := mem_granted.mp ((h.granted x).mp hx)
    exact ⟨k, List.mem_cons_of_mem _ hk, hgranted⟩

/-- Templates can be taken on one after the other where they go with each other and with those that
are there. -/
theorem Plain.each_ok_iff (h : Plain c) (hm : .mortal ∉ c.templates) (hno : .mortal ∉ keys) :
    ((Change.each Character.addTemplate keys c).fault = none ↔
      Grantable c.engine (keys ++ c.templates)) ∧
    ((Change.each Character.addTemplate keys c).fault = none →
      Plain (Change.each Character.addTemplate keys c).after ∧
      ∀ k, k ∈ (Change.each Character.addTemplate keys c).after.templates ↔
        k ∈ keys ++ c.templates) := by
  induction keys generalizing c with
  | nil => exact ⟨iff_of_true rfl h.grantable, fun _ => ⟨h, fun _ => Iff.rfl⟩⟩
  | cons key r ih =>
    rw [List.mem_cons, not_or] at hno
    obtain ⟨hk, hno⟩ := hno
    have hnext : (c.addTemplate key).fault = none →
        .mortal ∉ (c.addTemplate key).after.templates ∧
        ∀ k, k ∈ r ++ (c.addTemplate key).after.templates ↔ k ∈ key :: r ++ c.templates := by
      intro hok
      have hmem := h.mem_templates (Ne.symm hk) hok
      refine ⟨fun hmortal => ((hmem _).mp hmortal).1 rfl, fun k => ?_⟩
      have hkm : k ∈ c.templates → k ≠ .mortal := fun hin he => hm (he ▸ hin)
      have hkk : k = key → k ≠ .mortal := fun he => he ▸ Ne.symm hk
      rw [List.mem_append, hmem, List.mem_append, List.mem_cons]
      tauto
    by_cases hfirst : (c.addTemplate key).fault = none
    · obtain ⟨hmortal, hkeys⟩ := hnext hfirst
      obtain ⟨hiff, hafter⟩ := ih (h.addTemplate hfirst) hmortal hno
      rw [addTemplate_engine] at hiff
      rw [Change.each, Change.andThen_of_none hfirst]
      refine ⟨hiff.trans ⟨fun hall => hall.mono fun k => (hkeys k).mpr,
        fun hall => hall.mono fun k => (hkeys k).mp⟩, fun hok => ?_⟩
      obtain ⟨hplain, htemplates⟩ := hafter hok
      exact ⟨hplain, fun k => (htemplates k).trans (hkeys k)⟩
    · have hfails : (Change.each Character.addTemplate (key :: r) c).fault ≠ none :=
        fun hok => hfirst (Change.each_cons_ok hok).1
      refine ⟨iff_of_false hfails fun hall => hfirst ?_, fun hok => absurd hok hfails⟩
      apply h.addTemplate_of_grantable
      apply hall.mono
      intro k hin
      rw [List.mem_append, List.mem_cons]
      exact (List.mem_cons.mp hin).imp_left .inl

theorem create_of_fault {e : Engine} {id : Int} {f : Fault} (hne : keys ≠ [])
    (hf : (Change.each addTemplate keys (empty e id)).fault = some f) :
    create e ⟨id, keys, [], .empty⟩ = .error f := by
  have hkeys : Blueprint.keys ⟨id, keys, [], .empty⟩ = keys := if_neg (by simpa using hne)
  rw [create_eq, base, hkeys, Change.andThen_of_fault hf, hf]

theorem create_of_none {e : Engine} {id : Int} (hne : keys ≠ [])
    (hf : (Change.each addTemplate keys (empty e id)).fault = none) :
    ∃ ws, create e ⟨id, keys, [], .empty⟩ =
      .ok ((Change.each addTemplate keys (empty e id)).after, ws) := by
  have hkeys : Blueprint.keys ⟨id, keys, [], .empty⟩ = keys := if_neg (by simpa using hne)
  have hbase : base e ⟨id, keys, [], .empty⟩ =
      .done (Change.each addTemplate keys (empty e id)).after := by
    rw [base, hkeys, Change.andThen_of_none hf]
    rfl
  exact ⟨_, create_of_base (by rw [hbase]; rfl) (by rw [hbase]; rfl)⟩

/-- A new character has no say in the order of its templates: with the same ones, however often each
is named, it fails or comes out alike. -/
theorem create_in_any_order {r : Ruleset} {e : Engine} (id : Int) (hb : Engine.build r = .ok e)
    (hsame : ∀ k, k ∈ keys ↔ k ∈ keys') (hno : .mortal ∉ keys) :
    (∃ f f', create e ⟨id, keys, [], .empty⟩ = .error f ∧
      create e ⟨id, keys', [], .empty⟩ = .error f') ∨
    ∃ c d ws ws', create e ⟨id, keys, [], .empty⟩ = .ok (c, ws) ∧
      create e ⟨id, keys', [], .empty⟩ = .ok (d, ws') ∧
      d.templates = c.templates ∧ Alike c d := by
  obtain rfl | hne := eq_or_ne keys []
  · -- Nothing is named, and both become mortals.
    obtain rfl : keys' = [] :=
      List.eq_nil_iff_forall_not_mem.mpr fun k hk => List.not_mem_nil ((hsame k).mpr hk)
    cases h : create e ⟨id, [], [], .empty⟩ with
    | error f => exact .inl ⟨f, f, rfl, rfl⟩
    | ok p => exact .inr ⟨p.1, p.1, p.2, p.2, rfl, rfl, rfl, .refl p.1⟩
  · have hne' : keys' ≠ [] := by
      obtain ⟨k, hk⟩ := List.exists_mem_of_ne_nil _ hne
      exact List.ne_nil_of_mem ((hsame k).mp hk)
    have hempty := Plain.empty (Engine.coherent hb) id
    obtain ⟨hiff, hafter⟩ := hempty.each_ok_iff List.not_mem_nil hno
    obtain ⟨hiff', hafter'⟩ :=
      hempty.each_ok_iff List.not_mem_nil fun hm => hno ((hsame .mortal).mpr hm)
    have hgrantable : Grantable e (keys ++ []) ↔ Grantable e (keys' ++ []) := by
      rw [List.append_nil, List.append_nil]
      exact ⟨fun h => h.mono fun k => (hsame k).mpr, fun h => h.mono fun k => (hsame k).mp⟩
    have hboth := hiff.trans (hgrantable.trans hiff'.symm)
    cases hf : (Change.each addTemplate keys (empty e id)).fault with
    | some f =>
      obtain ⟨f', hf'⟩ := Option.ne_none_iff_exists'.mp fun hok => by
        rw [hboth.mpr hok] at hf
        cases hf
      exact .inl ⟨f, f', create_of_fault hne hf, create_of_fault hne' hf'⟩
    | none =>
      have hf' := hboth.mp hf
      obtain ⟨ws, hc⟩ := create_of_none hne hf
      obtain ⟨ws', hd⟩ := create_of_none hne' hf'
      obtain ⟨hplain, htemplates⟩ := hafter hf
      obtain ⟨hplain', htemplates'⟩ := hafter' hf'
      have htwins : Twins (Change.each addTemplate keys (empty e id)).after
          (Change.each addTemplate keys' (empty e id)).after := by
        refine .of_mem hplain hplain' ?_ fun k => ?_
        · rw [each_addTemplate_engine, each_addTemplate_engine]
        · rw [htemplates, htemplates', List.mem_append, List.mem_append, hsame]
      exact .inr ⟨_, _, ws, ws', hc, hd, htwins.templates, htwins.alike⟩

end

end Character

/-- Two templates whose traits want the same name. -/
def Ruleset.rivals : Ruleset :=
  .small [.small 1 "Alpha" "IS_VARIABLE|X" "", .small 2 "Beta" "IS_VARIABLE|X" ""]
    [.small .kindred [1], .small .fae [2]]

def Engine.rivals : Engine where
  ruleset := .rivals
  traits :=
    ⟨TraitDefinition.finished Ruleset.rivals.traits
      [([.isVariable "X"], []), ([.isVariable "X"], [])], .empty⟩
  templates :=
    ⟨[{ TemplateDefinition.small .kindred [1] with traitIds := [1] },
      { TemplateDefinition.small .fae [2] with traitIds := [2] }]⟩
  paths := .empty

theorem Engine.build_rivals : build .rivals = .ok .rivals := rfl

namespace Character

/-- Templates that share a trait, one of them named twice; and two that get in each other's way, each
when it comes second. -/
theorem create_in_any_order_rivals :
    (∃ c d ws ws', create .overlapping ⟨0, [.kindred, .fae], [], .empty⟩ = .ok (c, ws) ∧
      create .overlapping ⟨0, [.fae, .kindred, .fae], [], .empty⟩ = .ok (d, ws') ∧
      c.traitIds = [2, 3, 4, 5] ∧ d.templates = c.templates ∧ Alike c d) ∧
    create .rivals ⟨0, [.kindred, .fae], [], .empty⟩ =
      .error (.rule (.sharedVariable "X" 1 "Beta")) ∧
    ∃ f, create .rivals ⟨0, [.fae, .kindred], [], .empty⟩ = .error f := by
  have hsame : ∀ k, k ∈ [TemplateKey.kindred, .fae] ↔ k ∈ [TemplateKey.fae, .kindred, .fae] := by
    intro k
    cases k <;> decide
  have hswap : ∀ k, k ∈ [TemplateKey.kindred, .fae] ↔ k ∈ [TemplateKey.fae, .kindred] := by
    intro k
    cases k <;> decide
  refine ⟨?_, rfl, ?_⟩
  · rcases create_in_any_order 0 Engine.build_overlapping hsame (by decide) with
      ⟨_, _, h, _⟩ | ⟨c, d, ws, ws', hc, hd, htemplates, halike⟩
    · cases h
    · refine ⟨c, d, ws, ws', hc, hd, ?_, htemplates, halike⟩
      cases hc
      rfl
  · rcases create_in_any_order 0 Engine.build_rivals hswap (by decide) with
      ⟨_, f, _, h⟩ | ⟨_, _, _, _, h, _⟩
    · exact ⟨f, h⟩
    · cases h

end Character

end CharacterSheet
