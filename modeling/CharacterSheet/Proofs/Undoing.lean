import CharacterSheet.Proofs.Growth
import CharacterSheet.Proofs.Joining

/-! Adding a trait and taking it back. Whatever a trait registers bears its own ID, and nothing else
does, so purging the ID leaves a registry as if no directive of the trait had been read. That undoes a
trait which could not register all of its names, and one that is removed again. It can not register
them where one of them is taken, where it takes one twice, or where one is a number of too many
digits. -/

namespace CharacterSheet

namespace Character

namespace Registry

/-! ## What a trait has registered is purged with it -/

theorem purge_addMember (r : Registry) (p id : Int) : (r.addMember p id).purge id = r.purge id := by
  have hgroups : ((r.addMember p id).groups.mapValues fun _ ms => ms.filter (· != id)).filter
        (fun _ ms => !ms.isEmpty) =
      (r.groups.mapValues fun _ ms => ms.filter (· != id)).filter fun _ ms => !ms.isEmpty := by
    rw [addMember, Table.mapValues_insert, TraitCatalog.filter_insertId]
    cases hg : r.groups.get? p with
    | none =>
      -- the group was made for this member, and goes with it
      exact Table.filter_insert_of_new (by rw [Table.get?_mapValues, hg]; rfl) rfl
    | some ms =>
      rw [Table.insert_eq_self (by rw [Table.get?_mapValues, hg]; rfl)]
  rw [purge, hgroups, purge]
  rfl

theorem purge_add {t : TraitDefinition} {r r' : Registry} {d : Directive}
    (h : add t r d = .ok r') : r'.purge t.id = r.purge t.id := by
  rcases add_cases h with ⟨name, _, _, hfree, rfl⟩ | ⟨p, _, _, rfl⟩ | ⟨_, _, rfl⟩
  · rw [purge, Table.filter_insert_of_new hfree (by simp)]
    rfl
  · exact purge_addMember r p t.id
  · rfl

theorem purge_addAll {t : TraitDefinition} {ds : List Directive} {r r' : Registry}
    (h : addAll t r ds = .ok r') : r'.purge t.id = r.purge t.id := by
  induction ds generalizing r with
  | nil => cases h; rfl
  | cons d ds ih =>
    obtain ⟨q, hq, h⟩ := Result.bind_ok h
    rw [ih h, purge_add hq]

/-! ## What is in a trait's way -/

theorem add_error {t : TraitDefinition} {r : Registry} {d : Directive} {f : Fault}
    (h : add t r d = .error f) :
    (∃ name, d = .isVariable name ∧ integerText? name = .error f) ∨
    ∃ name owner, d.claim? = some name ∧ r.bindings.get? name = some owner ∧
      f = (RuleFault.sharedVariable name owner t.name).fault := by
  cases hc : d.claim? with
  | none =>
    by_cases hr : Legible [d]
    · obtain ⟨q, hq⟩ := add_unclaiming (t := t) (r := r) hc hr
      rw [hq] at h
      cases h
    · simp only [Legible, List.mem_singleton, not_forall] at hr
      obtain ⟨name, rfl, hr⟩ := hr
      obtain ⟨g, hg⟩ := Result.exists_error_iff.mpr hr
      rw [add, addVariable_unreadable hg] at h
      cases h
      exact .inl ⟨name, rfl, hg⟩
  | some name =>
    cases hb : r.bindings.get? name with
    | none =>
      rw [add_claim hc hb] at h
      cases h
    | some owner =>
      cases d <;> simp only [Directive.claim?, reduceCtorEq] at hc
      split at hc
      · rename_i hn
        cases hc
        rw [add, addVariable_taken hn hb] at h
        cases h
        exact .inr ⟨name, owner, rfl, hb, rfl⟩
      · cases hc

/-- A trait fails on a name that can not be read, or on a name of its own that another one has or that
it has taken itself. -/
theorem addAll_error {t : TraitDefinition} {ds : List Directive} {r : Registry} {f : Fault}
    (h : addAll t r ds = .error f) :
    (∃ name, .isVariable name ∈ ds ∧ integerText? name = .error f) ∨
    ∃ name ∈ claimsOf ds, ∃ owner, f = (RuleFault.sharedVariable name owner t.name).fault ∧
      (r.bindings.get? name = some owner ∨ owner = t.id ∧ ¬ (claimsOf ds).Nodup) := by
  induction ds generalizing r with
  | nil => cases h
  | cons d ds ih =>
    rcases Result.bind_error_iff.mp h with hd | ⟨q, hq, h⟩
    · rcases add_error hd with ⟨name, rfl, hf⟩ | ⟨name, owner, hc, hb, hf⟩
      · exact .inl ⟨name, List.mem_cons_self, hf⟩
      · exact .inr ⟨name, List.mem_filterMap.mpr ⟨d, List.mem_cons_self, hc⟩, owner, hf, .inl hb⟩
    · rcases ih h with ⟨name, hname, hf⟩ | ⟨name, hname, owner, hf, hwhy⟩
      · exact .inl ⟨name, List.mem_cons_of_mem _ hname, hf⟩
      have hsub : (claimsOf ds).Sublist (claimsOf (d :: ds)) :=
        (List.sublist_cons_self d ds).filterMap _
      refine .inr ⟨name, hsub.subset hname, owner, hf, ?_⟩
      rcases hwhy with hb | ⟨ho, htwice⟩
      · rcases add_cases hq with ⟨taken, hc, _, _, rfl⟩ | ⟨_, _, _, rfl⟩ | ⟨_, _, rfl⟩
        · rw [Table.get?_insert] at hb
          split at hb
          · -- the name that this directive has just taken comes once more
            rename_i he
            cases hb
            have hcs : claimsOf (d :: ds) = taken :: claimsOf ds := List.filterMap_cons_some hc
            refine .inr ⟨rfl, fun honce => ?_⟩
            rw [hcs] at honce
            exact (List.nodup_cons.mp honce).1 (he ▸ hname)
          · exact .inl hb
        · exact .inl hb
        · exact .inl hb
      · exact .inr ⟨ho, fun honce => htwice (honce.sublist hsub)⟩

end Registry

/-- One of the names that a trait takes is taken, or it takes one of them twice. -/
def Conflicts (c : Character) (d : TraitDefinition) : Prop :=
  (∃ name ∈ d.claims, c.bindings.contains name = true) ∨ ¬ d.claims.Nodup

section

variable {c : Character} {id : Int} {d : TraitDefinition}

/-- The names of a trait that can not be read are numbers of too many digits. -/
theorem legible_iff (hc : c.engine.traits.Coherent) (hd : d ∈ c.engine.traits.definitions) :
    Legible d.directives ↔ ∀ name, .isVariable name ∈ d.directives → ¬ Text.Vast name := by
  refine forall₂_congr fun name hn => ⟨fun hr hv => ?_, ?_⟩
  · exact Text.not_readable_iff.mpr (.inr hv) hr
  · exact Text.readable_of_not_vast (hc.not_separated hd hn)

theorem Sound.addTrait_ok_iff (h : c.Sound) (hno : c.has id = false)
    (hd : c.engine.traits.get? id = some d) :
    (c.addTrait id).fault = none ↔
      ¬ c.Conflicts d ∧ ∀ name, .isVariable name ∈ d.directives → ¬ Text.Vast name := by
  have hfree : (∀ name ∈ d.claims, c.bindings.get? name = none) ↔
      ¬ ∃ name ∈ d.claims, c.bindings.contains name = true := by
    simp [Table.contains]
  rw [Conflicts, not_or, not_not, ← hfree,
    ← legible_iff h.catalog (TraitCatalog.mem_of_get? hd)]
  rcases Character.addTrait_cases c id with
    ⟨hh, _⟩ | ⟨u, r, _, hu, ha, he⟩ | ⟨u, f, _, hu, ha, he⟩ | ⟨_, hu, _⟩
  · rw [hno] at hh
    cases hh
  · obtain rfl := Option.some.inj (hd.symm.trans hu)
    rw [he]
    have hadded := Registry.addAll_added ha
    exact iff_of_true rfl ⟨⟨hadded.free, hadded.once⟩, hadded.legible⟩
  · obtain rfl := Option.some.inj (hd.symm.trans hu)
    rw [he]
    refine iff_of_false (Option.some_ne_none f) ?_
    rintro ⟨⟨hfree, honce⟩, hlegible⟩
    obtain ⟨r, hr⟩ := Registry.addAll_free (t := d) (r := c.registry) hlegible honce hfree
    rw [ha] at hr
    cases hr
  · rw [hd] at hu
    cases hu

theorem Sound.addTrait_known_fault (h : c.Sound) (hd : c.engine.traits.get? id = some d) {f : Fault}
    (hf : (c.addTrait id).fault = some f) :
    (∃ name, .isVariable name ∈ d.directives ∧ Text.Vast name ∧
      f = .value (.tooManyDigits (some (Text.digitCount name)))) ∨
    ∃ name ∈ d.claims, ∃ owner, f = (RuleFault.sharedVariable name owner d.name).fault ∧
      (c.bindings.get? name = some owner ∨ owner = id ∧ ¬ d.claims.Nodup) := by
  rcases Character.addTrait_cases c id with
    ⟨_, he⟩ | ⟨_, _, _, _, _, he⟩ | ⟨u, g, _, hu, ha, he⟩ | ⟨_, hu, _⟩
  · rw [he] at hf; cases hf
  · rw [he] at hf; cases hf
  · obtain rfl := Option.some.inj (hd.symm.trans hu)
    rw [he] at hf
    obtain rfl := Option.some.inj hf
    rw [← TraitCatalog.id_of_get? hd]
    refine (Registry.addAll_error ha).imp_left ?_
    rintro ⟨name, hname, hg⟩
    have hs := h.catalog.not_separated (TraitCatalog.mem_of_get? hd) hname
    have hv : Text.Vast name := by
      by_contra hv
      obtain ⟨n, hn⟩ := Text.readable_of_not_vast hs hv
      rw [hn] at hg
      cases hg
    rw [Text.integerText?_of_vast hs hv] at hg
    exact ⟨name, hname, hv, (Except.error.inj hg).symm⟩
  · rw [hd] at hu; cases hu

/-- Removing a trait that was added gives back the character it was added to. -/
theorem Sound.removeTrait_addTrait (h : c.Sound) (hno : c.has id = false)
    (hok : (c.addTrait id).fault = none) : (c.addTrait id).after.removeTrait id = c := by
  have hthere := (addTrait_ok hok).present id List.mem_cons_self
  rcases Character.addTrait_cases c id with
    ⟨hh, _⟩ | ⟨u, r, _, hu, ha, he⟩ | ⟨_, _, _, _, _, he⟩ | ⟨_, _, he⟩
  · rw [hno] at hh; cases hh
  · obtain rfl := TraitCatalog.id_of_get? hu
    have hregistry : r.purge u.id = c.registry := by
      rw [Registry.purge_addAll ha, h.purge_absent hno]
    have hothers : c.traits.filter (fun t => t.id != u.id) = c.traits := by
      rw [← removeTrait_traits, Character.removeTrait, if_neg (by simp [hno])]
    have htraits : (insertTrait (.fresh u) c.traits).filter (fun t => t.id != u.id) = c.traits :=
      (filter_insertTrait (.fresh u) c.traits).trans hothers
    rw [he] at hthere ⊢
    rw [Character.removeTrait, if_pos hthere]
    show { c.withRegistry (r.purge u.id) with
      traits := (insertTrait (.fresh u) c.traits).filter fun t => t.id != u.id } = c
    rw [hregistry, htraits]
    rfl
  · rw [he] at hok; cases hok
  · rw [he] at hok; cases hok

/-- A trait that is missing can be added unless the engine does not know it, or one of its names is in
the way or is a number of too many digits. Where it can not, nothing changes, and where it can, removing
it undoes it. -/
theorem addTrait_undone (h : Reachable c) (hno : c.has id = false) :
    (c.engine.traits.get? id = none →
      (c.addTrait id).fault = some (.value (.unknownTrait id))) ∧
    (∀ d, c.engine.traits.get? id = some d →
      ((c.addTrait id).fault = none ↔
        ¬ c.Conflicts d ∧ ∀ name, .isVariable name ∈ d.directives → ¬ Text.Vast name) ∧
      ∀ f, (c.addTrait id).fault = some f →
        (∃ name, .isVariable name ∈ d.directives ∧ Text.Vast name ∧
          f = .value (.tooManyDigits (some (Text.digitCount name)))) ∨
        ∃ name ∈ d.claims, ∃ owner, f = (RuleFault.sharedVariable name owner d.name).fault ∧
          (c.bindings.get? name = some owner ∨ owner = id ∧ ¬ d.claims.Nodup)) ∧
    ((c.addTrait id).fault ≠ none → (c.addTrait id).after = c) ∧
    ((c.addTrait id).fault = none → (c.addTrait id).after.removeTrait id = c) := by
  refine ⟨?_, ?_, ?_, h.sound.removeTrait_addTrait hno⟩
  · intro hunknown
    rw [addTrait, if_neg (by simp [hno]), hunknown]
    rfl
  · intro d hd
    exact ⟨h.sound.addTrait_ok_iff hno hd, fun f hf => h.sound.addTrait_known_fault hd hf⟩
  · intro hfault
    obtain ⟨f, hf⟩ := Option.ne_none_iff_exists'.mp hfault
    exact (h.sound.addTrait_fault hf).1

end

end Character

/-- Traits that share a main trait; of the names of the fourth, the second is taken. -/
def Ruleset.crowded : Ruleset :=
  .small
    [.small 1 "Alpha" "IS_VARIABLE|X" "", .small 2 "Beta" "MAINTRAIT_COUNT" "",
      .small 3 "Gamma" "SUBTRAIT|2" "",
      .ruled 4 "Delta" ["IS_VARIABLE|Y", "SUBTRAIT|2", "IS_VARIABLE|X"] "",
      .ruled 5 "Epsilon" ["IS_VARIABLE|Y", "SUBTRAIT|2", "IS_VARIABLE|Z"] "",
      .ruled 6 "Zeta" ["SUBTRAIT|2", "IS_VARIABLE|W", "IS_VARIABLE|W"] ""]
    [.small .mortal [1]]

def Engine.crowded : Engine where
  ruleset := .crowded
  traits :=
    ⟨TraitDefinition.finished Ruleset.crowded.traits
      [([.isVariable "X"], []), ([.mainTraitCount none], [3, 4, 5, 6]),
        ([.subTrait (.id 2)], []),
        ([.isVariable "Y", .subTrait (.id 2), .isVariable "X"], []),
        ([.isVariable "Y", .subTrait (.id 2), .isVariable "Z"], []),
        ([.subTrait (.id 2), .isVariable "W", .isVariable "W"], [])],
      .ofList [("Beta", 2)]⟩
  templates := ⟨[{ TemplateDefinition.small .mortal [1] with traitIds := [1] }]⟩
  paths := .empty

theorem Engine.build_crowded : build .crowded = .ok .crowded := (rfl)

namespace Character

/-- Delta fails on its second name and Zeta on its own, each after it has joined a group that Gamma is
in, and Epsilon joins it and leaves it again. -/
theorem addTrait_undone_crowded : ∃ c, Reachable c ∧ c.traitIds = [1, 3] ∧
    c.groups.entries = [(2, [3])] ∧ c.has 4 = false ∧ c.has 5 = false ∧ c.has 6 = false ∧
    c.has 9 = false ∧
    (c.addTrait 4).fault = some (.rule (.sharedVariable "X" 1 "Delta")) ∧
    (c.addTrait 4).after = c ∧
    (c.addTrait 5).fault = none ∧ (c.addTrait 5).after.groups.entries = [(2, [3, 5])] ∧
    (c.addTrait 5).after.removeTrait 5 = c ∧
    (c.addTrait 6).fault = some (.rule (.sharedVariable "W" 6 "Zeta")) ∧
    (c.addTrait 6).after = c ∧
    (c.addTrait 9).fault = some (.value (.unknownTrait 9)) := by
  have hnew := Reachable.created (b := ⟨0, [], [], .empty⟩) Engine.build_crowded rfl
  have hc := hnew.run [.addTrait 3]
  refine ⟨_, hc, rfl, rfl, rfl, rfl, rfl, rfl, rfl, ?_, rfl, rfl, ?_, rfl, ?_, ?_⟩
  · exact (addTrait_undone hc (show Character.has _ 4 = false from rfl)).2.2.1 nofun
  · exact (addTrait_undone hc (show Character.has _ 5 = false from rfl)).2.2.2 rfl
  · exact (addTrait_undone hc (show Character.has _ 6 = false from rfl)).2.2.1 nofun
  · exact (addTrait_undone hc (show Character.has _ 9 = false from rfl)).1 rfl

end Character

/-- A trait that wants to be known by a number. -/
def TraitDefinition.numbered (n : Int) : TraitDefinition :=
  .ruled 2 "Beta" [Text.join "|" ["IS_VARIABLE", toString n]] ""

theorem TraitCatalog.draft_numbered (n : Int) :
    draft .standard (.numbered n) = .ok ⟨.numbered n, [.isVariable (toString n)]⟩ := by
  have hchunk : IsChunk '\n' '|' ["IS_VARIABLE"] := ⟨by decide, by decide, by decide, by decide⟩
  have hne : (toString n).isEmpty = false := by simpa using Text.toString_ne_empty n
  have hspelled : Directive.ofTokens? .standard ["IS_VARIABLE", toString n] =
      .ok (some (.isVariable (toString n))) := by
    show (if (toString n).isEmpty = true then Except.error RuleFault.blankVariable
      else Except.ok (Directive.isVariable (toString n))).map some = _
    rw [hne]
    rfl
  exact draft_of_directives (Rule.directives_numeral hchunk hspelled rfl)

def Ruleset.numbered (n : Int) : Ruleset :=
  .small [.small 1 "Alpha" "" "", .numbered n] [.small .mortal [1]]

def Engine.numbered (n : Int) : Engine where
  ruleset := .numbered n
  traits :=
    ⟨TraitDefinition.finished (Ruleset.numbered n).traits
      [([], []), ([.isVariable (toString n)], [])], .empty⟩
  templates := ⟨[{ TemplateDefinition.small .mortal [1] with traitIds := [1] }]⟩
  paths := .empty

theorem Engine.build_numbered (n : Int) : build (.numbered n) = .ok (.numbered n) := by
  have hdrafts : (Ruleset.numbered n).traits.mapM (TraitCatalog.draft .standard) =
      .ok [⟨.small 1 "Alpha" "" "", []⟩, ⟨.numbered n, [.isVariable (toString n)]⟩] := by
    show [TraitDefinition.small 1 "Alpha" "" "", .numbered n].mapM _ = _
    rw [List.mapM_cons, List.mapM_cons, TraitCatalog.draft_numbered]
    rfl
  have htraits : TraitCatalog.build .standard "•" (Ruleset.numbered n).traits =
      .ok (Engine.numbered n).traits := by
    rw [TraitCatalog.build, hdrafts]
    rfl
  show (TraitCatalog.build .standard "•" (Ruleset.numbered n).traits >>= _) = _
  rw [htraits]
  rfl

namespace Character

def numbered (n : Int) : Character where
  engine := .numbered n
  id := 0
  templates := [.mortal]
  traits := [.fresh (.small 1 "Alpha" "" "")]
  bindings := .empty
  groups := .empty

theorem reachable_numbered (n : Int) : Reachable (numbered n) := by
  have hcreate : create (.numbered n) ⟨0, [], [], .empty⟩ = .ok (numbered n, []) := rfl
  exact .created (Engine.build_numbered n) hcreate

/-- A number is in the way of no other name, but one of too many digits is not passed over. -/
theorem addTrait_escapes : ∃ c id d count, Reachable c ∧ c.has id = false ∧
    c.engine.traits.get? id = some d ∧ ¬ c.Conflicts d ∧
    (c.addTrait id).fault = some (.value (.tooManyDigits count)) := by
  generalize hn : (10 : Int) ^ Text.mostDigits = n
  have hvast : Text.Vast (toString n) := Text.vast_toString_iff.mpr (hn ▸ Text.isWritable_pow)
  have hc := reachable_numbered n
  have hd : (numbered n).engine.traits.get? 2 =
      some { TraitDefinition.numbered n with directives := [.isVariable (toString n)] } := rfl
  have hclaims : ({ TraitDefinition.numbered n with
      directives := [.isVariable (toString n)] }).claims = [] := by
    have hunclaimed : ¬ Registrable (toString n) :=
      fun h => nomatch h.2.1.symm.trans (Text.plain?_toString n)
    exact List.filterMap_cons_none (if_neg hunclaimed)
  have hfault : ((numbered n).addTrait 2).fault ≠ none := fun h =>
    ((hc.sound.addTrait_ok_iff rfl hd).mp h).2 _ List.mem_cons_self hvast
  obtain ⟨f, hf⟩ := Option.ne_none_iff_exists'.mp hfault
  rcases hc.sound.addTrait_known_fault hd hf with ⟨name, _, _, rfl⟩ | ⟨name, hname, _⟩
  · refine ⟨_, 2, _, _, hc, rfl, hd, ?_, hf⟩
    rintro (⟨name, hname, _⟩ | htwice)
    · rw [hclaims] at hname
      cases hname
    · exact htwice (hclaims ▸ List.nodup_nil)
  · rw [hclaims] at hname
    cases hname

end Character

end CharacterSheet
