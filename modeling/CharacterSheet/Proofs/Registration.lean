import CharacterSheet.Proofs.TraitCatalog

/-! Registration, as sets. A registry is looked at through two views: whose a name is, and who is in
the group of a main trait. A trait that registers itself adds its claims to the first and itself to
the groups of its main traits, and purging it takes exactly that away again. `Holds` says that a
registry is what some definitions have registered; it is the invariant of all that characters do. -/

namespace CharacterSheet

/-- Whether a trait may take a name: it is not empty, spells no integer and is not reserved. -/
def Registrable (name : String) : Prop :=
  name ≠ "" ∧ Text.plain? name = none ∧ Ruleset.isReserved name = false

instance : DecidablePred Registrable := fun _ => inferInstanceAs (Decidable (_ ∧ _ ∧ _))

/-- The name that a directive takes. -/
def Directive.claim? : Directive → Option String
  | .isVariable name => if Registrable name then some name else none
  | _ => none

def Directive.main? : Directive → Option Int
  | .subTrait parent => Profile.parentId parent
  | _ => none

/-- Whether it can be told of all names that directives bring in whether they are numbers. -/
def Legible (ds : List Directive) : Prop := ∀ name, .isVariable name ∈ ds → Text.Readable name

def claimsOf (ds : List Directive) : List String := ds.filterMap Directive.claim?

def mainsOf (ds : List Directive) : List Int := ds.filterMap Directive.main?

namespace TraitDefinition

def claims (t : TraitDefinition) : List String := claimsOf t.directives

def mains (t : TraitDefinition) : List Int := mainsOf t.directives

theorem mem_claims {t : TraitDefinition} {name : String} :
    name ∈ t.claims ↔ .isVariable name ∈ t.directives ∧ Registrable name := by
  rw [claims, claimsOf, List.mem_filterMap]
  constructor
  · rintro ⟨d, hd, he⟩
    cases d <;> simp only [Directive.claim?, reduceCtorEq] at he
    split at he
    · rename_i hr
      cases he
      exact ⟨hd, hr⟩
    · cases he
  · rintro ⟨hd, hr⟩
    exact ⟨_, hd, if_pos hr⟩

theorem mem_mains {t : TraitDefinition} {p : Int}
    (h : ∀ q, .subTrait q ∈ t.directives → ∃ n, q = .id n) :
    p ∈ t.mains ↔ .subTrait (.id p) ∈ t.directives := by
  rw [mains, mainsOf, List.mem_filterMap]
  constructor
  · rintro ⟨d, hd, he⟩
    cases d <;> simp only [Directive.main?, reduceCtorEq] at he
    obtain ⟨n, rfl⟩ := h _ hd
    cases he
    exact hd
  · exact fun hd => ⟨_, hd, rfl⟩

end TraitDefinition

namespace Character.Registry

open TraitCatalog (insertId mem_insertId insertId_ascending)

def members (r : Registry) (main : Int) : List Int := (r.groups.get? main).getD []

/-- Groups are in order, and none is empty. -/
structure Tidy (r : Registry) : Prop where
  ascending : ∀ p, Ascending (r.members p)
  occupied : ∀ p, r.groups.get? p ≠ some []

/-! ## One directive -/

theorem addVariable_free {r : Registry} {name : String} {t : TraitDefinition}
    (hn : Registrable name) (hfree : r.bindings.get? name = none) :
    r.addVariable name t = .ok ({ r with bindings := r.bindings.insert name t.id }, true) := by
  obtain ⟨hne, hint, hres⟩ := hn
  have hemp : name.isEmpty = false := by simpa using hne
  rw [addVariable, Text.integerText?_eq_ok_none_iff.mpr hint]
  simp [hemp, hres, hfree, bind, Except.bind, pure, Except.pure]

theorem addVariable_taken {r : Registry} {name : String} {t : TraitDefinition} {owner : Int}
    (hn : Registrable name) (htaken : r.bindings.get? name = some owner) :
    r.addVariable name t = .error (RuleFault.sharedVariable name owner t.name).fault := by
  obtain ⟨hne, hint, hres⟩ := hn
  have hemp : name.isEmpty = false := by simpa using hne
  rw [addVariable, Text.integerText?_eq_ok_none_iff.mpr hint]
  simp [hemp, hres, htaken, bind, Except.bind, throw, throwThe, MonadExceptOf.throw]

theorem addVariable_passed {r : Registry} {name : String} {t : TraitDefinition}
    (hn : ¬ Registrable name) (hr : Text.Readable name) :
    r.addVariable name t = .ok (r, false) := by
  obtain ⟨n, hint⟩ := hr
  rw [addVariable, hint]
  by_cases hemp : name.isEmpty = true
  · simp [hemp, pure, Except.pure]
  · cases n with
    | some n => simp [hemp, bind, Except.bind, pure, Except.pure]
    | none =>
      have hres : Ruleset.isReserved name = true := by
        by_contra hres
        exact hn ⟨by simpa using hemp, Text.integerText?_eq_ok_none_iff.mp hint, by simpa using hres⟩
      simp [hemp, hres, bind, Except.bind, pure, Except.pure]

theorem addVariable_unreadable {r : Registry} {name : String} {t : TraitDefinition} {f : Fault}
    (hint : integerText? name = .error f) : r.addVariable name t = .error f := by
  have hemp : ¬ name.isEmpty = true := by
    intro hemp
    obtain rfl : name = "" := by simpa using hemp
    cases hint
  rw [addVariable, hint]
  simp [hemp, bind, Except.bind]

/-- A name that a registry has been given can be read. -/
theorem readable_of_addVariable {r q : Registry} {name : String} {t : TraitDefinition} {taken : Bool}
    (h : r.addVariable name t = .ok (q, taken)) : Text.Readable name := by
  cases hint : integerText? name with
  | ok n => exact ⟨n, hint⟩
  | error f =>
    rw [addVariable_unreadable hint] at h
    cases h

/-- All that a directive can do to a registry. -/
theorem add_cases {t : TraitDefinition} {r r' : Registry} {d : Directive}
    (h : add t r d = .ok r') :
    (∃ name, d.claim? = some name ∧ d.main? = none ∧ r.bindings.get? name = none ∧
      r' = { r with bindings := r.bindings.insert name t.id }) ∨
    (∃ p, d.claim? = none ∧ d.main? = some p ∧ r' = r.addMember p t.id) ∨
    (d.claim? = none ∧ d.main? = none ∧ r' = r) := by
  cases d with
  | isVariable name =>
    obtain ⟨⟨q, taken⟩, hq, h⟩ := Result.bind_ok h
    obtain rfl := Result.pure_ok h
    by_cases hn : Registrable name
    · cases hf : r.bindings.get? name with
      | none =>
        rw [addVariable_free hn hf] at hq
        cases hq
        exact .inl ⟨name, if_pos hn, rfl, hf, rfl⟩
      | some owner =>
        rw [addVariable_taken hn hf] at hq
        cases hq
    · rw [addVariable_passed hn (readable_of_addVariable hq)] at hq
      cases hq
      exact .inr (.inr ⟨if_neg hn, rfl, rfl⟩)
  | subTrait parent =>
    rw [add] at h
    cases hp : Profile.parentId parent with
    | some p =>
      rw [hp] at h
      cases h
      exact .inr (.inl ⟨p, rfl, hp, rfl⟩)
    | none =>
      rw [hp] at h
      cases h
      exact .inr (.inr ⟨rfl, hp, rfl⟩)
  | _ => cases h; exact .inr (.inr ⟨rfl, rfl, rfl⟩)

theorem add_claim {t : TraitDefinition} {r : Registry} {d : Directive} {name : String}
    (hc : d.claim? = some name) (hfree : r.bindings.get? name = none) :
    add t r d = .ok { r with bindings := r.bindings.insert name t.id } := by
  cases d <;> simp only [Directive.claim?, reduceCtorEq] at hc
  split at hc
  · rename_i hn
    cases hc
    rw [add, addVariable_free hn hfree]
    rfl
  · cases hc

theorem legible_of_add {t : TraitDefinition} {r r' : Registry} {d : Directive}
    (h : add t r d = .ok r') : Legible [d] := by
  intro name hn
  obtain rfl := List.mem_singleton.mp hn
  obtain ⟨_, hq, _⟩ := Result.bind_ok h
  exact readable_of_addVariable hq

theorem legible_cons {d : Directive} {ds : List Directive} :
    Legible (d :: ds) ↔ Legible [d] ∧ Legible ds := by
  simp only [Legible, List.mem_cons, List.not_mem_nil, or_false, or_imp, forall_and]

/-- A directive that takes no name is in the way only with a name that can not be read. -/
theorem add_unclaiming {t : TraitDefinition} {r : Registry} {d : Directive}
    (hc : d.claim? = none) (hr : Legible [d]) : ∃ r', add t r d = .ok r' := by
  cases d with
  | isVariable name =>
    have hn : ¬ Registrable name := fun hn => by rw [Directive.claim?, if_pos hn] at hc; cases hc
    exact ⟨r, by rw [add, addVariable_passed hn (hr name List.mem_cons_self)]; rfl⟩
  | subTrait parent =>
    rw [add]
    cases Profile.parentId parent <;> exact ⟨_, rfl⟩
  | _ => exact ⟨r, rfl⟩

theorem mem_members_addMember {r : Registry} {p q id x : Int} :
    x ∈ (r.addMember p id).members q ↔ x ∈ r.members q ∨ (p = q ∧ x = id) := by
  rw [members, addMember, Table.get?_insert]
  by_cases hq : q = p
  · subst hq
    rw [if_pos rfl, Option.getD_some, mem_insertId]
    simp only [members, true_and]
    tauto
  · rw [if_neg hq]
    simp [members, Ne.symm hq]

theorem Tidy.addMember {r : Registry} (h : r.Tidy) (p id : Int) : (r.addMember p id).Tidy := by
  constructor
  · intro q
    rw [members, Registry.addMember, Table.get?_insert]
    split
    · exact insertId_ascending (h.ascending p)
    · exact h.ascending q
  · intro q
    rw [Registry.addMember, Table.get?_insert]
    split
    · intro he
      have hm : id ∈ insertId id ((r.groups.get? p).getD []) := mem_insertId.mpr (.inl rfl)
      rw [Option.some.inj he] at hm
      cases hm
    · exact h.occupied q

theorem Tidy.add {t : TraitDefinition} {r r' : Registry} {d : Directive} (h : r.Tidy)
    (ha : add t r d = .ok r') : r'.Tidy := by
  rcases add_cases ha with ⟨_, _, _, _, rfl⟩ | ⟨p, _, _, rfl⟩ | ⟨_, _, rfl⟩
  · exact ⟨h.ascending, h.occupied⟩
  · exact h.addMember p t.id
  · exact h

/-! ## All directives of a trait -/

/-- What the directives of a trait have made of a registry. -/
structure Added (t : TraitDefinition) (ds : List Directive) (r r' : Registry) : Prop where
  bindings : ∀ name id, r'.bindings.get? name = some id ↔
    r.bindings.get? name = some id ∨ (name ∈ claimsOf ds ∧ id = t.id)
  members : ∀ p id, id ∈ r'.members p ↔ id ∈ r.members p ∨ (p ∈ mainsOf ds ∧ id = t.id)
  free : ∀ name ∈ claimsOf ds, r.bindings.get? name = none
  once : (claimsOf ds).Nodup
  legible : Legible ds

theorem addAll_added {t : TraitDefinition} {ds : List Directive} {r r' : Registry}
    (h : addAll t r ds = .ok r') : Added t ds r r' := by
  induction ds generalizing r with
  | nil =>
    cases h
    exact ⟨by simp [claimsOf], by simp [mainsOf], by simp [claimsOf], List.nodup_nil, nofun⟩
  | cons d ds ih =>
    obtain ⟨q, hq, h⟩ := Result.bind_ok h
    have hrest := ih h
    have hlegible := legible_cons.mpr ⟨legible_of_add hq, hrest.legible⟩
    rcases add_cases hq with ⟨name, hc, hp, hfree, rfl⟩ | ⟨p, hc, hp, rfl⟩ | ⟨hc, hp, rfl⟩
    · have hcs : claimsOf (d :: ds) = name :: claimsOf ds := List.filterMap_cons_some hc
      have hms : mainsOf (d :: ds) = mainsOf ds := List.filterMap_cons_none hp
      -- the rest found its own names free after this one was taken
      have hne : ∀ n ∈ claimsOf ds, n ≠ name ∧ r.bindings.get? n = none := by
        intro n hn
        have := hrest.free n hn
        rw [Table.get?_insert] at this
        split at this
        · cases this
        · exact ⟨‹_›, this⟩
      refine ⟨?_, ?_, ?_, ?_, hlegible⟩
      · intro n id
        rw [hrest.bindings, Table.get?_insert, hcs, List.mem_cons]
        split
        · rename_i heq
          subst heq
          simp only [Option.some.injEq, hfree, reduceCtorEq, true_or, true_and, false_or]
          constructor
          · rintro (rfl | ⟨_, rfl⟩) <;> rfl
          · exact fun he => .inl he.symm
        · rename_i hne
          simp [hne]
      · rw [hms]; exact hrest.members
      · rw [hcs]
        intro n hn
        rcases List.mem_cons.mp hn with rfl | hn
        · exact hfree
        · exact (hne n hn).2
      · rw [hcs]
        exact List.nodup_cons.mpr ⟨fun hm => (hne name hm).1 rfl, hrest.once⟩
    · have hcs : claimsOf (d :: ds) = claimsOf ds := List.filterMap_cons_none hc
      have hms : mainsOf (d :: ds) = p :: mainsOf ds := List.filterMap_cons_some hp
      refine ⟨?_, ?_, ?_, ?_, hlegible⟩
      · rw [hcs]; exact hrest.bindings
      · intro q id
        rw [hrest.members, mem_members_addMember, hms, List.mem_cons, eq_comm (a := p)]
        tauto
      · rw [hcs]; exact hrest.free
      · rw [hcs]; exact hrest.once
    · have hcs : claimsOf (d :: ds) = claimsOf ds := List.filterMap_cons_none hc
      have hms : mainsOf (d :: ds) = mainsOf ds := List.filterMap_cons_none hp
      exact ⟨by rw [hcs]; exact hrest.bindings, by rw [hms]; exact hrest.members,
        by rw [hcs]; exact hrest.free, by rw [hcs]; exact hrest.once, hlegible⟩

theorem Tidy.addAll {t : TraitDefinition} {ds : List Directive} {r r' : Registry} (h : r.Tidy)
    (ha : addAll t r ds = .ok r') : r'.Tidy := by
  induction ds generalizing r with
  | nil => cases ha; exact h
  | cons d ds ih =>
    obtain ⟨q, hq, ha⟩ := Result.bind_ok ha
    exact ih (h.add hq) ha

/-- A trait whose names can be read and are free can register itself. -/
theorem addAll_free {t : TraitDefinition} {ds : List Directive} {r : Registry}
    (hr : Legible ds) (honce : (claimsOf ds).Nodup)
    (hfree : ∀ name ∈ claimsOf ds, r.bindings.get? name = none) :
    ∃ r', addAll t r ds = .ok r' := by
  induction ds generalizing r with
  | nil => exact ⟨r, rfl⟩
  | cons d ds ih =>
    obtain ⟨hd, hr⟩ := legible_cons.mp hr
    cases hc : d.claim? with
    | some name =>
      have hcs : claimsOf (d :: ds) = name :: claimsOf ds := List.filterMap_cons_some hc
      rw [hcs] at honce hfree
      obtain ⟨hnot, honce⟩ := List.nodup_cons.mp honce
      have hq := add_claim (t := t) hc (hfree name List.mem_cons_self)
      obtain ⟨r', h⟩ := ih hr honce (r := { r with bindings := r.bindings.insert name t.id }) (by
        intro n hn
        rw [Table.get?_insert, if_neg fun he : n = name => hnot (he ▸ hn)]
        exact hfree n (List.mem_cons_of_mem _ hn))
      exact ⟨r', by rw [addAll, hq]; exact h⟩
    | none =>
      have hcs : claimsOf (d :: ds) = claimsOf ds := List.filterMap_cons_none hc
      rw [hcs] at honce hfree
      obtain ⟨q, hq⟩ := add_unclaiming (t := t) (r := r) hc hd
      have hb : q.bindings = r.bindings := by
        rcases add_cases hq with ⟨_, hs, _⟩ | ⟨_, _, _, rfl⟩ | ⟨_, _, rfl⟩
        · rw [hc] at hs; cases hs
        · rfl
        · rfl
      obtain ⟨r', h⟩ := ih hr honce (r := q) (by rw [hb]; exact hfree)
      exact ⟨r', by rw [addAll, hq]; exact h⟩

/-! ## Purging -/

theorem get?_purge_bindings {r : Registry} {id : Int} {name : String} {x : Int} :
    (r.purge id).bindings.get? name = some x ↔ r.bindings.get? name = some x ∧ x ≠ id := by
  rw [purge, Table.get?_filter, Option.filter_eq_some_iff]
  simp

theorem mem_members_purge {r : Registry} {id p x : Int} :
    x ∈ (r.purge id).members p ↔ x ∈ r.members p ∧ x ≠ id := by
  rw [members, purge, Table.get?_filter, Table.get?_mapValues, members]
  cases r.groups.get? p with
  | none => simp
  | some ms =>
    have hf : x ∈ ms.filter (· != id) ↔ x ∈ ms ∧ x ≠ id := by rw [List.mem_filter, bne_iff_ne]
    rw [Option.map_some, Option.filter_some, Option.getD_some, ← hf]
    split
    · rfl
    · rename_i hemp
      simp only [Bool.not_eq_true', Bool.not_eq_false, List.isEmpty_iff] at hemp
      rw [hemp, Option.getD_none]

theorem Tidy.purge {r : Registry} (h : r.Tidy) (id : Int) : (r.purge id).Tidy := by
  constructor
  · intro p
    have ha := h.ascending p
    rw [members] at ha
    rw [members, Registry.purge, Table.get?_filter, Table.get?_mapValues]
    cases hg : r.groups.get? p with
    | none => exact List.Pairwise.nil
    | some ms =>
      rw [hg] at ha
      rw [Option.map_some, Option.filter_some]
      split
      · exact List.Pairwise.filter _ ha
      · exact List.Pairwise.nil
  · intro p he
    rw [Registry.purge, Table.get?_filter, Option.filter_eq_some_iff] at he
    exact absurd he.2 (by simp)

/-- A trait that registered nothing leaves nothing to purge. -/
theorem purge_of_absent {r : Registry} {id : Int} (h : r.Tidy)
    (hb : ∀ name, r.bindings.get? name ≠ some id) (hm : ∀ p, id ∉ r.members p) :
    r.purge id = r := by
  have hbind : r.bindings.filter (fun _ owner => owner != id) = r.bindings := by
    apply Table.filter_eq_self
    intro name owner ho
    rw [bne_iff_ne]
    exact fun he => hb name (he ▸ ho)
  have hgroups : r.groups.mapValues (fun _ ms => ms.filter (· != id)) = r.groups := by
    apply Table.mapValues_eq_self
    intro p ms hg
    rw [List.filter_eq_self]
    intro x hx
    rw [bne_iff_ne]
    intro he
    exact hm p (by rw [members, hg]; exact he ▸ hx)
  have hocc : r.groups.filter (fun _ ms => !ms.isEmpty) = r.groups := by
    apply Table.filter_eq_self
    intro p ms hg
    cases ms with
    | nil => exact absurd hg (h.occupied p)
    | cons => rfl
  rw [purge, hbind, hgroups, hocc]

/-! ## What is registered -/

/-- A registry holds what some traits have registered, and nothing else. -/
structure Holds (r : Registry) (ts : List TraitDefinition) : Prop where
  tidy : r.Tidy
  bindings : ∀ name id, r.bindings.get? name = some id ↔ ∃ t ∈ ts, t.id = id ∧ name ∈ t.claims
  members : ∀ p id, id ∈ r.members p ↔ ∃ t ∈ ts, t.id = id ∧ p ∈ t.mains
  once : ∀ t ∈ ts, t.claims.Nodup
  legible : ∀ t ∈ ts, Legible t.directives

theorem Holds.empty : Holds ⟨.empty, .empty⟩ [] where
  tidy := ⟨fun _ => List.Pairwise.nil, fun _ => by simp⟩
  bindings := by simp
  members := by simp [Registry.members]
  once := by simp
  legible := by simp

section

variable {r q : Registry} {t : TraitDefinition} {ts us : List TraitDefinition}

theorem Holds.unshared (h : r.Holds ts) {u : TraitDefinition} (ht : t ∈ ts) (hu : u ∈ ts)
    {name : String} (hct : name ∈ t.claims) (hcu : name ∈ u.claims) : t.id = u.id := by
  have ht' := (h.bindings name t.id).mpr ⟨t, ht, rfl, hct⟩
  rw [(h.bindings name u.id).mpr ⟨u, hu, rfl, hcu⟩] at ht'
  exact (Option.some.inj ht').symm

theorem Holds.add (h : r.Holds ts) (ha : addAll t r t.directives = .ok q)
    (hu : ∀ u, u ∈ us ↔ u = t ∨ u ∈ ts) : q.Holds us := by
  have hadd := addAll_added ha
  refine ⟨h.tidy.addAll ha, ?_, ?_, ?_, ?_⟩
  · intro name id
    rw [hadd.bindings, h.bindings]
    constructor
    · rintro (⟨u, hm, hid, hc⟩ | ⟨hc, rfl⟩)
      · exact ⟨u, (hu u).mpr (.inr hm), hid, hc⟩
      · exact ⟨t, (hu t).mpr (.inl rfl), rfl, hc⟩
    · rintro ⟨u, hm, hid, hc⟩
      rcases (hu u).mp hm with rfl | hm
      · exact .inr ⟨hc, hid.symm⟩
      · exact .inl ⟨u, hm, hid, hc⟩
  · intro p id
    rw [hadd.members, h.members]
    constructor
    · rintro (⟨u, hm, hid, hp⟩ | ⟨hp, rfl⟩)
      · exact ⟨u, (hu u).mpr (.inr hm), hid, hp⟩
      · exact ⟨t, (hu t).mpr (.inl rfl), rfl, hp⟩
    · rintro ⟨u, hm, hid, hp⟩
      rcases (hu u).mp hm with rfl | hm
      · exact .inr ⟨hp, hid.symm⟩
      · exact .inl ⟨u, hm, hid, hp⟩
  · intro u hm
    rcases (hu u).mp hm with rfl | hm
    · exact hadd.once
    · exact h.once u hm
  · intro u hm
    rcases (hu u).mp hm with rfl | hm
    · exact hadd.legible
    · exact h.legible u hm

theorem Holds.purge {id : Int} (h : r.Holds ts) (hu : ∀ u, u ∈ us ↔ u ∈ ts ∧ u.id ≠ id) :
    (r.purge id).Holds us := by
  refine ⟨h.tidy.purge id, ?_, ?_, fun u hm => h.once u ((hu u).mp hm).1,
    fun u hm => h.legible u ((hu u).mp hm).1⟩
  · intro name x
    rw [get?_purge_bindings, h.bindings]
    constructor
    · rintro ⟨⟨u, hm, rfl, hc⟩, hne⟩
      exact ⟨u, (hu u).mpr ⟨hm, hne⟩, rfl, hc⟩
    · rintro ⟨u, hm, rfl, hc⟩
      exact ⟨⟨u, ((hu u).mp hm).1, rfl, hc⟩, ((hu u).mp hm).2⟩
  · intro p x
    rw [mem_members_purge, h.members]
    constructor
    · rintro ⟨⟨u, hm, rfl, hp⟩, hne⟩
      exact ⟨u, (hu u).mpr ⟨hm, hne⟩, rfl, hp⟩
    · rintro ⟨u, hm, rfl, hp⟩
      exact ⟨⟨u, ((hu u).mp hm).1, rfl, hp⟩, ((hu u).mp hm).2⟩

theorem Holds.purge_absent {id : Int} (h : r.Holds ts)
    (habs : id ∉ ts.map TraitDefinition.id) : r.purge id = r := by
  apply purge_of_absent h.tidy
  · intro name hb
    obtain ⟨u, hm, hid, _⟩ := (h.bindings name id).mp hb
    exact habs (List.mem_map.mpr ⟨u, hm, hid⟩)
  · intro p hm
    obtain ⟨u, hm, hid, _⟩ := (h.members p id).mp hm
    exact habs (List.mem_map.mpr ⟨u, hm, hid⟩)

theorem Tidy.get?_groups (h : r.Tidy) (p : Int) :
    r.groups.get? p = if (r.members p).isEmpty then none else some (r.members p) := by
  unfold Registry.members
  cases hg : r.groups.get? p with
  | none => rfl
  | some ms =>
    cases ms with
    | nil => exact absurd hg (h.occupied p)
    | cons => rfl

/-- What is registered settles what both views show. -/
theorem Holds.ext (h : r.Holds ts) (hq : q.Holds us) (hm : ∀ t, t ∈ ts ↔ t ∈ us) :
    (∀ name, r.bindings.get? name = q.bindings.get? name) ∧
      ∀ p, r.groups.get? p = q.groups.get? p := by
  constructor
  · intro name
    ext id
    rw [h.bindings, hq.bindings]
    simp only [hm]
  · intro p
    have he : r.members p = q.members p := by
      apply (h.tidy.ascending p).ext (hq.tidy.ascending p)
      intro id
      rw [h.members, hq.members]
      simp only [hm]
    rw [h.tidy.get?_groups, hq.tidy.get?_groups, he]

end

end Character.Registry

end CharacterSheet
