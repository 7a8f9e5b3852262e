import CharacterSheet.Proofs.Descent
import CharacterSheet.Proofs.RowOrder

/-! What templates grant. An entry of a template stands for a trait by its ID, or for all traits of a
name; only a text that no trait bears is read as an ID. Definitions and rows say together what a
template lists, and rows alone are enough to make one. A catalog can be built exactly where every entry
stands for something and no key is defined twice, and each of its templates then grants what its entries
stand for with all that can be reached from there. -/

namespace CharacterSheet

/-- A trait that an entry of a template stands for: the one of its ID, each one that bears the name, or
the one of the ID that the text spells if no trait bears it. -/
inductive TraitRef.StandsFor (c : TraitCatalog) : TraitRef → Int → Prop where
  | id {n : Int} : c.contains n = true → StandsFor c (.id n) n
  | bearer {t : TraitDefinition} : t ∈ c.definitions → StandsFor c (.name t.name) t.id
  | spelled {s : String} {n : Int} : (∀ t ∈ c.definitions, t.name ≠ s) →
      integerText? s = .ok (some n) → c.contains n = true → StandsFor c (.name s) n

namespace TraitCatalog

theorem idsForName_eq_nil_iff {c : TraitCatalog} {s : String} :
    c.idsForName s = [] ↔ ∀ t ∈ c.definitions, t.name ≠ s := by
  rw [idsForName, List.map_eq_nil_iff, List.filter_eq_nil_iff]
  simp only [beq_iff_eq, ne_eq]

theorem contains_of_mem {c : TraitCatalog} {t : TraitDefinition} (h : t ∈ c.definitions) :
    c.contains t.id = true :=
  List.find?_isSome.mpr ⟨t, h, beq_self_eq_true t.id⟩

/-- A way down from a trait that a catalog knows stays within what it knows. -/
theorem Coherent.contains_of_reaches {c : TraitCatalog} (h : c.Coherent) {p x : Int}
    (hp : c.contains p = true) (hway : c.Reaches p x) : c.contains x = true := by
  induction hway with
  | refl => exact hp
  | @tail q x _ hchild =>
    obtain ⟨_, u, hu, _⟩ := h.mem_childrenIn.mp hchild
    exact Option.isSome_iff_exists.mpr ⟨u, hu⟩

end TraitCatalog

namespace TemplateCatalog

/-- What the data list under a template: the entries of its definition, and the traits of its rows. -/
def Lists (ts : List TemplateDefinition) (rows : List TemplateRow) (key : TemplateKey)
    (e : TraitRef) : Prop :=
  (∃ t ∈ ts, t.key = key ∧ e ∈ t.traits) ∨ ∃ r ∈ rows, r.template = key ∧ e = .id r.trait

/-- The templates of a catalog are those that the data name, and grant what the data list. -/
structure Follows (traits : TraitCatalog) (ts : List TemplateDefinition) (rows : List TemplateRow)
    (c : TemplateCatalog) : Prop where
  keys : ∀ key, key ∈ c.definitions.map TemplateDefinition.key ↔
    key ∈ ts.map TemplateDefinition.key ∨ key ∈ rows.map TemplateRow.template
  inOrder : Ascending ((c.definitions.map TemplateDefinition.key).map Vocabulary.code)
  ascending : ∀ t ∈ c.definitions, Ascending t.traitIds
  granted : ∀ t ∈ c.definitions, ∀ x, x ∈ t.traitIds ↔
    ∃ e n, Lists ts rows t.key e ∧ e.StandsFor traits n ∧ traits.Reaches n x
  known : ∀ t ∈ c.definitions, ∀ x ∈ t.traitIds, traits.contains x = true

section

variable {traits : TraitCatalog} {ts : List TemplateDefinition} {rows : List TemplateRow}
variable {t u : TemplateDefinition} {key : TemplateKey} {e : TraitRef} {n : Int}

/-! ## Entries -/

theorem standsFor_contains (h : e.StandsFor traits n) : traits.contains n = true := by
  cases h with
  | id h => exact h
  | bearer h => exact TraitCatalog.contains_of_mem h
  | spelled _ _ h => exact h

/-- An entry is resolved to what it stands for, and fails to be where it stands for nothing. -/
theorem resolveEntry_cases (traits : TraitCatalog) (t : TemplateDefinition) (e : TraitRef) :
    (∃ ids, resolveEntry traits t e = .ok ids ∧ (∃ n, e.StandsFor traits n) ∧
      ∀ n, n ∈ ids ↔ e.StandsFor traits n) ∨
    (∃ f, resolveEntry traits t e = .error f) ∧ ∀ n, ¬ e.StandsFor traits n := by
  cases e with
  | id n =>
    rw [resolveEntry]
    by_cases hn : traits.contains n = true
    · refine .inl ⟨[n], if_pos hn, ⟨n, .id hn⟩, fun m => ?_⟩
      rw [List.mem_singleton]
      constructor
      · rintro rfl
        exact .id hn
      · rintro ⟨⟩
        rfl
    · refine .inr ⟨⟨_, if_neg hn⟩, ?_⟩
      rintro m ⟨⟩
      exact hn ‹_›
  | name s =>
    rw [resolveEntry]
    cases hids : traits.idsForName s with
    | cons id r =>
      have hmem : ∀ m, m ∈ id :: r ↔ (TraitRef.name s).StandsFor traits m := by
        intro m
        rw [← hids, TraitCatalog.mem_idsForName]
        constructor
        · rintro ⟨u, hu, rfl, rfl⟩
          exact .bearer hu
        · intro h
          cases h with
          | @bearer u hu => exact ⟨u, hu, rfl, rfl⟩
          | spelled hnone =>
            rw [TraitCatalog.idsForName_eq_nil_iff.mpr hnone] at hids
            cases hids
      exact .inl ⟨id :: r, rfl, ⟨id, (hmem id).mp List.mem_cons_self⟩, hmem⟩
    | nil =>
      have hnone := TraitCatalog.idsForName_eq_nil_iff.mp hids
      have hspelled : ∀ m, (TraitRef.name s).StandsFor traits m ↔
          integerText? s = .ok (some m) ∧ traits.contains m = true := by
        intro m
        constructor
        · intro h
          cases h with
          | bearer hu => exact absurd rfl (hnone _ hu)
          | spelled _ hs hm => exact ⟨hs, hm⟩
        · exact fun h => .spelled hnone h.1 h.2
      simp only [hspelled]
      cases integerText? s with
      | error f => exact .inr ⟨⟨f, rfl⟩, nofun⟩
      | ok o =>
        cases o with
        | none => exact .inr ⟨⟨_, rfl⟩, nofun⟩
        | some m =>
          by_cases hm : traits.contains m = true
          · refine .inl ⟨[m], if_pos hm, ⟨m, rfl, hm⟩, fun k => ?_⟩
            rw [List.mem_singleton]
            constructor
            · rintro rfl
              exact ⟨rfl, hm⟩
            · rintro ⟨hk, _⟩
              exact (Option.some.inj (Except.ok.inj hk)).symm
          · refine .inr ⟨⟨_, if_neg hm⟩, ?_⟩
            rintro k ⟨hk, hknown⟩
            obtain rfl := Option.some.inj (Except.ok.inj hk)
            exact hm hknown

theorem exists_resolveEntry_iff :
    (∃ ids, resolveEntry traits t e = .ok ids) ↔ ∃ n, e.StandsFor traits n := by
  rcases resolveEntry_cases traits t e with ⟨ids, hok, hsome, _⟩ | ⟨⟨f, hf⟩, hnone⟩
  · exact iff_of_true ⟨ids, hok⟩ hsome
  · exact iff_of_false (fun ⟨_, hok⟩ => nomatch hf.symm.trans hok) fun ⟨n, hn⟩ => hnone n hn

theorem mem_of_resolveEntry {ids : List Int} (h : resolveEntry traits t e = .ok ids) :
    n ∈ ids ↔ e.StandsFor traits n := by
  rcases resolveEntry_cases traits t e with ⟨ids', hok, _, hmem⟩ | ⟨⟨f, hf⟩, _⟩
  · obtain rfl := Except.ok.inj (h.symm.trans hok)
    exact hmem n
  · cases hf.symm.trans h

/-! ## Templates -/

theorem exists_finish_iff : (∃ u, finish traits rows t = .ok u) ↔
    ∀ e ∈ entriesOf rows t, ∃ n, e.StandsFor traits n := by
  have hmapped : (∃ u, finish traits rows t = .ok u) ↔
      ∃ ids, (entriesOf rows t).mapM (resolveEntry traits t) = .ok ids := by
    rw [finish]
    cases (entriesOf rows t).mapM (resolveEntry traits t) with
    | error f =>
      constructor
      · rintro ⟨_, h⟩
        cases h
      · rintro ⟨_, h⟩
        cases h
    | ok ids => exact iff_of_true ⟨_, rfl⟩ ⟨ids, rfl⟩
  rw [hmapped, Result.exists_mapM_ok_iff]
  simp only [exists_resolveEntry_iff]

theorem key_of_finish (h : finish traits rows t = .ok u) : u.key = t.key := by
  obtain ⟨_, _, h⟩ := Result.bind_ok h
  obtain rfl := Result.pure_ok h
  rfl

theorem ascending_of_finish (h : finish traits rows t = .ok u) : Ascending u.traitIds := by
  obtain ⟨_, _, h⟩ := Result.bind_ok h
  obtain rfl := Result.pure_ok h
  exact traits.closure_ascending _

theorem mem_traitIds_of_finish (h : finish traits rows t = .ok u) {x : Int} : x ∈ u.traitIds ↔
    ∃ e ∈ entriesOf rows t, ∃ n, e.StandsFor traits n ∧ traits.Reaches n x := by
  obtain ⟨ids, hids, h⟩ := Result.bind_ok h
  obtain rfl := Result.pure_ok h
  have hflat : ∀ n, n ∈ ids.flatten ↔ ∃ e ∈ entriesOf rows t, e.StandsFor traits n := by
    intro n
    rw [List.mem_flatten]
    constructor
    · rintro ⟨l, hl, hn⟩
      obtain ⟨e, he, hresolved⟩ := Result.mem_of_mapM_ok hids hl
      exact ⟨e, he, (mem_of_resolveEntry hresolved).mp hn⟩
    · rintro ⟨e, he, hn⟩
      obtain ⟨l, hl, hresolved⟩ := Result.exists_of_mapM_ok hids he
      exact ⟨l, hl, (mem_of_resolveEntry hresolved).mpr hn⟩
  show x ∈ traits.closure ids.flatten ↔ _
  rw [TraitCatalog.mem_closure]
  constructor
  · rintro ⟨n, hn, hway⟩
    obtain ⟨e, he, hstands⟩ := (hflat n).mp hn
    exact ⟨e, he, n, hstands, hway⟩
  · rintro ⟨e, he, n, hstands, hway⟩
    exact ⟨n, (hflat n).mpr ⟨e, he, hstands⟩, hway⟩

/-! ## What the data name -/

theorem mem_entriesOf : e ∈ entriesOf rows t ↔
    e ∈ t.traits ∨ ∃ r ∈ rows, r.template = t.key ∧ e = .id r.trait := by
  rw [entriesOf, List.mem_append, List.mem_map]
  simp only [List.mem_filter, beq_iff_eq, and_assoc, eq_comm (a := e)]

variable (hnodup : (ts.map TemplateDefinition.key).Nodup)

include hnodup

/-- The template of a key stands for the definition that bears it, if there is one, with the key's rows.
-/
theorem declared_eq_some (h : declared ts rows key = some t) :
    t.key = key ∧ ∀ e, e ∈ entriesOf rows t ↔ Lists ts rows key e := by
  rw [declared] at h
  split at h
  · rename_i u hu
    obtain rfl := Option.some.inj h
    obtain ⟨hmem, rfl⟩ := (find?_key_eq_some_iff hnodup).mp hu
    refine ⟨rfl, fun e => ?_⟩
    rw [mem_entriesOf, Lists]
    refine or_congr_left ⟨fun he => ⟨u, hmem, rfl, he⟩, ?_⟩
    rintro ⟨v, hv, hkey, he⟩
    obtain rfl := List.inj_on_of_nodup_map hnodup hv hmem hkey
    exact he
  · rename_i hnone
    split at h
    · obtain rfl := Option.some.inj h
      refine ⟨rfl, fun e => ?_⟩
      rw [mem_entriesOf, Lists]
      refine or_congr_left (iff_of_false List.not_mem_nil ?_)
      rintro ⟨v, hv, hkey, _⟩
      exact List.find?_eq_none.mp hnone v hv (beq_iff_eq.mpr hkey)
    · cases h

omit hnodup in
theorem exists_declared_iff : (∃ t, declared ts rows key = some t) ↔
    key ∈ ts.map TemplateDefinition.key ∨ key ∈ rows.map TemplateRow.template := by
  have hrow : (rows.any fun r => r.template == key) = true ↔
      key ∈ rows.map TemplateRow.template := by simp
  rw [declared, ← hrow]
  cases hf : ts.find? fun t => t.key == key with
  | some u =>
    have hkey : u.key = key := by simpa using List.find?_some hf
    exact iff_of_true ⟨u, rfl⟩ (.inl (List.mem_map.mpr ⟨u, List.mem_of_find?_eq_some hf, hkey⟩))
  | none =>
    have hno : key ∉ ts.map TemplateDefinition.key := by
      intro hm
      obtain ⟨u, hu, rfl⟩ := List.mem_map.mp hm
      exact List.find?_eq_none.mp hf u hu (beq_self_eq_true u.key)
    rw [or_iff_right hno]
    dsimp only
    split
    · rename_i h
      exact iff_of_true ⟨_, rfl⟩ h
    · rename_i h
      refine iff_of_false ?_ h
      rintro ⟨_, hno⟩
      cases hno

/-! ## Catalogs -/

omit hnodup in
theorem mem_all (key : TemplateKey) : key ∈ Vocabulary.all (α := TemplateKey) := by
  cases key <;> decide

/-- Where no key is defined twice, a catalog can be built if all that is listed stands for something. -/
theorem exists_mapM_finish_iff :
    (∃ us, ((Vocabulary.all (α := TemplateKey)).filterMap (declared ts rows)).mapM
      (finish traits rows) = .ok us) ↔
    ∀ key e, Lists ts rows key e → ∃ n, e.StandsFor traits n := by
  rw [Result.exists_mapM_ok_iff]
  simp only [exists_finish_iff]
  constructor
  · intro h key e he
    have hnamed : key ∈ ts.map TemplateDefinition.key ∨ key ∈ rows.map TemplateRow.template := by
      rcases he with ⟨t, ht, rfl, _⟩ | ⟨r, hr, rfl, _⟩
      · exact .inl (List.mem_map_of_mem ht)
      · exact .inr (List.mem_map_of_mem hr)
    obtain ⟨t, ht⟩ := exists_declared_iff.mpr hnamed
    have hmem := List.mem_filterMap.mpr ⟨key, mem_all key, ht⟩
    exact h t hmem e (((declared_eq_some hnodup ht).2 e).mpr he)
  · intro h t ht e he
    obtain ⟨key, _, hkey⟩ := List.mem_filterMap.mp ht
    exact h key e (((declared_eq_some hnodup hkey).2 e).mp he)

/-- The templates come in the order of their keys. -/
theorem keys_sublist : (((Vocabulary.all (α := TemplateKey)).filterMap (declared ts rows)).map
    TemplateDefinition.key).Sublist Vocabulary.all := by
  generalize Vocabulary.all (α := TemplateKey) = keys
  induction keys with
  | nil => exact .slnil
  | cons key r ih =>
    cases hkey : declared ts rows key with
    | none =>
      rw [List.filterMap_cons_none hkey]
      exact ih.cons key
    | some t =>
      rw [List.filterMap_cons_some hkey, List.map_cons, (declared_eq_some hnodup hkey).1]
      exact ih.cons_cons key

omit hnodup

theorem build_ok {c : TemplateCatalog} (h : build traits ts rows = .ok c) :
    (ts.map TemplateDefinition.key).Nodup ∧
      ((Vocabulary.all (α := TemplateKey)).filterMap (declared ts rows)).mapM
        (finish traits rows) = .ok c.definitions := by
  obtain ⟨_, hkeys, h⟩ := Result.bind_ok h
  obtain ⟨us, hus, h⟩ := Result.bind_ok h
  obtain rfl := Result.pure_ok h
  exact ⟨checkKeys_nil_ok_iff.mp hkeys, hus⟩

theorem exists_build_iff : (∃ c, build traits ts rows = .ok c) ↔
    (ts.map TemplateDefinition.key).Nodup ∧
      ∀ key e, Lists ts rows key e → ∃ n, e.StandsFor traits n := by
  constructor
  · rintro ⟨c, h⟩
    obtain ⟨hnodup, hus⟩ := build_ok h
    exact ⟨hnodup, (exists_mapM_finish_iff hnodup).mp ⟨_, hus⟩⟩
  · rintro ⟨hnodup, hall⟩
    obtain ⟨us, hus⟩ := (exists_mapM_finish_iff hnodup).mpr hall
    refine ⟨⟨us⟩, ?_⟩
    rw [build, checkKeys_nil_ok_iff.mpr hnodup]
    show (List.mapM (finish traits rows) _ >>= _) = _
    rw [hus]
    rfl

theorem follows_of_build {d : Delimiters} {glyph : String} {defs : List TraitDefinition}
    (htraits : TraitCatalog.build d glyph defs = .ok traits) {c : TemplateCatalog}
    (h : build traits ts rows = .ok c) : Follows traits ts rows c := by
  obtain ⟨hnodup, hus⟩ := build_ok h
  have hkeys : c.definitions.map TemplateDefinition.key =
      ((Vocabulary.all (α := TemplateKey)).filterMap (declared ts rows)).map
        TemplateDefinition.key :=
    Result.map_of_mapM_ok hus fun _ _ hf => key_of_finish hf
  have hgranted : ∀ u ∈ c.definitions, ∀ x, x ∈ u.traitIds ↔
      ∃ e n, Lists ts rows u.key e ∧ e.StandsFor traits n ∧ traits.Reaches n x := by
    intro u hu x
    obtain ⟨t, ht, hf⟩ := Result.mem_of_mapM_ok hus hu
    obtain ⟨key, _, hkey⟩ := List.mem_filterMap.mp ht
    obtain ⟨rfl, hlists⟩ := declared_eq_some hnodup hkey
    rw [mem_traitIds_of_finish hf, key_of_finish hf]
    simp only [hlists, exists_and_left]
  refine ⟨fun key => ?_, ?_, fun u hu => ?_, hgranted, fun u hu x hx => ?_⟩
  · rw [hkeys, ← exists_declared_iff, List.mem_map]
    constructor
    · rintro ⟨t, ht, rfl⟩
      obtain ⟨key, _, hkey⟩ := List.mem_filterMap.mp ht
      rw [(declared_eq_some hnodup hkey).1]
      exact ⟨t, hkey⟩
    · rintro ⟨t, ht⟩
      exact ⟨t, List.mem_filterMap.mpr ⟨key, mem_all key, ht⟩, (declared_eq_some hnodup ht).1⟩
  · rw [hkeys]
    have hall : Ascending ((Vocabulary.all (α := TemplateKey)).map Vocabulary.code) := by decide
    exact hall.sublist ((keys_sublist hnodup).map Vocabulary.code)
  · obtain ⟨t, _, hf⟩ := Result.mem_of_mapM_ok hus hu
    exact ascending_of_finish hf
  · obtain ⟨e, n, _, hstands, hway⟩ := (hgranted u hu x).mp hx
    exact (TraitCatalog.build_coherent htraits).contains_of_reaches (standsFor_contains hstands) hway

end

/-- Templates can not be built exactly where a key is defined twice or something that is listed stands
for nothing; else they grant what the data say. -/
theorem build_follows {d : Delimiters} {glyph : String} {defs : List TraitDefinition}
    {traits : TraitCatalog} (htraits : TraitCatalog.build d glyph defs = .ok traits)
    (ts : List TemplateDefinition) (rows : List TemplateRow) :
    ((∃ f, build traits ts rows = .error f) ↔ ¬ (ts.map TemplateDefinition.key).Nodup ∨
      ∃ key e, Lists ts rows key e ∧ ∀ n, ¬ e.StandsFor traits n) ∧
    ∀ c, build traits ts rows = .ok c → Follows traits ts rows c := by
  refine ⟨?_, fun c => follows_of_build htraits⟩
  rw [Result.exists_error_iff, exists_build_iff, not_and_or]
  push Not
  rfl

/-- A text that spells an ID is the name of another trait, a template is made by rows alone, and below
its traits there are circles. A text that is no name and spells no known ID stops it all. -/
theorem build_follows_tangled :
    (∃ c, build .tangledCatalog Engine.tangledRuleset.templates Engine.tangledRuleset.rows = .ok c ∧
      Follows .tangledCatalog Engine.tangledRuleset.templates Engine.tangledRuleset.rows c ∧
      c.definitions.map (fun t => (t.key, t.traitIds)) =
        [(.mortal, [1, 2, 4]), (.fae, [1, 2, 3, 4]), (.mage, [1, 2, 4])]) ∧
    ∃ f, build .tangledCatalog
      [{ TemplateDefinition.small .mage [4] with traits := [.name " 4 ", .name "9"] }] [] =
        .error f := by
  constructor
  · exact ⟨_, rfl, (build_follows TraitCatalog.build_tangled _ _).2 _ rfl, rfl⟩
  · refine (build_follows TraitCatalog.build_tangled _ _).1.mpr (.inr ⟨.mage, .name "9", ?_, ?_⟩)
    · exact .inl ⟨_, List.mem_cons_self, rfl, List.mem_cons_of_mem _ List.mem_cons_self⟩
    · intro n hn
      obtain ⟨ids, hok⟩ := exists_resolveEntry_iff (t := bare .mage).mpr ⟨n, hn⟩
      cases hok

end TemplateCatalog

end CharacterSheet
