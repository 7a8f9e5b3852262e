import CharacterSheet.Proofs.Ascending
import CharacterSheet.Proofs.IntegerText
import CharacterSheet.Proofs.Result

/-! What building a trait catalog makes sure of: no ID stands twice, every parent is an ID, the
subtraits of a trait are exactly those whose directives name it, and of every variable name and every
label it can be told if it is an integer. Each pass keeps the definitions of the drafts in their order,
so what one pass establishes still holds of the drafts of the next. -/

namespace CharacterSheet

theorem Table.mem_of_get?_ofList {κ ν : Type} [DecidableEq κ] {l : List (κ × ν)} {k : κ} {v : ν}
    (h : (ofList l).get? k = some v) : (k, v) ∈ l := by
  suffices gen : ∀ (l : List (κ × ν)) (t : Table κ ν),
      (l.foldl (fun t p => t.insert p.1 p.2) t).get? k = some v → t.get? k = some v ∨ (k, v) ∈ l by
    exact (gen l empty h).resolve_left nofun
  intro l
  induction l with
  | nil => exact fun t ht => .inl ht
  | cons p r ih =>
    intro t ht
    rcases ih _ ht with ht | hm
    · rw [get?_insert] at ht
      split at ht
      · rename_i hk
        cases ht
        exact .inr (hk ▸ List.mem_cons_self)
      · exact .inl ht
    · exact .inr (List.mem_cons_of_mem _ hm)

/-! ## Words in rules -/

/-- The names that a rule takes and the labels that it puts in the place of a value. -/
def Directive.words : Directive → List String
  | .isVariable name => [name]
  | .derivedSwitch _ labels => labels.values
  | _ => []

theorem mem_of_mem_switchPairs {args : List String} {k v : String}
    (h : (k, v) ∈ switchPairs args) : v ∈ args := by
  induction args using switchPairs.induct with
  | case1 x y r ih =>
    rw [switchPairs] at h
    rcases List.mem_cons.mp h with he | h
    · cases he
      exact List.mem_cons_of_mem _ List.mem_cons_self
    · exact List.mem_cons_of_mem _ (List.mem_cons_of_mem _ (ih h))
  | case2 args hne =>
    rw [switchPairs.eq_def] at h
    split at h
    · exact absurd rfl (hne _ _ _)
    · cases h

theorem mem_of_mem_switchOf {args : List String} {w : String} (h : w ∈ (switchOf args).values) :
    w ∈ args := by
  obtain ⟨⟨k, v⟩, he, rfl⟩ := List.mem_map.mp h
  exact mem_of_mem_switchPairs (Table.mem_of_get?_ofList (Table.get?_eq_some_iff.mpr he))

namespace Directive

variable {d : Delimiters} {w : String} {x : Directive}

theorem keyword_of_make {k : Keyword} {args : List String} (h : make d k args = .ok x) :
    x.keyword = k := by
  cases k <;> simp only [make] at h
  case derivedInteger => cases hf : Formula.ofTokens? args <;> rw [hf] at h <;> cases h; rfl
  case powerLevel =>
    split at h
    · cases h
      rfl
    · split at h <;> cases h
      rfl
  case minMax | isVariable | subTrait =>
    split at h <;> cases h
    rfl
  all_goals
    cases h
    rfl

theorem words_of_make {k : Keyword} {args : List String} (h : make d k args = .ok x)
    (hw : w ∈ x.words) : w ∈ args := by
  obtain rfl := keyword_of_make h
  cases x with
  | isVariable name =>
    simp only [keyword, make] at h
    split at h
    · cases h
    · rename_i hne
      cases h
      obtain rfl := List.mem_singleton.mp hw
      cases args with
      | nil => exact absurd rfl hne
      | cons a r => exact List.mem_cons_self
  | derivedSwitch source labels =>
    cases h
    exact List.mem_of_mem_drop (mem_of_mem_switchOf hw)
  | _ => cases hw

/-- Tokens that spell a directive are its keyword and as many arguments as it needs. -/
theorem make_of_ofTokens? {tokens : List String} (h : ofTokens? d tokens = .ok (some x)) :
    ∃ k args, tokens = k.word :: args ∧ k.needed ≤ args.length ∧ make d k args = .ok x := by
  cases tokens with
  | nil => cases h
  | cons word args =>
    rw [ofTokens?] at h
    split at h
    · rename_i k hk
      obtain rfl : k.word = word := by simpa using List.find?_some hk
      cases hx : ofArgs? d k args with
      | error e => rw [hx] at h; cases h
      | ok y =>
        rw [hx] at h
        cases h
        rw [ofArgs?] at hx
        split at hx
        · cases hx
        · exact ⟨k, args, rfl, by omega, hx⟩
    · cases h

theorem words_of_ofTokens? {tokens : List String} (h : ofTokens? d tokens = .ok (some x))
    (hw : w ∈ x.words) : w ∈ tokens := by
  obtain ⟨k, args, rfl, _, hmake⟩ := make_of_ofTokens? h
  exact List.mem_cons_of_mem _ (words_of_make hmake hw)

end Directive

/-- Each directive is what the tokens of some chunk spell. -/
theorem chunk_of_mem_directivesOf {d : Delimiters} {chunks : List String} {ds : List Directive}
    (h : directivesOf d chunks = .ok ds) {x : Directive} (hx : x ∈ ds) :
    ∃ s ∈ chunks, ∃ tokens, Rule.tokensOf d s = .ok tokens ∧
      Directive.ofTokens? d tokens = .ok (some x) := by
  induction chunks generalizing ds with
  | nil => cases h; cases hx
  | cons c r ih =>
    have hbefore (ds : List Directive) (h : directivesOf d r = .ok ds) (hx : x ∈ ds) :
        ∃ s ∈ c :: r, ∃ tokens, Rule.tokensOf d s = .ok tokens ∧
          Directive.ofTokens? d tokens = .ok (some x) := by
      obtain ⟨s, hs, hspelled⟩ := ih h hx
      exact ⟨s, List.mem_cons_of_mem c hs, hspelled⟩
    unfold directivesOf at h
    split at h
    · exact hbefore ds h hx
    · obtain ⟨tokens, ht, h⟩ := Result.bind_ok h
      obtain ⟨y, hy, h⟩ := Result.bind_ok h
      cases y with
      | none => exact hbefore ds h hx
      | some y =>
        obtain ⟨rest, hr, h⟩ := Result.bind_ok h
        obtain rfl := Result.pure_ok h
        rcases List.mem_cons.mp hx with rfl | hx
        · refine ⟨c, List.mem_cons_self, tokens, ht, ?_⟩
          cases ho : Directive.ofTokens? d tokens <;> rw [ho] at hy <;> cases hy
          rfl
        · exact hbefore rest hr hx

/-- Each directive is what trimmed tokens spell. -/
theorem mem_directivesOf {d : Delimiters} {chunks : List String} {ds : List Directive}
    (h : directivesOf d chunks = .ok ds) {x : Directive} (hx : x ∈ ds) :
    ∃ parts : List String, Directive.ofTokens? d (parts.map Text.trim) = .ok (some x) := by
  obtain ⟨_, _, tokens, ht, ho⟩ := chunk_of_mem_directivesOf h hx
  obtain ⟨parts, _, ht⟩ := Result.bind_ok ht
  obtain rfl := Result.pure_ok ht
  exact ⟨parts, ho⟩

theorem trim_of_mem_directivesOf {d : Delimiters} {chunks : List String} {ds : List Directive}
    (h : directivesOf d chunks = .ok ds) {x : Directive} (hx : x ∈ ds) {w : String}
    (hw : w ∈ x.words) : Text.trim w = w := by
  obtain ⟨parts, hparts⟩ := mem_directivesOf h hx
  obtain ⟨part, _, rfl⟩ := List.mem_map.mp (Directive.words_of_ofTokens? hparts hw)
  exact Text.trim_trim part

theorem Rule.trim_of_mem_directives {d : Delimiters} {rule : Rule} {ds : List Directive}
    (h : rule.directives d = .ok ds) {x : Directive} (hx : x ∈ ds) {w : String}
    (hw : w ∈ x.words) : Text.trim w = w := by
  obtain ⟨chunks, _, h⟩ := Result.bind_ok h
  exact trim_of_mem_directivesOf h hx hw

namespace TraitCatalog

/-! ## The passes -/

theorem checkIds_nil_ok_iff {ts : List TraitDefinition} :
    checkIds [] ts = .ok () ↔ (ts.map TraitDefinition.id).Nodup := by
  refine Result.distinct_ok_iff (fun _ => rfl) fun seen t r => ?_
  rw [List.mem_map, checkIds]
  split
  · rename_i s hf
    have hid : s.id = t.id := by simpa using List.find?_some hf
    exact iff_of_false nofun fun h => h.1 ⟨s, List.mem_of_find?_eq_some hf, hid⟩
  · rename_i hf
    refine (and_iff_right ?_).symm
    rintro ⟨s, hs, hid⟩
    exact List.find?_eq_none.mp hf s hs (beq_iff_eq.mpr hid)

theorem draft_of_directives {d : Delimiters} {t : TraitDefinition} {ds : List Directive}
    (h : t.rule.directives d = .ok ds) : draft d t = .ok ⟨t, ds⟩ := by
  rw [draft, h]

theorem draft_ok {d : Delimiters} {t : TraitDefinition} {dr : Draft} (h : draft d t = .ok dr) :
    dr.definition = t ∧ t.rule.directives d = .ok dr.directives := by
  unfold draft at h
  split at h
  · rename_i ds hd
    cases h
    exact ⟨rfl, hd⟩
  · cases h
  · cases h

theorem settle_ok {glyph : String} {mains : Table String Int} {ds : List Draft} {d : Draft}
    {x y : Directive} (h : settle glyph mains ds d x = .ok y) :
    (∀ p, y = .subTrait p → ∃ n, p = .id n) ∧ y.words = x.words := by
  cases x with
  | subTrait parent =>
    obtain ⟨n, _, h⟩ := Result.bind_ok h
    obtain rfl := Result.pure_ok h
    exact ⟨fun p hp => ⟨n, (Directive.subTrait.inj hp).symm⟩, rfl⟩
  | powerLevel level =>
    cases level <;> cases h <;> exact ⟨nofun, rfl⟩
  | _ => cases h; exact ⟨nofun, rfl⟩

theorem settleDraft_ok {glyph : String} {mains : Table String Int} {ds : List Draft}
    {d s : Draft} (h : settleDraft glyph mains ds d = .ok s) :
    s.definition = d.definition ∧
      ∀ y ∈ s.directives, ∃ x ∈ d.directives, settle glyph mains ds d x = .ok y := by
  obtain ⟨ys, hys, h⟩ := Result.bind_ok h
  obtain rfl := Result.pure_ok h
  exact ⟨rfl, fun y hy => Result.mem_of_mapM_ok hys hy⟩

theorem mem_parentsOf {ds : List Directive} {n : Int} :
    n ∈ parentsOf ds ↔ .subTrait (.id n) ∈ ds := by
  rw [parentsOf, List.mem_filterMap]
  constructor
  · rintro ⟨d, hd, he⟩
    split at he
    · cases he; exact hd
    · cases he
  · exact fun h => ⟨_, h, rfl⟩

theorem mem_childrenOf {ds : List Draft} {p id : Int} :
    id ∈ childrenOf ds p ↔ ∃ d ∈ ds, d.id = id ∧ .subTrait (.id p) ∈ d.directives := by
  rw [childrenOf, mem_sortIds, List.mem_map]
  constructor
  · rintro ⟨d, hd, rfl⟩
    obtain ⟨hm, hp⟩ := List.mem_filter.mp hd
    exact ⟨d, hm, rfl, mem_parentsOf.mp (by simpa using hp)⟩
  · rintro ⟨d, hd, rfl, hp⟩
    exact ⟨d, List.mem_filter.mpr ⟨hd, by simpa using mem_parentsOf.mpr hp⟩, rfl⟩

/-! ## Built catalogs -/

/-- The passes of building a catalog, each over what the ones before it have made. -/
structure Passed (d : Delimiters) (glyph : String) (ts : List TraitDefinition)
    (drafts : List Draft) (mains : Table String Int) (settled : List Draft) : Prop where
  ids : checkIds [] ts = .ok ()
  drafted : ts.mapM (draft d) = .ok drafts
  named : mainTraitsOf drafts = .ok mains
  resolved : drafts.mapM (settleDraft glyph mains drafts) = .ok settled
  declared : settled.forM (checkDeclared settled) = .ok ()

section Passes

variable {d : Delimiters} {glyph : String} {ts : List TraitDefinition} {drafts settled : List Draft}
  {mains : Table String Int}

theorem build_ok {c : TraitCatalog} (h : build d glyph ts = .ok c) :
    ∃ drafts mains settled, Passed d glyph ts drafts mains settled ∧
      c = ⟨sortDefinitions (settled.map (finish settled)), mains⟩ := by
  obtain ⟨_, hids, h⟩ := Result.bind_ok h
  obtain ⟨drafts, hdrafts, h⟩ := Result.bind_ok h
  obtain ⟨mains, hmains, h⟩ := Result.bind_ok h
  obtain ⟨settled, hsettled, h⟩ := Result.bind_ok h
  obtain ⟨_, hdeclared, h⟩ := Result.bind_ok h
  exact ⟨drafts, mains, settled, ⟨hids, hdrafts, hmains, hsettled, hdeclared⟩,
    (Result.pure_ok h).symm⟩

theorem Passed.build (h : Passed d glyph ts drafts mains settled) :
    build d glyph ts = .ok ⟨sortDefinitions (settled.map (finish settled)), mains⟩ := by
  rw [TraitCatalog.build, h.ids]
  show (ts.mapM (draft d) >>= _) = _
  rw [h.drafted]
  show (mainTraitsOf drafts >>= _) = _
  rw [h.named]
  show (drafts.mapM (settleDraft glyph mains drafts) >>= _) = _
  rw [h.resolved]
  show (settled.forM (checkDeclared settled) >>= _) = _
  rw [h.declared]
  rfl

/-- The drafts keep the definitions, in their order. -/
theorem Passed.definitions (h : Passed d glyph ts drafts mains settled) :
    drafts.map Draft.definition = ts ∧ settled.map Draft.definition = ts := by
  have hdrafts : drafts.map Draft.definition = ts.map id :=
    Result.map_of_mapM_ok h.drafted fun _ _ hd => (draft_ok hd).1
  have hsettled : settled.map Draft.definition = drafts.map Draft.definition :=
    Result.map_of_mapM_ok h.resolved fun _ _ hs => (settleDraft_ok hs).1
  rw [List.map_id] at hdrafts
  exact ⟨hdrafts, hsettled.trans hdrafts⟩

theorem Passed.nodup (h : Passed d glyph ts drafts mains settled) :
    (settled.map Draft.id).Nodup := by
  have hids : settled.map Draft.id = ts.map TraitDefinition.id := by
    rw [← h.definitions.2, List.map_map]
    rfl
  rw [hids]
  exact checkIds_nil_ok_iff.mp h.ids

end Passes

theorem mem_sorted {settled : List Draft} {t : TraitDefinition} :
    t ∈ sortDefinitions (settled.map (finish settled)) ↔ ∃ s ∈ settled, finish settled s = t := by
  rw [(sortDefinitions_perm _).mem_iff, List.mem_map]

/-- What characters rely on in a catalog. -/
structure Coherent (c : TraitCatalog) : Prop where
  ascending : Ascending (c.definitions.map TraitDefinition.id)
  resolved : ∀ t ∈ c.definitions, ∀ p, .subTrait p ∈ t.directives → ∃ n, p = .id n
  children : ∀ t ∈ c.definitions, ∀ id, id ∈ t.subtraits ↔
    ∃ u ∈ c.definitions, u.id = id ∧ .subTrait (.id t.id) ∈ u.directives
  childrenAscending : ∀ t ∈ c.definitions, Ascending t.subtraits
  words : ∀ t ∈ c.definitions, ∀ x ∈ t.directives, ∀ w ∈ x.words, ¬ Text.Separated w

theorem Coherent.not_separated {c : TraitCatalog} (hc : c.Coherent) {t : TraitDefinition}
    (ht : t ∈ c.definitions) {name : String} (hn : .isVariable name ∈ t.directives) :
    ¬ Text.Separated name := hc.words t ht _ hn name List.mem_cons_self

/-- The directives of a trait are those of its rule, settled one by one. -/
theorem build_settled {d : Delimiters} {glyph : String} {ts : List TraitDefinition}
    {c : TraitCatalog} (h : build d glyph ts = .ok c) {t : TraitDefinition}
    (ht : t ∈ c.definitions) {y : Directive} (hy : y ∈ t.directives) :
    ∃ ds, t.rule.directives d = .ok ds ∧
      ∃ x ∈ ds, ∃ mains drafts dr, settle glyph mains drafts dr x = .ok y := by
  obtain ⟨drafts, mains, settled, hpassed, rfl⟩ := build_ok h
  obtain ⟨s, hs, rfl⟩ := mem_sorted.mp ht
  obtain ⟨dr, hdr, hsettle⟩ := Result.mem_of_mapM_ok hpassed.resolved hs
  obtain ⟨t, _, hdraft⟩ := Result.mem_of_mapM_ok hpassed.drafted hdr
  obtain ⟨rfl, hread⟩ := draft_ok hdraft
  obtain ⟨hsame, hsettled⟩ := settleDraft_ok hsettle
  obtain ⟨x, hx, hsettle⟩ := hsettled y hy
  exact ⟨dr.directives, by rw [← hread, ← hsame]; rfl, x, hx, mains, drafts, dr, hsettle⟩

theorem build_trimmed {d : Delimiters} {glyph : String} {ts : List TraitDefinition}
    {c : TraitCatalog} (h : build d glyph ts = .ok c) {t : TraitDefinition}
    (ht : t ∈ c.definitions) {y : Directive} (hy : y ∈ t.directives) {w : String}
    (hw : w ∈ y.words) : Text.trim w = w := by
  obtain ⟨ds, hread, x, hx, _, _, _, hsettle⟩ := build_settled h ht hy
  exact Rule.trim_of_mem_directives hread hx ((settle_ok hsettle).2 ▸ hw)

theorem build_coherent {d : Delimiters} {glyph : String} {ts : List TraitDefinition}
    {c : TraitCatalog} (h : build d glyph ts = .ok c) : c.Coherent := by
  have ⟨drafts, mains, settled, hpassed, hc⟩ := build_ok h
  subst hc
  refine ⟨?_, ?_, ?_, ?_, ?_⟩
  · apply sortDefinitions_ascending
    rw [List.map_map]
    exact hpassed.nodup
  · intro t ht p hp
    obtain ⟨s, hs, rfl⟩ := mem_sorted.mp ht
    obtain ⟨dr, _, hdr⟩ := Result.mem_of_mapM_ok hpassed.resolved hs
    obtain ⟨x, _, hsettle⟩ := (settleDraft_ok hdr).2 _ hp
    exact (settle_ok hsettle).1 p rfl
  · intro t ht id
    obtain ⟨s, hs, rfl⟩ := mem_sorted.mp ht
    show id ∈ childrenOf settled s.id ↔ _
    rw [mem_childrenOf]
    constructor
    · rintro ⟨u, hu, hid, hp⟩
      exact ⟨finish settled u, mem_sorted.mpr ⟨u, hu, rfl⟩, hid, hp⟩
    · rintro ⟨v, hv, hid, hp⟩
      obtain ⟨u, hu, rfl⟩ := mem_sorted.mp hv
      exact ⟨u, hu, hid, hp⟩
  · intro t ht
    obtain ⟨s, _, rfl⟩ := mem_sorted.mp ht
    exact sortIds_ascending _
  · intro t ht y hy w hw
    rw [← build_trimmed h ht hy hw]
    exact Text.not_separated_trim w

section Lookup

variable {c : TraitCatalog} {id : Int} {t : TraitDefinition}

theorem id_of_get? (h : c.get? id = some t) : t.id = id := by simpa using List.find?_some h

theorem mem_of_get? (h : c.get? id = some t) : t ∈ c.definitions := List.mem_of_find?_eq_some h

theorem Coherent.get?_of_mem (hc : c.Coherent) (h : t ∈ c.definitions) :
    c.get? t.id = some t := by
  cases hf : c.get? t.id with
  | none => exact absurd (beq_self_eq_true t.id) (List.find?_eq_none.mp hf t h)
  | some u =>
    have he := id_of_get? hf
    rw [List.inj_on_of_nodup_map hc.ascending.nodup (mem_of_get? hf) h he]

theorem mem_idsForName {name : String} :
    id ∈ c.idsForName name ↔ ∃ t ∈ c.definitions, t.name = name ∧ t.id = id := by
  rw [idsForName, List.mem_map]
  simp only [List.mem_filter, beq_iff_eq, and_assoc]

/-- The children of a trait, by their own definitions. -/
theorem Coherent.mem_subtraits (hc : c.Coherent) (h : c.get? id = some t) {x : Int} :
    x ∈ t.subtraits ↔ ∃ u, c.get? x = some u ∧ .subTrait (.id id) ∈ u.directives := by
  rw [hc.children t (mem_of_get? h) x, id_of_get? h]
  constructor
  · rintro ⟨u, hu, rfl, hp⟩
    exact ⟨u, hc.get?_of_mem hu, hp⟩
  · rintro ⟨u, hu, hp⟩
    exact ⟨u, mem_of_get? hu, id_of_get? hu, hp⟩

end Lookup

end TraitCatalog

theorem Engine.build_traits {r : Ruleset} {e : Engine} (h : build r = .ok e) :
    TraitCatalog.build e.ruleset.delimiters e.ruleset.levelGlyph e.ruleset.traits =
      .ok e.traits := by
  obtain ⟨traits, hbuilt, h⟩ := Result.bind_ok h
  obtain ⟨templates, _, h⟩ := Result.bind_ok h
  obtain ⟨paths, _, h⟩ := Result.bind_ok h
  obtain rfl := Result.pure_ok h
  exact hbuilt

/-- No name or label in the rules of an engine's traits has blanks at its ends. -/
theorem Engine.trimmed {r : Ruleset} {e : Engine} (h : build r = .ok e) {t : TraitDefinition}
    (ht : t ∈ e.traits.definitions) {x : Directive} (hx : x ∈ t.directives) {w : String}
    (hw : w ∈ x.words) : Text.trim w = w :=
  TraitCatalog.build_trimmed (build_traits h) ht hx hw

theorem Engine.coherent {r : Ruleset} {e : Engine} (h : build r = .ok e) : e.traits.Coherent :=
  TraitCatalog.build_coherent (build_traits h)

end CharacterSheet
