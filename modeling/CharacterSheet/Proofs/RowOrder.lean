import CharacterSheet.Engine
import CharacterSheet.Proofs.Parentage

/-! The order of the records of a ruleset does not matter. No pass over the records asks which of
them came first: what two of them would contend for is refused in either order, names and keys are
looked up where they stand only once, and what is collected is sorted. So each pass over reordered
records succeeds if it did before, and the passes end in the same catalogs. -/

namespace CharacterSheet

namespace TraitCatalog

/-! ## Traits -/

theorem childrenOf_eq_of_perm {ds ds' : List Draft} (hp : ds.Perm ds') (id : Int) :
    childrenOf ds id = childrenOf ds' id := by
  apply (sortIds_ascending _).ext (sortIds_ascending _)
  intro n
  rw [mem_sortIds, mem_sortIds]
  exact ((hp.filter _).map _).mem_iff

theorem isKnown_eq_of_perm {ds ds' : List Draft} (hp : ds.Perm ds') (id : Int) :
    isKnown ds id = isKnown ds' id := by
  rw [Bool.eq_iff_iff, isKnown_iff, isKnown_iff]
  simp only [hp.mem_iff]

/-- Settling looks up names and IDs and nothing else. -/
theorem settleDraft_congr {mains mains' : Table String Int} {ds ds' : List Draft}
    (hmains : ∀ s, mains.get? s = mains'.get? s) (hknown : ∀ n, isKnown ds n = isKnown ds' n)
    (glyph : String) : settleDraft glyph mains ds = settleDraft glyph mains' ds' := by
  have hparent : resolveParent mains ds = resolveParent mains' ds' := by
    funext d parent
    cases parent <;> simp only [resolveParent, hmains, hknown]
  have hsettle : settle glyph mains ds = settle glyph mains' ds' := by
    funext d x
    cases x with
    | subTrait parent => simp only [settle, hparent]
    | powerLevel level => cases level <;> rfl
    | _ => rfl
  funext d
  simp only [settleDraft, hsettle]

/-- Reordered traits pass wherever the traits do, to reordered drafts and to the same names. -/
theorem Passed.reordered {d : Delimiters} {glyph : String} {ts ts' : List TraitDefinition}
    {drafts settled : List Draft} {mains : Table String Int}
    (h : Passed d glyph ts drafts mains settled) (hp : ts.Perm ts') :
    ∃ drafts' mains' settled', Passed d glyph ts' drafts' mains' settled' ∧
      settled.Perm settled' ∧ ∀ s, mains.get? s = mains'.get? s := by
  have hids := h.ids
  have hids' : checkIds [] ts' = .ok () := by
    rw [checkIds_nil_ok_iff] at hids ⊢
    exact (hp.map TraitDefinition.id).nodup_iff.mp hids
  obtain ⟨drafts', hdrafted, hdrafts⟩ := Result.mapM_perm hp h.drafted
  have hclaims : ∀ n i, mains.get? n = some i ↔
      (Table.empty : Table String Int).get? n = some i ∨
        (n, i) ∈ drafts'.flatMap fun d => (mainNames d).map (·, d.id) := by
    intro n i
    rw [claimAll_ok h.named, (hdrafts.flatMap_right _).mem_iff]
  obtain ⟨mains', hnamed⟩ := claimAll_of_agree fun n i j hi hj =>
    Option.some.inj (((hclaims n i).mpr hi).symm.trans ((hclaims n j).mpr hj))
  have hmains : ∀ s, mains.get? s = mains'.get? s := by
    intro s
    ext i
    rw [hclaims, claimAll_ok hnamed]
  have hsettle := settleDraft_congr hmains (isKnown_eq_of_perm hdrafts) glyph
  obtain ⟨settled', hresolved, hsettled⟩ := Result.mapM_perm hdrafts h.resolved
  refine ⟨drafts', mains', settled', ⟨hids', hdrafted, hnamed, hsettle ▸ hresolved, ?_⟩,
    hsettled, hmains⟩
  rw [Result.forM_ok_iff]
  intro s hs
  have hdeclared := Result.forM_ok_iff.mp h.declared s (hsettled.mem_iff.mpr hs)
  rw [checkDeclared_ok_iff] at hdeclared ⊢
  rwa [← childrenOf_eq_of_perm hsettled]

theorem build_of_perm {d : Delimiters} {glyph : String} {ts ts' : List TraitDefinition}
    {c : TraitCatalog} (hp : ts.Perm ts') (h : build d glyph ts = .ok c) :
    ∃ c', build d glyph ts' = .ok c' ∧ c.definitions = c'.definitions ∧
      ∀ s, c.mainTraits.get? s = c'.mainTraits.get? s := by
  obtain ⟨drafts, mains, settled, hpassed, rfl⟩ := build_ok h
  obtain ⟨drafts', mains', settled', hpassed', hsettled, hmains⟩ := hpassed.reordered hp
  refine ⟨_, hpassed'.build, ?_, hmains⟩
  have hfinish : finish settled = finish settled' := by
    funext s
    rw [finish, finish, childrenOf_eq_of_perm hsettled]
  show sortDefinitions _ = sortDefinitions _
  rw [← hfinish]
  apply sortDefinitions_eq_of_perm (hsettled.map _)
  rw [List.map_map]
  exact hpassed.nodup

theorem closure_eq_of_perm (c : TraitCatalog) {ids ids' : List Int} (hp : ids.Perm ids') :
    c.closure ids = c.closure ids' := by
  have hstart : sortIds ids = sortIds ids' :=
    (sortIds_ascending _).ext (sortIds_ascending _) fun n => by
      rw [mem_sortIds, mem_sortIds, hp.mem_iff]
  rw [closure, closure, hstart]

theorem closure_congr {c c' : TraitCatalog} (h : c.definitions = c'.definitions) :
    c.closure = c'.closure := by
  have hdiscover : c.discover = c'.discover := by
    obtain ⟨definitions, mains⟩ := c
    obtain ⟨_, mains'⟩ := c'
    cases h
    rfl
  have hclose : ∀ n, c.closeWithin n = c'.closeWithin n := by
    intro n
    induction n with
    | zero => rfl
    | succ n ih =>
      funext found frontier
      rw [closeWithin, closeWithin, hdiscover, ih]
  funext ids
  rw [closure, closure, hclose, h]

end TraitCatalog

namespace TemplateCatalog

/-! ## Templates -/

theorem checkKeys_nil_ok_iff {ts : List TemplateDefinition} :
    checkKeys [] ts = .ok () ↔ (ts.map TemplateDefinition.key).Nodup := by
  refine Result.distinct_ok_iff (fun _ => rfl) fun seen t r => ?_
  have hfound : (seen.any fun s => s.key == t.key) = true ↔
      t.key ∈ seen.map TemplateDefinition.key := by simp
  rw [checkKeys]
  split
  · rename_i hf
    exact iff_of_false nofun fun h => h.1 (hfound.mp hf)
  · rename_i hf
    exact (and_iff_right fun h => hf (hfound.mpr h)).symm

section

variable {ts ts' : List TemplateDefinition} {rows rows' : List TemplateRow}

/-- Where no key stands twice, a key leads to the one template that bears it. -/
theorem find?_key_eq_some_iff (h : (ts.map TemplateDefinition.key).Nodup) {key : TemplateKey}
    {t : TemplateDefinition} : ts.find? (fun t => t.key == key) = some t ↔ t ∈ ts ∧ t.key = key := by
  constructor
  · exact fun hf => ⟨List.mem_of_find?_eq_some hf, by simpa using List.find?_some hf⟩
  · rintro ⟨ht, rfl⟩
    cases hf : ts.find? fun u => u.key == t.key with
    | none => exact absurd (beq_self_eq_true t.key) (List.find?_eq_none.mp hf t ht)
    | some u =>
      have hu : u.key = t.key := by simpa using List.find?_some hf
      rw [List.inj_on_of_nodup_map h (List.mem_of_find?_eq_some hf) ht hu]

theorem find?_eq_of_perm (hp : ts.Perm ts') (h : (ts.map TemplateDefinition.key).Nodup)
    (key : TemplateKey) :
    ts.find? (fun t => t.key == key) = ts'.find? fun t => t.key == key := by
  ext t
  rw [find?_key_eq_some_iff h, find?_key_eq_some_iff ((hp.map _).nodup_iff.mp h), hp.mem_iff]

theorem declared_eq_of_perm (hp : ts.Perm ts') (hr : rows.Perm rows')
    (h : (ts.map TemplateDefinition.key).Nodup) : declared ts rows = declared ts' rows' := by
  funext key
  rw [declared, declared, find?_eq_of_perm hp h, hr.any_eq]

variable {traits traits' : TraitCatalog} {t u : TemplateDefinition}

/-- Entries are looked up in the definitions of a catalog, and main traits do not count. -/
theorem finish_congr (h : traits.definitions = traits'.definitions) (rows : List TemplateRow) :
    finish traits rows = finish traits' rows := by
  have hclosure := TraitCatalog.closure_congr h
  obtain ⟨definitions, mains⟩ := traits
  obtain ⟨_, mains'⟩ := traits'
  cases h
  funext t
  rw [finish, finish, hclosure]
  rfl

theorem finish_of_perm (hr : rows.Perm rows') (h : finish traits rows t = .ok u) :
    finish traits rows' t = .ok u := by
  obtain ⟨ids, hids, h⟩ := Result.bind_ok h
  obtain rfl := Result.pure_ok h
  have hentries : (entriesOf rows t).Perm (entriesOf rows' t) :=
    ((hr.filter _).map _).append_left t.traits
  obtain ⟨ids', hids', hperm⟩ := Result.mapM_perm hentries hids
  rw [finish, hids', traits.closure_eq_of_perm hperm.flatten]
  rfl

theorem build_of_perm {c : TemplateCatalog} (hp : ts.Perm ts') (hr : rows.Perm rows')
    (ht : traits.definitions = traits'.definitions) (h : build traits ts rows = .ok c) :
    build traits' ts' rows' = .ok c := by
  obtain ⟨_, hkeys, h⟩ := Result.bind_ok h
  obtain ⟨finished, hfinished, h⟩ := Result.bind_ok h
  obtain rfl := Result.pure_ok h
  have hnodup := checkKeys_nil_ok_iff.mp hkeys
  have hkeys' := checkKeys_nil_ok_iff.mpr
    ((hp.map TemplateDefinition.key).nodup_iff.mp hnodup)
  have hfinished' := Result.mapM_of_forall₂
    ((Result.mapM_ok hfinished).imp fun _ _ hf => finish_of_perm hr hf)
  rw [declared_eq_of_perm hp hr hnodup, finish_congr ht] at hfinished'
  rw [build, hkeys']
  show (List.mapM (finish traits' rows') _ >>= _) = _
  rw [hfinished']
  rfl

end

end TemplateCatalog

namespace PathCatalog

/-! ## Paths -/

section

variable {c c' : PathCatalog} {ps ps' : List MoralPath}

theorem foldlM_add_ok (h : ps.foldlM add c = .ok c') (n : String) (p : MoralPath) :
    c'.get? n = some p ↔ c.get? n = some p ∨ p ∈ ps ∧ p.name = n := by
  induction ps generalizing c with
  | nil =>
    cases h
    simp
  | cons q r ih =>
    rw [List.foldlM_cons] at h
    obtain ⟨b, hb, h⟩ := Result.bind_ok h
    unfold add at hb
    split at hb
    · cases hb
    · rename_i hfree
      cases hb
      rw [ih h, Table.get?_insert, List.mem_cons]
      split
      · rename_i hn
        have hnone : c.get? n = none := by
          rw [hn]
          simpa [Table.contains] using hfree
        rw [hnone, hn]
        grind
      · rename_i hn
        grind

/-- No name stands twice, and none that was there before. -/
def Fresh (c : PathCatalog) (ps : List MoralPath) : Prop :=
  (ps.map MoralPath.name).Nodup ∧ ∀ p ∈ ps, c.get? p.name = none

theorem foldlM_add_ok_iff : (∃ c', ps.foldlM add c = .ok c') ↔ c.Fresh ps := by
  induction ps generalizing c with
  | nil => exact iff_of_true ⟨c, rfl⟩ ⟨List.nodup_nil, nofun⟩
  | cons q r ih =>
    rw [List.foldlM_cons, add]
    split
    · rename_i htaken
      refine iff_of_false (fun ⟨_, h⟩ => nomatch h) fun h => ?_
      rw [Table.contains, h.2 q List.mem_cons_self] at htaken
      cases htaken
    · rename_i hfree
      have hnone : c.get? q.name = none := by simpa [Table.contains] using hfree
      show (∃ c', r.foldlM add (c.insert q.name q) = .ok c') ↔ _
      rw [ih, Fresh, Fresh, List.map_cons, List.nodup_cons, List.mem_map]
      simp only [Table.get?_insert]
      grind

theorem build_of_perm (hp : ps.Perm ps') (h : build ps = .ok c) :
    ∃ c', build ps' = .ok c' ∧ ∀ n, c.get? n = c'.get? n := by
  have hfresh := foldlM_add_ok_iff.mp ⟨c, h⟩
  obtain ⟨c', h'⟩ := foldlM_add_ok_iff.mpr
    (⟨(hp.map MoralPath.name).nodup_iff.mp hfresh.1, fun _ _ => rfl⟩ : Fresh .empty ps')
  refine ⟨c', h', fun n => ?_⟩
  ext p
  rw [foldlM_add_ok h, foldlM_add_ok h', hp.mem_iff]

end

end PathCatalog

/-! ## Engines -/

/-- The same settings with the same records, the records of each kind in an order of their own. -/
structure Ruleset.Reordered (r s : Ruleset) : Prop where
  traits : r.traits.Perm s.traits
  templates : r.templates.Perm s.templates
  rows : r.rows.Perm s.rows
  paths : r.paths.Perm s.paths
  settings : s = { r with
    traits := s.traits, templates := s.templates, rows := s.rows, paths := s.paths }

theorem Ruleset.Reordered.symm {r s : Ruleset} (h : r.Reordered s) : s.Reordered r := by
  refine ⟨h.traits.symm, h.templates.symm, h.rows.symm, h.paths.symm, ?_⟩
  rw [h.settings]

/-- Two engines tell the same of every trait, name, template and path. The traits and the templates
also stand in the same order. -/
structure Engine.SameCatalogs (e f : Engine) : Prop where
  traits : e.traits.definitions = f.traits.definitions
  mainTraits : ∀ name, e.traits.mainTraits.get? name = f.traits.mainTraits.get? name
  names : ∀ name, e.traits.idsForName name = f.traits.idsForName name
  templates : e.templates.definitions = f.templates.definitions
  paths : ∀ name, e.paths.get? name = f.paths.get? name

namespace Engine

theorem build_of_reordered {r s : Ruleset} (h : r.Reordered s) {e : Engine}
    (he : build r = .ok e) : ∃ f, build s = .ok f ∧ SameCatalogs e f := by
  obtain ⟨traits, ht, he⟩ := Result.bind_ok he
  obtain ⟨templates, hk, he⟩ := Result.bind_ok he
  obtain ⟨paths, hp, he⟩ := Result.bind_ok he
  obtain rfl := Result.pure_ok he
  obtain ⟨traits', ht', hdefinitions, hmains⟩ := TraitCatalog.build_of_perm h.traits ht
  have hk' := TemplateCatalog.build_of_perm h.templates h.rows hdefinitions hk
  obtain ⟨paths', hp', hpaths⟩ := PathCatalog.build_of_perm h.paths hp
  refine ⟨⟨s, traits', templates, paths'⟩, ?_, hdefinitions, hmains, ?_, rfl, hpaths⟩
  · have hdelimiters : s.delimiters = r.delimiters := by rw [h.settings]; rfl
    have hglyph : s.levelGlyph = r.levelGlyph := by rw [h.settings]
    rw [build, hdelimiters, hglyph, ht']
    show (TemplateCatalog.build traits' s.templates s.rows >>= _) = _
    rw [hk']
    show (PathCatalog.build s.paths >>= _) = _
    rw [hp']
    rfl
  · intro name
    show traits.idsForName name = traits'.idsForName name
    rw [TraitCatalog.idsForName, hdefinitions]
    rfl

/-- Whether an engine can be built, and what it then tells, does not depend on the order of the
records. -/
theorem build_reordered {r s : Ruleset} (h : r.Reordered s) :
    (∃ e f, build r = .ok e ∧ build s = .ok f ∧ SameCatalogs e f) ∨
      ∃ x y, build r = .error x ∧ build s = .error y := by
  cases hr : build r with
  | ok e =>
    obtain ⟨f, hf, hsame⟩ := build_of_reordered h hr
    exact .inl ⟨e, f, rfl, hf, hsame⟩
  | error x =>
    cases hs : build s with
    | ok f =>
      obtain ⟨e, he, _⟩ := build_of_reordered h.symm hs
      rw [hr] at he
      cases he
    | error y => exact .inr ⟨x, y, rfl, rfl⟩

/-- Children stand before and after their parents, rows alone make a template, and a template names a
trait whose name spells another's ID. -/
def tangledRuleset : Ruleset :=
  { Ruleset.small TraitCatalog.tangledTraits
      [{ TemplateDefinition.small .mage [1] with traits := [.name "3", .id 1] },
        .small .mortal [4]] with
    rows := [⟨none, .fae, 3⟩, ⟨none, .mortal, 1⟩, ⟨none, .fae, 2⟩]
    paths := [⟨none, "Humanity", "", "", []⟩, ⟨none, "Blood", "", "", []⟩] }

def reversedRuleset : Ruleset :=
  { tangledRuleset with
    traits := tangledRuleset.traits.reverse
    templates := tangledRuleset.templates.reverse
    rows := tangledRuleset.rows.reverse
    paths := tangledRuleset.paths.reverse }

theorem reordered_reversed : tangledRuleset.Reordered reversedRuleset :=
  ⟨(List.reverse_perm _).symm, (List.reverse_perm _).symm, (List.reverse_perm _).symm,
    (List.reverse_perm _).symm, rfl⟩

theorem build_reordered_tangled : ∃ e f, build tangledRuleset = .ok e ∧
    build reversedRuleset = .ok f ∧ SameCatalogs e f ∧
    f.templates.definitions.map (fun t => (t.key, t.traitIds)) =
      [(.mortal, [1, 2, 4]), (.fae, [1, 2, 3, 4]), (.mage, [1, 2, 4])] := by
  rcases build_reordered reordered_reversed with ⟨e, f, he, hf, hsame⟩ | ⟨x, _, hx, _⟩
  · refine ⟨e, f, he, hf, hsame, ?_⟩
    cases hf
    rfl
  · cases hx

end Engine

end CharacterSheet
