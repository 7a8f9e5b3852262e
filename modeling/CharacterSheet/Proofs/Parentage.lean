import CharacterSheet.Proofs.Run
import CharacterSheet.Proofs.TraitCatalog

/-! Parents and children in a built catalog. Two traits never claim one main-trait name, so a name
that is claimed means one trait; a `SUBTRAIT` that names nothing claimed spells an ID. Either way its
parent stands in the catalog, and a trait's children are exactly the traits that name it. -/

namespace CharacterSheet

/-- The name under which a directive makes a trait a main trait: its group, or else the trait's own.
-/
def Directive.mainName? (own : String) : Directive → Option String
  | .mainTraitMax group | .mainTraitCount group =>
    some ((group.filter fun g => !g.isEmpty).getD own)
  | _ => none

namespace TraitDefinition

/-- Some directive of the trait's rule makes it the main trait of a name. -/
def IsMain (d : Delimiters) (t : TraitDefinition) (name : String) : Prop :=
  ∃ xs, t.rule.directives d = .ok xs ∧ ∃ x ∈ xs, x.mainName? t.name = some name

end TraitDefinition

/-- A directive of a rule and what it is in the catalog. Names of parents are replaced by what they
mean, and missing power levels by the given one. -/
inductive Directive.Settles (means : String → Int → Prop) (level : Int) :
    Directive → Directive → Prop
  | parent {s : String} {p : Int} (h : means s p) :
    Settles means level (.subTrait (.name s)) (.subTrait (.id p))
  | level : Settles means level (.powerLevel none) (.powerLevel (some level))
  | same {x : Directive} (hparent : ∀ p, x ≠ .subTrait p) (hlevel : x ≠ .powerLevel none) :
    Settles means level x x

theorem Directive.Settles.imp {means means' : String → Int → Prop} {level : Int} {x y : Directive}
    (h : Settles means level x y) (hm : ∀ s p, means s p → means' s p) :
    Settles means' level x y := by
  cases h with
  | parent h => exact .parent (hm _ _ h)
  | level => exact .level
  | same hparent hlevel => exact .same hparent hlevel

namespace TraitCatalog

/-- What the text of a `SUBTRAIT` means: the one trait that is the main trait of that name, or the ID
that it spells where there is none. -/
def Means (d : Delimiters) (ts : List TraitDefinition) (s : String) (p : Int) : Prop :=
  (∃ t ∈ ts, t.id = p ∧ t.IsMain d s ∧ ∀ u ∈ ts, u.IsMain d s → u = t) ∨
    (∀ u ∈ ts, ¬ u.IsMain d s) ∧ integerText? s = .ok (some p)

/-- The definitions of a catalog are those it was built from, and its parents and children agree. -/
structure Family (d : Delimiters) (glyph : String) (ts : List TraitDefinition) (c : TraitCatalog) :
    Prop where
  settled : ∀ t ∈ ts, ∃ xs u, t.rule.directives d = .ok xs ∧ c.get? t.id = some u ∧
    List.Forall₂ (Directive.Settles (Means d ts) (Text.count glyph t.name)) xs u.directives
  complete : ∀ id, c.contains id = true → ∃ t ∈ ts, t.id = id
  symmetric : ∀ p id, id ∈ c.childrenIn p ↔
    ∃ u, c.get? id = some u ∧ .subTrait (.id p) ∈ u.directives
  closed : ∀ id u p, c.get? id = some u → .subTrait p ∈ u.directives →
    ∃ n, p = .id n ∧ c.contains n = true
  ascending : ∀ p, Ascending (c.childrenIn p)
  declared : ∀ t ∈ ts, ∀ id ∈ t.subtraits, id ∈ c.childrenIn t.id
  leveled : ∀ id u, c.get? id = some u → .powerLevel none ∉ u.directives

/-! ## Main-trait names -/

theorem mainNames_eq (dr : Draft) :
    mainNames dr = dr.directives.filterMap (Directive.mainName? dr.name) := by
  show dr.directives.filterMap _ = _
  apply List.filterMap_congr
  intro x _
  cases x with
  | mainTraitMax group | mainTraitCount group =>
    cases group with
    | none => rfl
    | some g => cases hg : g.isEmpty <;> simp [Directive.mainName?, Option.filter, hg]
  | _ => rfl

section Claims

variable {t t' : Table String Int} {l : List (String × Int)} {name : String} {id : Int}

theorem claim_ok (h : claim t name id = .ok t') (n : String) (i : Int) :
    t'.get? n = some i ↔ t.get? n = some i ∨ (n, i) = (name, id) := by
  unfold claim at h
  split at h
  · rename_i hfree
    cases h
    rw [Table.get?_insert, Prod.mk.injEq]
    split
    · rename_i hn
      rw [hn, hfree]
      simp [eq_comm]
    · rename_i hn
      simp [hn]
  · rename_i other htaken
    split at h
    · rename_i ho
      cases h
      refine (or_iff_left_of_imp ?_).symm
      rintro he
      cases he
      rw [htaken, ho]
    · cases h

/-- What was claimed is what the names stand for. -/
theorem claimAll_ok (h : claimAll t l = .ok t') (n : String) (i : Int) :
    t'.get? n = some i ↔ t.get? n = some i ∨ (n, i) ∈ l := by
  induction l generalizing t with
  | nil =>
    cases h
    simp
  | cons p r ih =>
    obtain ⟨u, hu, h⟩ := Result.bind_ok h
    rw [ih h, claim_ok hu, or_assoc, List.mem_cons]

/-- Claims that agree with each other, and with what is taken, all succeed. -/
theorem claimAll_of_agree
    (h : ∀ n i j, t.get? n = some i ∨ (n, i) ∈ l → t.get? n = some j ∨ (n, j) ∈ l → i = j) :
    ∃ t', claimAll t l = .ok t' := by
  induction l generalizing t with
  | nil => exact ⟨t, rfl⟩
  | cons p r ih =>
    obtain ⟨name, id⟩ := p
    have hclaim : ∃ u, claim t name id = .ok u := by
      unfold claim
      split
      · exact ⟨_, rfl⟩
      · rename_i other htaken
        rw [if_pos (h name other id (.inl htaken) (.inr List.mem_cons_self))]
        exact ⟨_, rfl⟩
    obtain ⟨u, hu⟩ := hclaim
    have hagree : ∀ n i, u.get? n = some i ∨ (n, i) ∈ r ↔
        t.get? n = some i ∨ (n, i) ∈ (name, id) :: r := by
      intro n i
      rw [claim_ok hu, or_assoc, List.mem_cons]
    obtain ⟨t', ht'⟩ := ih fun n i j hi hj => h n i j ((hagree n i).mp hi) ((hagree n j).mp hj)
    refine ⟨t', ?_⟩
    show (claim t name id >>= fun u => claimAll u r) = _
    rw [hu]
    exact ht'

end Claims

/-! ## What rules and passes make of a parent -/

theorem named_of_make {d : Delimiters} {k : Keyword} {args : List String} {p : ParentRef}
    (h : Directive.make d k args = .ok (.subTrait p)) : ∃ s ∈ args, p = .name s := by
  obtain rfl : Keyword.subTrait = k := Directive.keyword_of_make h
  rw [Directive.make] at h
  split at h
  · cases h
  · rename_i hne
    cases h
    cases args with
    | nil => exact absurd rfl hne
    | cons a r => exact ⟨a, List.mem_cons_self, rfl⟩

/-- Rules name their parents: an ID among them is a text as well, and like all texts of rules it is
trimmed. -/
theorem named_of_mem_directives {d : Delimiters} {rule : Rule} {xs : List Directive}
    (h : rule.directives d = .ok xs) {p : ParentRef} (hp : .subTrait p ∈ xs) :
    ∃ s, p = .name s ∧ Text.trim s = s := by
  obtain ⟨chunks, _, h⟩ := Result.bind_ok h
  obtain ⟨parts, hparts⟩ := mem_directivesOf h hp
  obtain ⟨k, args, htokens, _, hmake⟩ := Directive.make_of_ofTokens? hparts
  obtain ⟨s, hs, hp⟩ := named_of_make hmake
  obtain ⟨part, _, rfl⟩ := List.mem_map.mp (htokens ▸ List.mem_cons_of_mem k.word hs)
  exact ⟨_, hp, Text.trim_trim part⟩

theorem isKnown_iff {ds : List Draft} {n : Int} : isKnown ds n = true ↔ ∃ d ∈ ds, d.id = n := by
  simp [isKnown]

theorem resolveParent_ok {mains : Table String Int} {ds : List Draft} {d : Draft} {s : String}
    {n : Int} (h : resolveParent mains ds d (.name s) = .ok n) :
    mains.get? s = some n ∨
      mains.get? s = none ∧ integerText? s = .ok (some n) ∧ isKnown ds n = true := by
  unfold resolveParent at h
  simp only at h
  split at h
  · rename_i id hid
    cases h
    exact .inl hid
  · rename_i hnone
    obtain ⟨m, hm, h⟩ := Result.bind_ok h
    cases m with
    | none => cases h
    | some m =>
      simp only at h
      split at h
      · rename_i hknown
        cases h
        exact .inr ⟨hnone, hm, hknown⟩
      · cases h

theorem checkDeclared_ok_iff {ds : List Draft} {d : Draft} : checkDeclared ds d = .ok () ↔
    ∀ id ∈ d.definition.subtraits, id ∈ childrenOf ds d.id := by
  have hempty : ∀ ns : List Int, (sortIds ns).isEmpty = true ↔ ns = [] := by
    intro ns
    rw [List.isEmpty_iff, List.eq_nil_iff_forall_not_mem, List.eq_nil_iff_forall_not_mem]
    simp only [mem_sortIds]
  unfold checkDeclared
  simp only
  split
  · rename_i hnone
    rw [hempty, List.filter_eq_nil_iff] at hnone
    simpa using hnone
  · rename_i hsome
    rw [hempty, List.filter_eq_nil_iff] at hsome
    simpa using hsome

/-- The passes that come before any parent is resolved. -/
structure Begun (d : Delimiters) (ts : List TraitDefinition) (drafts : List Draft)
    (mains : Table String Int) : Prop where
  ids : checkIds [] ts = .ok ()
  drafted : ts.mapM (draft d) = .ok drafts
  named : mainTraitsOf drafts = .ok mains

section Passes

variable {d : Delimiters} {glyph : String} {ts : List TraitDefinition} {drafts settled : List Draft}
  {mains : Table String Int}

theorem Passed.begun (h : Passed d glyph ts drafts mains settled) : Begun d ts drafts mains :=
  ⟨h.ids, h.drafted, h.named⟩

theorem Begun.isKnown_iff (h : Begun d ts drafts mains) {n : Int} :
    isKnown drafts n = true ↔ ∃ t ∈ ts, t.id = n := by
  rw [TraitCatalog.isKnown_iff]
  constructor
  · rintro ⟨dr, hdr, rfl⟩
    obtain ⟨t, ht, hread⟩ := Result.mem_of_mapM_ok h.drafted hdr
    exact ⟨t, ht, congrArg TraitDefinition.id (draft_ok hread).1.symm⟩
  · rintro ⟨t, ht, rfl⟩
    obtain ⟨dr, hdr, hread⟩ := Result.exists_of_mapM_ok h.drafted ht
    exact ⟨dr, hdr, congrArg TraitDefinition.id (draft_ok hread).1⟩

/-- A name stands for a trait exactly if that is a main trait of it. -/
theorem Begun.mains_iff (h : Begun d ts drafts mains) {s : String} {p : Int} :
    mains.get? s = some p ↔ ∃ t ∈ ts, t.id = p ∧ t.IsMain d s := by
  have hclaims : mains.get? s = some p ↔ ∃ dr ∈ drafts, s ∈ mainNames dr ∧ dr.id = p := by
    rw [claimAll_ok h.named]
    simp only [List.mem_flatMap, List.mem_map, Prod.mk.injEq]
    constructor
    · rintro (h | ⟨dr, hdr, _, hn, rfl, rfl⟩)
      · cases h
      · exact ⟨dr, hdr, hn, rfl⟩
    · rintro ⟨dr, hdr, hn, rfl⟩
      exact .inr ⟨dr, hdr, s, hn, rfl, rfl⟩
  rw [hclaims]
  constructor
  · rintro ⟨dr, hdr, hn, rfl⟩
    obtain ⟨t, ht, hread⟩ := Result.mem_of_mapM_ok h.drafted hdr
    obtain ⟨rfl, hrule⟩ := draft_ok hread
    rw [mainNames_eq] at hn
    exact ⟨_, ht, rfl, _, hrule, List.mem_filterMap.mp hn⟩
  · rintro ⟨t, ht, rfl, xs, hrule, hmain⟩
    obtain ⟨dr, hdr, hread⟩ := Result.exists_of_mapM_ok h.drafted ht
    obtain ⟨rfl, hrule'⟩ := draft_ok hread
    cases hrule.symm.trans hrule'
    refine ⟨dr, hdr, ?_, rfl⟩
    rw [mainNames_eq]
    exact List.mem_filterMap.mpr hmain

/-- What a text means, where that is in the catalog. -/
def MeansKnown (d : Delimiters) (ts : List TraitDefinition) (s : String) (p : Int) : Prop :=
  Means d ts s p ∧ ∃ t ∈ ts, t.id = p

theorem Begun.meansKnown (h : Begun d ts drafts mains) {dr : Draft} {s : String}
    {n : Int} (hn : resolveParent mains drafts dr (.name s) = .ok n) : MeansKnown d ts s n := by
  rcases resolveParent_ok hn with hmain | ⟨hnone, hint, hknown⟩
  · obtain ⟨t, ht, rfl, hmain'⟩ := h.mains_iff.mp hmain
    refine ⟨.inl ⟨t, ht, rfl, hmain', fun u hu hother => ?_⟩, t, ht, rfl⟩
    have hsame : u.id = t.id := by
      have := h.mains_iff.mpr ⟨u, hu, rfl, hother⟩
      exact Option.some.inj (this.symm.trans hmain)
    exact List.inj_on_of_nodup_map (checkIds_nil_ok_iff.mp h.ids) hu ht hsame
  · refine ⟨.inr ⟨fun u hu hmain => ?_, hint⟩, h.isKnown_iff.mp hknown⟩
    rw [h.mains_iff.mpr ⟨u, hu, rfl, hmain⟩] at hnone
    cases hnone

theorem Begun.settles (h : Begun d ts drafts mains) {dr : Draft}
    {x y : Directive} (hx : ∀ p, x = .subTrait p → ∃ s, p = .name s)
    (hy : settle glyph mains drafts dr x = .ok y) :
    Directive.Settles (MeansKnown d ts) (Text.count glyph dr.name) x y := by
  cases x with
  | subTrait parent =>
    obtain ⟨s, rfl⟩ := hx parent rfl
    obtain ⟨n, hn, hy⟩ := Result.bind_ok hy
    obtain rfl := Result.pure_ok hy
    exact .parent (h.meansKnown hn)
  | powerLevel level =>
    cases level with
    | none => cases hy; exact .level
    | some level => cases hy; exact .same nofun nofun
  | _ => cases hy; exact .same nofun nofun

/-- What the passes have made of a trait of the data. -/
def Made (d : Delimiters) (glyph : String) (ts : List TraitDefinition) (t : TraitDefinition)
    (s : Draft) : Prop :=
  s.definition = t ∧ ∃ xs, t.rule.directives d = .ok xs ∧
    List.Forall₂ (Directive.Settles (MeansKnown d ts) (Text.count glyph t.name)) xs s.directives

theorem Begun.made (h : Begun d ts drafts mains) {t : TraitDefinition}
    {dr s : Draft} (hread : draft d t = .ok dr)
    (hsettle : settleDraft glyph mains drafts dr = .ok s) : Made d glyph ts t s := by
  obtain ⟨rfl, hrule⟩ := draft_ok hread
  obtain ⟨ys, hys, hsettle⟩ := Result.bind_ok hsettle
  obtain rfl := Result.pure_ok hsettle
  refine ⟨rfl, _, hrule, ?_⟩
  have hall := List.forall₂_and_left (p := fun x => ∀ p, x = .subTrait p → ∃ s, p = .name s) _ _
    |>.mpr ⟨?_, Result.mapM_ok hys⟩
  · exact hall.imp fun x y hxy => h.settles hxy.1 hxy.2
  · rintro x hx p rfl
    obtain ⟨s, hp, _⟩ := named_of_mem_directives hrule hx
    exact ⟨s, hp⟩

theorem Begun.exists_made (h : Begun d ts drafts mains)
    (hresolved : drafts.mapM (settleDraft glyph mains drafts) = .ok settled) {t : TraitDefinition}
    (ht : t ∈ ts) : ∃ s ∈ settled, Made d glyph ts t s := by
  obtain ⟨dr, hdr, hread⟩ := Result.exists_of_mapM_ok h.drafted ht
  obtain ⟨s, hs, hsettle⟩ := Result.exists_of_mapM_ok hresolved hdr
  exact ⟨s, hs, h.made hread hsettle⟩

theorem Begun.made_of_mem (h : Begun d ts drafts mains)
    (hresolved : drafts.mapM (settleDraft glyph mains drafts) = .ok settled) {s : Draft}
    (hs : s ∈ settled) : ∃ t ∈ ts, Made d glyph ts t s := by
  obtain ⟨dr, hdr, hsettle⟩ := Result.mem_of_mapM_ok hresolved hs
  obtain ⟨t, ht, hread⟩ := Result.mem_of_mapM_ok h.drafted hdr
  exact ⟨t, ht, h.made hread hsettle⟩

theorem Passed.exists_made (h : Passed d glyph ts drafts mains settled) {t : TraitDefinition}
    (ht : t ∈ ts) : ∃ s ∈ settled, Made d glyph ts t s := h.begun.exists_made h.resolved ht

theorem Passed.made_of_mem (h : Passed d glyph ts drafts mains settled) {s : Draft}
    (hs : s ∈ settled) : ∃ t ∈ ts, Made d glyph ts t s := h.begun.made_of_mem h.resolved hs

/-- Every directive of the catalog has been settled. -/
theorem Passed.settles_of_mem (h : Passed d glyph ts drafts mains settled) {s : Draft}
    (hs : s ∈ settled) {y : Directive} (hy : y ∈ s.directives) :
    ∃ x level, Directive.Settles (MeansKnown d ts) level x y := by
  obtain ⟨t, _, _, xs, _, hall⟩ := h.made_of_mem hs
  obtain ⟨x, _, hx⟩ := Result.exists_of_forall₂ hall.flip hy
  exact ⟨x, _, hx⟩

theorem Passed.parent_known (h : Passed d glyph ts drafts mains settled) {s : Draft}
    (hs : s ∈ settled) {p : ParentRef} (hp : .subTrait p ∈ s.directives) :
    ∃ n, p = .id n ∧ ∃ t ∈ ts, t.id = n := by
  obtain ⟨x, level, hx⟩ := h.settles_of_mem hs hp
  cases hx with
  | parent hmeans => exact ⟨_, rfl, hmeans.2⟩
  | same hparent => exact absurd rfl (hparent p)

theorem Passed.leveled (h : Passed d glyph ts drafts mains settled) {s : Draft}
    (hs : s ∈ settled) : .powerLevel none ∉ s.directives := by
  intro hnone
  obtain ⟨x, level, hx⟩ := h.settles_of_mem hs hnone
  cases hx with
  | same _ hlevel => exact hlevel rfl

end Passes

theorem Coherent.mem_childrenIn {c : TraitCatalog} (hc : c.Coherent) {p id : Int} :
    id ∈ c.childrenIn p ↔
      c.contains p = true ∧ ∃ u, c.get? id = some u ∧ .subTrait (.id p) ∈ u.directives := by
  rw [childrenIn, contains]
  cases hp : c.get? p with
  | none => simp
  | some t => simpa using hc.mem_subtraits hp

/-! ## The family of a catalog -/

/-- Parents and children of a catalog that can be built agree: the relation is symmetric and stays
within the catalog, and every parent is what the text means. -/
theorem build_family {d : Delimiters} {glyph : String} {ts : List TraitDefinition}
    {c : TraitCatalog} (h : build d glyph ts = .ok c) : Family d glyph ts c := by
  have hc := build_coherent h
  obtain ⟨drafts, mains, settled, hpassed, he⟩ := build_ok h
  have hmem : ∀ u, u ∈ c.definitions ↔ ∃ s ∈ settled, finish settled s = u := by
    rw [he]
    exact fun u => mem_sorted
  have hget : ∀ s ∈ settled, c.get? s.id = some (finish settled s) :=
    fun s hs => hc.get?_of_mem ((hmem _).mpr ⟨s, hs, rfl⟩)
  have hsource : ∀ id u, c.get? id = some u → ∃ s ∈ settled, s.id = id ∧ finish settled s = u := by
    intro id u hu
    obtain ⟨s, hs, rfl⟩ := (hmem u).mp (mem_of_get? hu)
    exact ⟨s, hs, (id_of_get? hu :), rfl⟩
  have hclosed : ∀ id u p, c.get? id = some u → .subTrait p ∈ u.directives →
      ∃ n, p = .id n ∧ c.contains n = true := by
    intro id u p hu hp
    obtain ⟨s, hs, _, rfl⟩ := hsource id u hu
    obtain ⟨n, rfl, t, ht, rfl⟩ := hpassed.parent_known hs hp
    obtain ⟨v, hv, rfl, _⟩ := hpassed.exists_made ht
    exact ⟨_, rfl, Option.isSome_iff_exists.mpr ⟨_, hget v hv⟩⟩
  refine ⟨?_, ?_, ?_, hclosed, ?_, ?_, ?_⟩
  · intro t ht
    obtain ⟨s, hs, rfl, xs, hrule, hall⟩ := hpassed.exists_made ht
    exact ⟨xs, _, hrule, hget s hs, hall.imp fun _ _ hx => hx.imp fun _ _ hmeans => hmeans.1⟩
  · intro id hid
    obtain ⟨u, hu⟩ := Option.isSome_iff_exists.mp hid
    obtain ⟨s, hs, rfl, _⟩ := hsource id u hu
    rw [← hpassed.definitions.2]
    exact ⟨_, List.mem_map_of_mem hs, rfl⟩
  · intro p id
    rw [hc.mem_childrenIn, and_iff_right_iff_imp]
    rintro ⟨u, hu, hp⟩
    obtain ⟨n, hn, hcontains⟩ := hclosed id u _ hu hp
    cases hn
    exact hcontains
  · intro p
    unfold childrenIn
    cases hp : c.get? p with
    | none => exact List.Pairwise.nil
    | some t => exact hc.childrenAscending t (mem_of_get? hp)
  · intro t ht id hid
    obtain ⟨s, hs, rfl, _⟩ := hpassed.exists_made ht
    show id ∈ c.childrenIn s.id
    rw [childrenIn, hget s hs]
    exact checkDeclared_ok_iff.mp (Result.forM_ok_iff.mp hpassed.declared s hs) id hid
  · intro id u hu hlevel
    obtain ⟨s, hs, _, rfl⟩ := hsource id u hu
    exact hpassed.leveled hs hlevel

/-- Parents by name, by group and by ID. A trait is named `3` and is thereby what the text means, and
not the trait of that ID; two traits are their own parents and two are each other's. -/
def tangledTraits : List TraitDefinition :=
  [.ruled 4 "Delta" ["SUBTRAIT|3", "MAINTRAIT_COUNT", "SUBTRAIT|4"] "",
    { TraitDefinition.ruled 3 "Gamma" ["MAINTRAIT_COUNT|Clan", "MAINTRAIT_MAX", "SUBTRAIT|Gamma"] ""
      with subtraits := [3, 1] },
    .ruled 2 "3" ["MAINTRAIT_MAX", "SUBTRAIT|Delta"] "",
    .ruled 1 "Alpha •••" ["SUBTRAIT|Clan", "SUBTRAIT| 2 ", "POWER_LEVEL"] ""]

def tangledCatalog : TraitCatalog where
  definitions := TraitDefinition.finished tangledTraits.reverse
    [([.subTrait (.id 3), .subTrait (.id 2), .powerLevel (some 3)], []),
      ([.mainTraitMax none, .subTrait (.id 4)], [1, 4]),
      ([.mainTraitCount (some "Clan"), .mainTraitMax none, .subTrait (.id 3)], [1, 3]),
      ([.subTrait (.id 2), .mainTraitCount none, .subTrait (.id 4)], [2, 4])]
  mainTraits := .ofList [("Delta", 4), ("Clan", 3), ("Gamma", 3), ("3", 2)]

theorem build_tangled : build .standard "•" tangledTraits = .ok tangledCatalog := (rfl)

theorem build_family_tangled : build .standard "•" tangledTraits = .ok tangledCatalog ∧
    Family .standard "•" tangledTraits tangledCatalog ∧ tangledCatalog.childrenIn 3 = [1, 3] :=
  ⟨build_tangled, build_family build_tangled, rfl⟩

end TraitCatalog

end CharacterSheet
