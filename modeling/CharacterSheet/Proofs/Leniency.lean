import CharacterSheet.Proofs.Loading
import CharacterSheet.Proofs.Sifting

/-! Loading with and without leniency. Both read the same drafts in the same order; they part where a
draft can not be read as a record. So what a lenient loading returns without defects a strict one returns
too, and with defects it is what a strict one returns once the records behind them are taken out. -/

namespace CharacterSheet

namespace Ruleset

/-- A kind of record: the folder with such records, what they are called, how one of them is read, and
where in a ruleset they go. -/
structure Kind where
  Value : Type
  folder : String
  record : String
  read : Record.Reader Value
  add : Ruleset → List Value → Ruleset

namespace Kind

def traits : Kind where
  Value := TraitDefinition
  folder := "traits"
  record := "TraitDefinition"
  read := TraitDefinition.read
  add r xs := { r with traits := r.traits ++ xs }

def templates : Kind where
  Value := TemplateDefinition
  folder := "templates"
  record := "TemplateDefinition"
  read := TemplateDefinition.read
  add r xs := { r with templates := r.templates ++ xs }

def rows : Kind where
  Value := TemplateRow
  folder := "template_traits"
  record := "TemplateTraitRow"
  read := TemplateRow.read
  add r xs := { r with rows := r.rows ++ xs }

def paths : Kind where
  Value := MoralPath
  folder := "paths"
  record := "MoralPath"
  read := MoralPath.read
  add r xs := { r with paths := r.paths ++ xs }

end Kind

def kinds : List Kind := [.traits, .templates, .rows, .paths]

/-- The kind of the records in a folder of this name. -/
def kind? (name : String) : Option Kind := kinds.find? fun k => k.folder == name

namespace Kind

variable (k : Kind)

def value? (d : Draft) : Option k.Value :=
  match k.read d.merged with
  | .valid a => some a
  | .invalid _ => none

/-- What a draft that can not be read is set aside as. -/
def defect? (d : Draft) : Option Defect :=
  match k.read d.merged with
  | .valid _ => none
  | .invalid issues => some (defectOf k.record d issues)

/-- A draft is read as a record, or it is set aside. -/
theorem read_cases (d : Draft) :
    (∃ a, k.read d.merged = .valid a ∧ k.value? d = some a ∧ k.defect? d = none) ∨
    ∃ issues, k.read d.merged = .invalid issues ∧ k.value? d = none ∧
      k.defect? d = some (defectOf k.record d issues) := by
  rw [value?, defect?]
  cases h : k.read d.merged with
  | valid a => exact .inl ⟨a, rfl, rfl, rfl⟩
  | invalid issues => exact .inr ⟨issues, rfl, rfl, rfl⟩

/-- A ruleset with the records and the defects that some drafts give. -/
def added (r : Ruleset) (ds : List Draft) : Ruleset :=
  { k.add r (ds.filterMap k.value?) with defects := r.defects ++ ds.filterMap k.defect? }

end Kind

/-- The defects in a folder, in the order of reading. -/
def defectsIn (base : String) (f : Folder) : List Defect :=
  ((kind? f.name).map fun k => (draftsIn base f).items.filterMap k.defect?).getD []

/-- The folders beside a ruleset's file, and the same folders with the records taken out that can not be
read. -/
inductive SiftedFolders (base : String) : List Folder → List Folder → List Defect → Prop
  | nil : SiftedFolders base [] [] []
  | data {k : Kind} {f f' : Folder} {fs fs' : List Folder} {own taken : List Defect}
    (hk : kind? f.name = some k)
    (hown : Draft.SiftedFolder k.defect? (base ++ f.name ++ "/") [] f f' own)
    (h : SiftedFolders base fs fs' taken) :
    SiftedFolders base (f :: fs) (f' :: fs') (own ++ taken)
  | other {f : Folder} {fs fs' : List Folder} {taken : List Defect} (hk : kind? f.name = none)
    (h : SiftedFolders base fs fs' taken) : SiftedFolders base (f :: fs) (f :: fs') taken

/-- A ruleset's folder, and the same folder with the records taken out that can not be read. -/
inductive Sifted (place : Location) (root root' : Folder) (taken : List Defect) : Prop
  | mk {home : Home} {folder : Folder} (hhome : home? place.base root.inOrder = some home)
    (hhome' : home? place.base root'.inOrder = some { home with folder := folder })
    (hfolders : SiftedFolders home.base home.folder.folders folder.folders taken)

/-! ## Gathering -/

section

variable {k : Kind} {ds : List Draft} {drafts : Readout Draft} {h : Harvest k.Value}

theorem gather_lenient (k : Kind) (ds : List Draft) : gather .lenient k.record k.read ds =
    .ok ⟨ds.filterMap k.value?, ds.filterMap k.defect?⟩ := by
  induction ds with
  | nil => rfl
  | cons d r ih =>
    rcases k.read_cases d with ⟨a, hread, hvalue, hdefect⟩ | ⟨issues, hread, hvalue, hdefect⟩
    · rw [List.filterMap_cons_some hvalue, List.filterMap_cons_none hdefect]
      simp only [gather, hread, ih]
      rfl
    · rw [List.filterMap_cons_none hvalue, List.filterMap_cons_some hdefect]
      simp only [gather, hread, ih]
      rfl

theorem gather_strict_iff : gather .strict k.record k.read ds = .ok h ↔
    ds.filterMap k.defect? = [] ∧ h = ⟨ds.filterMap k.value?, []⟩ := by
  induction ds generalizing h with
  | nil =>
    constructor
    · intro hg
      cases hg
      exact ⟨rfl, rfl⟩
    · rintro ⟨_, rfl⟩
      rfl
  | cons d r ih =>
    rcases k.read_cases d with ⟨a, hread, hvalue, hdefect⟩ | ⟨issues, hread, _, hdefect⟩
    · rw [List.filterMap_cons_some hvalue, List.filterMap_cons_none hdefect]
      simp only [gather, hread]
      constructor
      · intro hg
        obtain ⟨inner, hinner, hg⟩ := Result.bind_ok hg
        cases hg
        obtain ⟨hnone, rfl⟩ := ih.mp hinner
        exact ⟨hnone, rfl⟩
      · rintro ⟨hnone, rfl⟩
        rw [ih.mpr ⟨hnone, rfl⟩]
        rfl
    · rw [List.filterMap_cons_some hdefect]
      simp only [gather, hread]
      constructor
      · intro hg
        cases hg
      · rintro ⟨hnone, _⟩
        cases hnone

theorem gatherAll_lenient_iff : gatherAll .lenient k.record k.read drafts = .ok h ↔
    drafts.fault = none ∧
      h = ⟨drafts.items.filterMap k.value?, drafts.items.filterMap k.defect?⟩ := by
  rw [gatherAll, gather_lenient]
  cases hf : drafts.fault with
  | none =>
    constructor
    · intro hg
      cases hg
      exact ⟨rfl, rfl⟩
    · rintro ⟨_, rfl⟩
      rfl
  | some f =>
    constructor
    · intro hg
      cases hg
    · rintro ⟨hnone, _⟩
      cases hnone

theorem gatherAll_strict_iff : gatherAll .strict k.record k.read drafts = .ok h ↔
    drafts.fault = none ∧ drafts.items.filterMap k.defect? = [] ∧
      h = ⟨drafts.items.filterMap k.value?, []⟩ := by
  rw [gatherAll]
  constructor
  · intro hg
    obtain ⟨inner, hinner, hg⟩ := Result.bind_ok hg
    obtain ⟨hnone, rfl⟩ := gather_strict_iff.mp hinner
    cases hf : drafts.fault with
    | none =>
      rw [hf] at hg
      cases hg
      exact ⟨rfl, hnone, rfl⟩
    | some f =>
      rw [hf] at hg
      cases hg
  · rintro ⟨hf, hnone, rfl⟩
    rw [gather_strict_iff.mpr ⟨hnone, rfl⟩, hf]
    rfl

end

/-! ## One folder -/

section

variable {mode : Strictness} {base : String} {r s : Ruleset} {f f' : Folder} {k : Kind}

theorem addFolder_of_kind (hk : kind? f.name = some k) : addFolder mode base r f =
    (gatherAll mode k.record k.read (draftsIn base f)).map fun h =>
      { k.add r h.records with defects := r.defects ++ h.defects } := by
  have hmem := List.mem_of_find?_eq_some hk
  have hname : k.folder = f.name := by simpa using List.find?_some hk
  obtain ⟨name, files, folders⟩ := f
  obtain rfl : k.folder = name := hname
  simp only [kinds, List.mem_cons, List.not_mem_nil, or_false] at hmem
  rcases hmem with rfl | rfl | rfl | rfl
  all_goals rfl

/-- Folders of other names hold no records. -/
theorem addFolder_other (hk : kind? f.name = none) : addFolder mode base r f = .ok r := by
  have hne : ∀ name, (kind? name).isSome = true → f.name ≠ name := by
    rintro _ hsome rfl
    rw [hk] at hsome
    cases hsome
  unfold addFolder
  split
  · exact absurd ‹_› (hne _ rfl)
  · exact absurd ‹_› (hne _ rfl)
  · exact absurd ‹_› (hne _ rfl)
  · exact absurd ‹_› (hne _ rfl)
  · rfl

theorem addFolder_lenient_iff (hk : kind? f.name = some k) : addFolder .lenient base r f = .ok s ↔
    (draftsIn base f).fault = none ∧ s = k.added r (draftsIn base f).items := by
  rw [addFolder_of_kind hk, Result.map_ok_iff]
  constructor
  · rintro ⟨h, hg, rfl⟩
    obtain ⟨hf, rfl⟩ := gatherAll_lenient_iff.mp hg
    exact ⟨hf, rfl⟩
  · rintro ⟨hf, rfl⟩
    exact ⟨_, gatherAll_lenient_iff.mpr ⟨hf, rfl⟩, rfl⟩

theorem addFolder_strict_iff (hk : kind? f.name = some k) : addFolder .strict base r f = .ok s ↔
    (draftsIn base f).fault = none ∧ (draftsIn base f).items.filterMap k.defect? = [] ∧
      s = k.added r (draftsIn base f).items := by
  rw [addFolder_of_kind hk, Result.map_ok_iff]
  constructor
  · rintro ⟨h, hg, rfl⟩
    obtain ⟨hf, hnone, rfl⟩ := gatherAll_strict_iff.mp hg
    exact ⟨hf, hnone, by rw [Kind.added, hnone]⟩
  · rintro ⟨hf, hnone, rfl⟩
    exact ⟨_, gatherAll_strict_iff.mpr ⟨hf, hnone, rfl⟩, by rw [Kind.added, hnone]⟩

/-- A lenient step adds the defects of its folder behind the others. -/
theorem addFolder_defects (h : addFolder .lenient base r f = .ok s) :
    s.defects = r.defects ++ defectsIn base f := by
  cases hk : kind? f.name with
  | none =>
    rw [addFolder_other hk] at h
    cases h
    rw [defectsIn, hk]
    exact (List.append_nil _).symm
  | some k =>
    obtain ⟨_, rfl⟩ := (addFolder_lenient_iff hk).mp h
    rw [defectsIn, hk]
    rfl

/-- A strict step is a lenient one without defects. -/
theorem addFolder_strict_iff_lenient : addFolder .strict base r f = .ok s ↔
    addFolder .lenient base r f = .ok s ∧ s.defects = r.defects := by
  cases hk : kind? f.name with
  | none =>
    rw [addFolder_other hk, addFolder_other hk]
    constructor
    · intro h
      cases h
      exact ⟨rfl, rfl⟩
    · exact And.left
  | some k =>
    rw [addFolder_strict_iff hk, addFolder_lenient_iff hk]
    constructor
    · rintro ⟨hf, hnone, rfl⟩
      exact ⟨⟨hf, rfl⟩, by rw [Kind.added, hnone, List.append_nil]⟩
    · rintro ⟨⟨hf, rfl⟩, hd⟩
      exact ⟨hf, List.append_right_eq_self.mp hd, rfl⟩

/-- What is added to a ruleset does not depend on its defects. -/
theorem Kind.add_defects (hk : kind? f.name = some k) (xs : List k.Value) (es : List Defect) :
    k.add { r with defects := es } xs = { k.add r xs with defects := es } := by
  have hmem := List.mem_of_find?_eq_some hk
  simp only [kinds, List.mem_cons, List.not_mem_nil, or_false] at hmem
  rcases hmem with rfl | rfl | rfl | rfl
  all_goals rfl

/-- Without the drafts that are set aside, the same records are read and none is set aside. -/
theorem Kind.filter_readable (k : Kind) (ds : List Draft) :
    (ds.filter fun d => (k.defect? d).isNone).filterMap k.value? = ds.filterMap k.value? ∧
    (ds.filter fun d => (k.defect? d).isNone).filterMap k.defect? = [] := by
  induction ds with
  | nil => exact ⟨rfl, rfl⟩
  | cons d r ih =>
    rcases k.read_cases d with ⟨a, _, hvalue, hdefect⟩ | ⟨issues, _, hvalue, hdefect⟩
    · rw [List.filter_cons_of_pos (by simp [hdefect]), List.filterMap_cons_some hvalue,
        List.filterMap_cons_some hvalue, List.filterMap_cons_none hdefect, ih.1]
      exact ⟨rfl, ih.2⟩
    · rw [List.filter_cons_of_neg (by simp [hdefect]), List.filterMap_cons_none hvalue]
      exact ih

theorem Kind.added_readable (hk : kind? f.name = some k) (ds : List Draft) (es : List Defect) :
    k.added { r with defects := es } (ds.filter fun d => (k.defect? d).isNone) =
      { k.added r ds with defects := es } := by
  obtain ⟨hvalues, hdefects⟩ := k.filter_readable ds
  rw [Kind.added, Kind.added, hvalues, hdefects, Kind.add_defects hk]
  simp

/-- A strict step over a sifted folder adds the records that a lenient one adds, and the lenient one adds
the defects of what was taken out. -/
theorem addFolder_sifted {own : List Defect} (hk : kind? f.name = some k)
    (hf : Draft.SiftedFolder k.defect? (base ++ f.name ++ "/") [] f f' own)
    (h : addFolder .lenient base r f = .ok s) (es : List Defect) :
    addFolder .strict base { r with defects := es } f' = .ok { s with defects := es } ∧
      s.defects = r.defects ++ own := by
  obtain ⟨ds, hds, hds', rfl⟩ := Draft.ofFolder_sifts hf
  have hname := Draft.name_of_sifted hf
  have hdrafts : draftsIn base f = .all ds := hds
  have hdrafts' : draftsIn base f' = .all (ds.filter fun d => (k.defect? d).isNone) := by
    rw [draftsIn, hname]
    exact hds'
  obtain ⟨_, rfl⟩ := (addFolder_lenient_iff hk).mp h
  rw [hdrafts]
  refine ⟨(addFolder_strict_iff (hname ▸ hk)).mpr ?_, rfl⟩
  rw [hdrafts']
  exact ⟨rfl, (k.filter_readable ds).2, (Kind.added_readable hk ds es).symm⟩

end

/-! ## All folders -/

section

variable {mode : Strictness} {base : String} {r s : Ruleset} {fs fs' : List Folder}

theorem addFolders_defects (h : fs.foldlM (addFolder .lenient base) r = .ok s) :
    s.defects = r.defects ++ fs.flatMap (defectsIn base) := by
  induction fs generalizing r with
  | nil =>
    cases h
    exact (List.append_nil _).symm
  | cons f fs ih =>
    rw [List.foldlM_cons] at h
    obtain ⟨t, ht, h⟩ := Result.bind_ok h
    rw [ih h, addFolder_defects ht, List.append_assoc, List.flatMap_cons]

theorem addFolders_strict_iff : fs.foldlM (addFolder .strict base) r = .ok s ↔
    fs.foldlM (addFolder .lenient base) r = .ok s ∧ s.defects = r.defects := by
  induction fs generalizing r with
  | nil =>
    constructor
    · intro h
      cases h
      exact ⟨rfl, rfl⟩
    · exact And.left
  | cons f fs ih =>
    rw [List.foldlM_cons, List.foldlM_cons]
    constructor
    · intro h
      obtain ⟨t, ht, h⟩ := Result.bind_ok h
      obtain ⟨hlenient, hd⟩ := addFolder_strict_iff_lenient.mp ht
      obtain ⟨hrest, hd'⟩ := ih.mp h
      rw [hlenient]
      exact ⟨hrest, hd'.trans hd⟩
    · rintro ⟨h, hd⟩
      obtain ⟨t, ht, h⟩ := Result.bind_ok h
      -- Defects are only added, so none were in the first folder if there are none in the end.
      have hrest := addFolders_defects h
      have hown := addFolder_defects ht
      rw [hrest, hown, List.append_assoc] at hd
      obtain ⟨hnone, hnone'⟩ := List.append_eq_nil_iff.mp (List.append_right_eq_self.mp hd)
      rw [addFolder_strict_iff_lenient.mpr ⟨ht, by rw [hown, hnone, List.append_nil]⟩]
      exact ih.mpr ⟨h, by rw [hrest, hnone', List.append_nil]⟩

theorem addFolders_sifted {taken : List Defect} (hf : SiftedFolders base fs fs' taken)
    (h : fs.foldlM (addFolder .lenient base) r = .ok s) (es : List Defect) :
    fs'.foldlM (addFolder .strict base) { r with defects := es } = .ok { s with defects := es } ∧
      s.defects = r.defects ++ taken := by
  induction hf generalizing r with
  | nil =>
    cases h
    exact ⟨rfl, (List.append_nil _).symm⟩
  | data hk hown _ ih =>
    rw [List.foldlM_cons] at h ⊢
    obtain ⟨t, ht, h⟩ := Result.bind_ok h
    obtain ⟨hstep, hd⟩ := addFolder_sifted hk hown ht es
    obtain ⟨hrest, hd'⟩ := ih h
    rw [hstep, hd', hd, List.append_assoc]
    exact ⟨hrest, rfl⟩
  | other hk _ ih =>
    rw [List.foldlM_cons] at h ⊢
    rw [addFolder_other hk] at h ⊢
    exact ih h

/-- Special folders hold no records, so it makes no difference that they are passed over. -/
theorem addFolders_proper : (fs.filter fun g => !g.isSpecial).foldlM (addFolder mode base) r =
    fs.foldlM (addFolder mode base) r := by
  induction fs generalizing r with
  | nil => rfl
  | cons f fs ih =>
    cases hspecial : f.isSpecial with
    | false =>
      rw [List.filter_cons_of_pos (by simp [hspecial]), List.foldlM_cons, List.foldlM_cons]
      simp only [ih]
    | true =>
      have hk : kind? f.name = none := by
        refine List.find?_eq_none.mpr fun k hk hname => ?_
        have hproper : ∀ k ∈ kinds, isSpecialName k.folder = false := by simp [kinds]; decide
        rw [Folder.isSpecial, ← beq_iff_eq.mp hname, hproper k hk] at hspecial
        cases hspecial
      rw [List.filter_cons_of_neg (by simp [hspecial]), ih, List.foldlM_cons, addFolder_other hk]
      rfl

end

/-! ## The whole load -/

theorem load_ok_iff {mode : Strictness} {place : Location} {root : Folder} {r : Ruleset} :
    load mode place root = .ok r ↔ ∃ home own, home? place.base root.inOrder = some home ∧
      settings place.shown home.file = .ok own ∧
      home.folder.folders.foldlM (addFolder mode home.base) { own with defects := [] } = .ok r := by
  rw [load]
  constructor
  · intro h
    cases hhome : home? place.base root.inOrder with
    | none =>
      rw [hhome] at h
      cases h
    | some home =>
      rw [hhome] at h
      obtain ⟨own, hown, h⟩ := Result.bind_ok h
      exact ⟨home, own, rfl, hown, addFolders_proper.symm.trans h⟩
  · rintro ⟨home, own, hhome, hown, h⟩
    rw [hhome]
    show (settings place.shown home.file >>= _) = _
    rw [hown]
    exact addFolders_proper.trans h

/-- A strict loading is a lenient one without defects. A lenient one has a defect for each record that
can not be read, in the order of reading, and is otherwise the strict loading of what is left when
these records are taken out. -/
theorem load_leniently {place : Location} {root : Folder} {r : Ruleset} :
    (load .strict place root = .ok r ↔ load .lenient place root = .ok r ∧ r.defects = []) ∧
    (load .lenient place root = .ok r →
      (∃ home, home? place.base root.inOrder = some home ∧
        r.defects = home.folder.folders.flatMap (defectsIn home.base)) ∧
      ∀ root' taken, Sifted place root root' taken →
        load .strict place root' = .ok { r with defects := [] } ∧ r.defects = taken) := by
  refine ⟨⟨fun h => ?_, fun ⟨h, hd⟩ => ?_⟩, fun h => ?_⟩
  · obtain ⟨home, own, hhome, hown, h⟩ := load_ok_iff.mp h
    obtain ⟨hlenient, hd⟩ := addFolders_strict_iff.mp h
    exact ⟨load_ok_iff.mpr ⟨home, own, hhome, hown, hlenient⟩, hd⟩
  · obtain ⟨home, own, hhome, hown, h⟩ := load_ok_iff.mp h
    exact load_ok_iff.mpr ⟨home, own, hhome, hown, addFolders_strict_iff.mpr ⟨h, hd⟩⟩
  · obtain ⟨home, own, hhome, hown, h⟩ := load_ok_iff.mp h
    refine ⟨⟨home, hhome, addFolders_defects h⟩, ?_⟩
    rintro root' taken ⟨hhome₀, hhome', hfolders⟩
    cases hhome.symm.trans hhome₀
    obtain ⟨hstrict, hd⟩ := addFolders_sifted hfolders h []
    exact ⟨load_ok_iff.mpr ⟨_, own, hhome', hown, hstrict⟩, hd⟩

/-! Two records without a number, the first between two that can be read, the second alone in its file.
-/

def mixedFile : File := ⟨"a.yaml",
  "id: 1\nname: A\nrule: Q\n---\nname: X\n---\n__defaults__:\n  rule: R\n---\nid: 2\nname: B\n"⟩

def keptFile : File :=
  ⟨"a.yaml", "id: 1\nname: A\nrule: Q\n---\n__defaults__:\n  rule: R\n---\nid: 2\nname: B\n"⟩

def loneFile : File := ⟨"b.toml", "name = \"Y\"\n"⟩

def mixedRoot : Folder :=
  ⟨"", [settingsFile], [⟨"traits", [mixedFile], [⟨"more", [loneFile], []⟩]⟩]⟩

def keptRoot : Folder := ⟨"", [settingsFile], [⟨"traits", [keptFile], [⟨"more", [], []⟩]⟩]⟩

/-- Whether one of some documents fails and three are left, which another file holds. -/
def leavesKept (mixed kept : Documents) : Bool :=
  match mixed.fault, Draft.sift Kind.traits.defect? "traits/a.yaml" [] mixed.items, kept with
  | none,
    .ok ([.map [(.text "id", .int 1), (.text "name", .text "A"), (.text "rule", .text "Q")],
      .map [(.text "__defaults__", .map [(.text "rule", .text "R")])],
      .map [(.text "id", .int 2), (.text "name", .text "B")]], [_]),
    ⟨[.map [(.text "id", .int 1), (.text "name", .text "A"), (.text "rule", .text "Q")],
      .map [(.text "__defaults__", .map [(.text "rule", .text "R")])],
      .map [(.text "id", .int 2), (.text "name", .text "B")]], none⟩ => true
  | _, _, _ => false

theorem sifted_mixedFile : ∃ e,
    Draft.SiftedFiles Kind.traits.defect? "traits/" [] [mixedFile] [keptFile] ([e] ++ []) := by
  have hleaves : leavesKept mixedFile.documents keptFile.documents = true := by decide +kernel
  have hproper : mixedFile.isSpecial = false := by decide +kernel
  unfold leavesKept at hleaves
  split at hleaves
  · rename_i e hmixed hsift hkept
    refine ⟨e, .proper hproper rfl hmixed (by rw [hkept]) ?_ .nil⟩
    rw [hkept]
    exact Draft.sifted_of_sift hsift
  · cases hleaves

/-- Whether one document fails and nothing is left. -/
def leavesNothing (lone : Documents) : Bool :=
  match lone.fault, Draft.sift Kind.traits.defect? "traits/more/b.toml" [] lone.items with
  | none, .ok ([], [_]) => true
  | _, _ => false

theorem sifted_loneFile : ∃ e,
    Draft.SiftedFiles Kind.traits.defect? "traits/more/" [] [loneFile] [] ([e] ++ []) := by
  have hleaves : leavesNothing loneFile.documents = true := by decide +kernel
  have hproper : loneFile.isSpecial = false := by decide +kernel
  unfold leavesNothing at hleaves
  split at hleaves
  · rename_i e hlone hsift
    exact ⟨e, .gone hproper hlone (Draft.sifted_of_sift hsift) .nil⟩
  · cases hleaves

theorem home?_mixedRoot : home? "" mixedRoot.inOrder = some ⟨"", settingsFile, mixedRoot⟩ := by
  have horder : mixedRoot.inOrder = mixedRoot := by
    simp [mixedRoot, Folder.inOrder, Folder.inOrderAll, Folder.sortFiles, Folder.sortFolders]
  rw [horder]
  rfl

theorem home?_keptRoot : home? "" keptRoot.inOrder = some ⟨"", settingsFile, keptRoot⟩ := by
  have horder : keptRoot.inOrder = keptRoot := by
    simp [keptRoot, Folder.inOrder, Folder.inOrderAll, Folder.sortFiles, Folder.sortFolders]
  rw [horder]
  rfl

theorem sifted_mixedRoot : ∃ e e', Sifted ⟨"", ""⟩ mixedRoot keptRoot [e, e'] := by
  obtain ⟨e, hfiles⟩ := sifted_mixedFile
  obtain ⟨e', hlone⟩ := sifted_loneFile
  have hproper : mixedFile.isSpecial = false ∧ loneFile.isSpecial = false ∧
      isSpecialName "more" = false := by decide +kernel
  have hmore : Draft.SiftedFolder Kind.traits.defect? "traits/more/" [] ⟨"more", [loneFile], []⟩
      ⟨"more", [], []⟩ ([e'] ++ []) := .mk (Draft.addStandard_proper _ hproper.2.1) hlone .nil
  have htraits : Draft.SiftedFolder Kind.traits.defect? "traits/" []
      ⟨"traits", [mixedFile], [⟨"more", [loneFile], []⟩]⟩ ⟨"traits", [keptFile], [⟨"more", [], []⟩]⟩
      ([e] ++ ([e'] ++ [])) :=
    .mk (Draft.addStandard_proper _ hproper.1) hfiles (.proper hproper.2.2 hmore .nil)
  have hfolders : SiftedFolders "" mixedRoot.folders keptRoot.folders ([e, e'] ++ []) :=
    .data rfl htraits .nil
  exact ⟨e, e', .mk home?_mixedRoot home?_keptRoot hfolders⟩

theorem load_leniently_mixed : ∃ r, load .lenient ⟨"", ""⟩ mixedRoot = .ok r ∧
    r.defects.length = 2 ∧ load .strict ⟨"", ""⟩ keptRoot = .ok { r with defects := [] } := by
  have hloads : (load .lenient ⟨"", ""⟩ mixedRoot).isOk = true := by
    rw [load, home?_mixedRoot]
    decide +kernel
  obtain ⟨r, hload⟩ := Result.exists_of_isOk hloads
  obtain ⟨e, e', hsifted⟩ := sifted_mixedRoot
  obtain ⟨hstrict, hdefects⟩ := (load_leniently.2 hload).2 keptRoot _ hsifted
  exact ⟨r, hload, by rw [hdefects]; rfl, hstrict⟩

end Ruleset

end CharacterSheet
