import CharacterSheet.Proofs.Loading

/-! Files that are no data files. Clearing a folder takes them away at every depth, and what is read from
a folder is read from the cleared one: such a file adds neither records nor standard fields. The one
exception is the search for the ruleset's own file, which goes by the name before the ending. There a
file that is no data file can stand before all others, and then the loading ends with it. -/

namespace CharacterSheet

namespace File

def dataEndings : List String := [".toml", ".json", ".yaml", ".yml"]

/-- A file whose ending tells what it is written in. -/
def isData (f : File) : Bool := dataEndings.contains f.ending

theorem format?_of_foreign {f : File} (hf : f.isData = false) : f.format? = none := by
  simp only [isData, dataEndings, List.contains_eq_mem, List.mem_cons, List.not_mem_nil, or_false,
    decide_eq_false_iff_not, not_or] at hf
  obtain ⟨htoml, hjson, hyaml, hyml⟩ := hf
  simp [format?, Format.ofEnding?, htoml, hjson, hyaml, hyml]

theorem isData_of_name {f g : File} (h : f.name = g.name) : f.isData = g.isData := by
  rw [isData, isData, ending, ending, h]

end File

namespace Folder

mutual

/-- The same folder with none but data files, at every depth. -/
def cleared (f : Folder) : Folder :=
  match f with
  | ⟨name, files, folders⟩ => ⟨name, files.filter File.isData, clearedAll folders⟩

def clearedAll : List Folder → List Folder
  | [] => []
  | f :: r => f.cleared :: clearedAll r

end

/-- The folder that a path of names leads to. -/
def folderAt? : List String → Folder → Option Folder
  | [], f => some f
  | name :: path, f => (f.folder? name).bind (folderAt? path)

theorem name_cleared (f : Folder) : f.cleared.name = f.name := by
  obtain ⟨name, files, folders⟩ := f
  rfl

theorem isSpecial_cleared (f : Folder) : f.cleared.isSpecial = f.isSpecial := by
  rw [isSpecial, isSpecial, name_cleared]

theorem files_cleared (f : Folder) : f.cleared.files = f.files.filter File.isData := by
  obtain ⟨name, files, folders⟩ := f
  rfl

theorem clearedAll_eq (fs : List Folder) : clearedAll fs = fs.map cleared := by
  induction fs with
  | nil => rfl
  | cons f r ih => rw [clearedAll, ih, List.map_cons]

theorem folders_cleared (f : Folder) : f.cleared.folders = f.folders.map cleared := by
  obtain ⟨name, files, folders⟩ := f
  exact clearedAll_eq folders

theorem proper_cleared (f : Folder) : f.cleared.folders.filter (fun g => !g.isSpecial) =
    (f.folders.filter fun g => !g.isSpecial).map cleared := by
  have hspecial : (fun g : Folder => !g.isSpecial) ∘ cleared = fun g => !g.isSpecial :=
    funext fun g => congrArg not (isSpecial_cleared g)
  rw [folders_cleared, List.filter_map, hspecial]

/-! ## Clearing and order -/

section

variable {α : Type} (name : α → String)

/-- Where an item stands in a sorted list is told by what comes before it and what does not. -/
theorem append_cons_eq {a : α} {l₁ l₂ m₁ m₂ : List α} (h : l₁ ++ l₂ = m₁ ++ m₂)
    (hl₁ : ∀ b ∈ l₁, ¬ name a ≤ name b) (hl₂ : ∀ b ∈ l₂, name a ≤ name b)
    (hm₁ : ∀ b ∈ m₁, ¬ name a ≤ name b) (hm₂ : ∀ b ∈ m₂, name a ≤ name b) :
    l₁ ++ a :: l₂ = m₁ ++ a :: m₂ := by
  rcases List.append_eq_append_iff.mp h with ⟨bs, rfl, rfl⟩ | ⟨bs, rfl, rfl⟩
  · cases bs with
    | nil => simp
    | cons b bs => exact absurd (hl₂ b (by simp)) (hm₁ b (by simp))
  · cases bs with
    | nil => simp
    | cons b bs => exact absurd (hm₂ b (by simp)) (hl₁ b (by simp))

/-- Sorting is stable, so it does not see what is filtered out. -/
theorem filter_mergeSort (p : α → Bool) (xs : List α) :
    (xs.mergeSort fun a b => name a ≤ name b).filter p =
      (xs.filter p).mergeSort fun a b => name a ≤ name b := by
  induction xs with
  | nil => simp
  | cons a r ih =>
    obtain ⟨l₁, l₂, hcons, hr, hl₁⟩ :=
      List.mergeSort_cons (names_le_trans name) (names_le_total name) a r
    have hsorted : (l₁ ++ a :: l₂).Pairwise fun a b => name a ≤ name b :=
      hcons ▸ mergeSort_names name (a :: r)
    have hl₂ : ∀ b ∈ l₂, name a ≤ name b :=
      (List.pairwise_cons.mp (List.pairwise_append.mp hsorted).2.1).1
    rw [hr, List.filter_append] at ih
    rw [hcons, List.filter_append]
    cases hp : p a with
    | false =>
      rw [List.filter_cons_of_neg (by simp [hp]), List.filter_cons_of_neg (by simp [hp]), ih]
    | true =>
      rw [List.filter_cons_of_pos hp, List.filter_cons_of_pos hp]
      obtain ⟨m₁, m₂, hcons', hr', hm₁⟩ :=
        List.mergeSort_cons (names_le_trans name) (names_le_total name) a (r.filter p)
      have hsorted' : (m₁ ++ a :: m₂).Pairwise fun a b => name a ≤ name b :=
        hcons' ▸ mergeSort_names name (a :: r.filter p)
      rw [hcons']
      refine append_cons_eq name (ih.trans hr') ?_ ?_ ?_ ?_
      · exact fun b hb => by simpa using hl₁ b (List.mem_filter.mp hb).1
      · exact fun b hb => hl₂ b (List.mem_filter.mp hb).1
      · exact fun b hb => by simpa using hm₁ b hb
      · exact (List.pairwise_cons.mp (List.pairwise_append.mp hsorted').2.1).1

end

mutual

theorem cleared_inOrder : ∀ f : Folder, f.inOrder.cleared = f.cleared.inOrder
  | ⟨name, files, folders⟩ => by
    rw [inOrder, cleared, cleared, inOrder]
    have hfiles : (sortFiles files).filter File.isData = sortFiles (files.filter File.isData) :=
      filter_mergeSort File.name File.isData files
    have hfolders : clearedAll (sortFolders (inOrderAll folders)) =
        sortFolders (inOrderAll (clearedAll folders)) := by
      rw [clearedAll_eq, ← clearedAll_inOrderAll folders, clearedAll_eq]
      refine List.map_mergeSort fun a _ b _ => ?_
      rw [name_cleared, name_cleared]
    rw [hfiles, hfolders]

theorem clearedAll_inOrderAll : ∀ fs : List Folder,
    clearedAll (inOrderAll fs) = inOrderAll (clearedAll fs)
  | [] => rfl
  | f :: r => by
    rw [inOrderAll, clearedAll, clearedAll, inOrderAll, cleared_inOrder f, clearedAll_inOrderAll r]

end

/-! ## Adding a file -/

section

variable {g : File} {f h : Folder} {name : String} {path : List String}

theorem name_addFile (g : File) (path : List String) (f : Folder) :
    (f.addFile g path).name = f.name := by
  cases path <;> rfl

theorem folder?_name (hf : f.folder? name = some h) : h.name = name := by
  simpa using List.find?_some hf

theorem exists_folder (hpath : (f.folderAt? (name :: path)).isSome) :
    ∃ h, f.folder? name = some h ∧ (h.folderAt? path).isSome := by
  cases hf : f.folder? name with
  | none => simp [folderAt?, hf] at hpath
  | some h => exact ⟨h, rfl, by simpa [folderAt?, hf] using hpath⟩

theorem folders_addFile_cons (hf : f.folder? name = some h) :
    (f.addFile g (name :: path)).folders = replace (h.addFile g path) f.folders := by
  rw [addFile, hf]
  rfl

/-- The folder that is replaced stands somewhere in the list, and no other changes. -/
theorem replace_eq {k : Folder} {fs : List Folder}
    (hf : fs.find? (fun x => x.name == k.name) = some h) :
    ∃ before after, fs = before ++ h :: after ∧ replace k fs = before ++ k :: after := by
  induction fs with
  | nil => cases hf
  | cons x r ih =>
    rw [List.find?_cons] at hf
    rw [replace]
    split at hf
    · rename_i hx
      cases hf
      exact ⟨[], r, rfl, if_pos hx⟩
    · rename_i hx
      obtain ⟨before, after, hr, hreplace⟩ := ih hf
      exact ⟨x :: before, after, congrArg _ hr, by rw [hx, hreplace]; rfl⟩

/-- Among the folders, the one with a file added stands in the place of the one without. -/
theorem addFile_cons (g : File) (path : List String) (hf : f.folder? name = some h) :
    ∃ before after, f.folders = before ++ h :: after ∧
      (f.addFile g (name :: path)).folders = before ++ h.addFile g path :: after := by
  rw [folders_addFile_cons hf]
  refine replace_eq ?_
  rw [name_addFile, folder?_name hf]
  exact hf

theorem mem_files_addFile {x : File} :
    x ∈ (f.addFile g path).files ↔ x ∈ f.files ∨ path = [] ∧ x = g := by
  cases path with
  | nil => simp [addFile]
  | cons name path => simp [addFile]

theorem cleared_addFile (hg : g.isData = false) (hpath : (f.folderAt? path).isSome) :
    (f.addFile g path).cleared = f.cleared := by
  induction path generalizing f with
  | nil =>
    obtain ⟨name, files, folders⟩ := f
    rw [addFile, cleared, cleared, List.filter_append, List.filter_cons_of_neg (by simp [hg])]
    simp
  | cons name path ih =>
    obtain ⟨h, hf, hpath⟩ := exists_folder hpath
    obtain ⟨before, after, hfolders, hadded⟩ := addFile_cons g path hf
    have hall : clearedAll (f.addFile g (name :: path)).folders = clearedAll f.folders := by
      rw [hfolders, hadded, clearedAll_eq, clearedAll_eq, List.map_append, List.map_append,
        List.map_cons, List.map_cons, ih hpath]
    obtain ⟨fname, files, folders⟩ := f
    rw [cleared, ← hall]
    rfl

end

end Folder

namespace Draft

variable {base : String} {standard : Entries}

theorem documents_of_foreign {f : File} (hf : f.isData = false) : f.documents = .empty := by
  rw [File.documents, File.format?_of_foreign hf]

theorem addStandard_data (standard : Entries) (fs : List File) :
    addStandard standard (fs.filter File.isData) = addStandard standard fs := by
  induction fs generalizing standard with
  | nil => rfl
  | cons f r ih =>
    cases hf : f.isData with
    | true =>
      rw [List.filter_cons_of_pos hf, addStandard, addStandard]
      simp only [ih]
    | false =>
      rw [List.filter_cons_of_neg (by simp [hf]), ih, addStandard, documents_of_foreign hf]
      split <;> rfl

theorem ofFiles_data (fs : List File) :
    ofFiles base standard (fs.filter File.isData) = ofFiles base standard fs := by
  induction fs with
  | nil => rfl
  | cons f r ih =>
    cases hf : f.isData with
    | true => rw [List.filter_cons_of_pos hf, ofFiles, ofFiles, ih]
    | false =>
      rw [List.filter_cons_of_neg (by simp [hf]), ih, ofFiles, ofFile, documents_of_foreign hf]
      split <;> rfl

mutual

theorem ofFolder_cleared : ∀ (f : Folder) (base : String) (standard : Entries),
    ofFolder base standard f.cleared = ofFolder base standard f
  | ⟨name, files, folders⟩, base, standard => by
    rw [Folder.cleared, ofFolder, ofFolder, addStandard_data]
    cases addStandard standard files with
    | error fault => rfl
    | ok standard =>
      show ofFiles base standard (files.filter File.isData) ++ _ = _
      rw [ofFiles_data, ofFolders_cleared folders base standard]

theorem ofFolders_cleared : ∀ (fs : List Folder) (base : String) (standard : Entries),
    ofFolders base standard (Folder.clearedAll fs) = ofFolders base standard fs
  | [], _, _ => rfl
  | f :: r, base, standard => by
    rw [Folder.clearedAll, ofFolders, ofFolders, Folder.isSpecial_cleared, Folder.name_cleared,
      ofFolder_cleared f, ofFolders_cleared r]

end

end Draft

namespace Ruleset

section

variable {mode : Strictness} {place : Location} {base : String} {root f : Folder} {home : Home}

/-- The same file in a folder of data files. -/
def Home.cleared (h : Home) : Home := { h with folder := h.folder.cleared }

theorem find?_filter_of_imp {α : Type} {p q : α → Bool} {xs : List α}
    (h : ∀ x, xs.find? p = some x → q x = true) : (xs.filter q).find? p = xs.find? p := by
  induction xs with
  | nil => rfl
  | cons x r ih =>
    rw [List.find?_cons] at h ⊢
    cases hp : p x with
    | true => simp [h x (by rw [hp]), hp]
    | false =>
      rw [hp] at h
      rw [← ih h, List.filter_cons]
      split <;> simp [hp]

theorem homeAt?_cleared (h : ∀ x, homeAt? base f = some x → x.file.isData = true) :
    homeAt? base f.cleared = (homeAt? base f).map Home.cleared := by
  have hfile : rulesetFile? f.cleared = rulesetFile? f := by
    rw [rulesetFile?, Folder.files_cleared]
    refine find?_filter_of_imp fun x hx => ?_
    exact h ⟨base, x, f⟩ (by rw [homeAt?, rulesetFile?, hx]; rfl)
  rw [homeAt?, homeAt?, hfile, Option.map_map]
  rfl

theorem homeBelow?_cleared {fs : List Folder}
    (h : ∀ x, (fs.findSome? fun g => homeAt? (base ++ g.name ++ "/") g) = some x →
      x.file.isData = true) :
    ((fs.map Folder.cleared).findSome? fun g => homeAt? (base ++ g.name ++ "/") g) =
      (fs.findSome? fun g => homeAt? (base ++ g.name ++ "/") g).map Home.cleared := by
  induction fs with
  | nil => rfl
  | cons f r ih =>
    rw [List.findSome?_cons] at h
    rw [List.map_cons, List.findSome?_cons, List.findSome?_cons, Folder.name_cleared]
    cases hf : homeAt? (base ++ f.name ++ "/") f with
    | some x =>
      rw [hf] at h
      rw [homeAt?_cleared fun y hy => h y (hf.symm.trans hy), hf]
      rfl
    | none =>
      rw [hf] at h
      rw [homeAt?_cleared (fun y hy => by rw [hf] at hy; cases hy), hf]
      exact ih h

/-- Where a data file is found, it is found in the cleared folder too. -/
theorem home?_cleared (h : ∀ x, home? base root = some x → x.file.isData = true) :
    home? base root.cleared = (home? base root).map Home.cleared := by
  rw [home?] at h
  rw [home?, home?, Folder.proper_cleared]
  cases hat : homeAt? base root with
  | some x =>
    rw [hat] at h
    rw [homeAt?_cleared fun y hy => h y (by rw [← hat, hy]; rfl), hat]
    rfl
  | none =>
    rw [hat] at h
    rw [homeAt?_cleared (fun y hy => by rw [hat] at hy; cases hy), hat]
    exact homeBelow?_cleared h

theorem addFolder_cleared (r : Ruleset) (f : Folder) :
    addFolder mode base r f.cleared = addFolder mode base r f := by
  rw [addFolder, addFolder, Draft.ofFolder_cleared, Folder.name_cleared]

/-- If the ruleset's file is a data file, nothing else than data files is read. -/
theorem load_cleared (h : ∀ x, home? place.base root.inOrder = some x → x.file.isData = true) :
    load mode place root.cleared = load mode place root := by
  rw [load, load, ← Folder.cleared_inOrder, home?_cleared h]
  cases home? place.base root.inOrder with
  | none => rfl
  | some home =>
    simp only [Option.map_some, Home.cleared, Folder.proper_cleared, List.foldlM_map,
      addFolder_cleared]

theorem load_foreign (h : home? place.base root.inOrder = some home)
    (hfile : home.file.isData = false) :
    load mode place root = .error (.value (.emptyRuleset place.shown)) := by
  rw [load, h]
  show (settings place.shown home.file >>= _) = _
  rw [settings, Draft.documents_of_foreign hfile]
  rfl

end

/-! ## The search for the ruleset's own file -/

/-- The files that may be a ruleset's own, with the folders that lead to them. -/
inductive Sought (root : Folder) : List String → File → Prop
  | here {x : File} (hx : x ∈ root.files) (hstem : x.stem = "ruleset") : Sought root [] x
  | within {f : Folder} {x : File} (hf : f ∈ root.folders) (hproper : f.isSpecial = false)
    (hx : x ∈ f.files) (hstem : x.stem = "ruleset") : Sought root [f.name] x

/-- One file stands before another if its folder does, or its name in the same folder. -/
def Before (path : List String) (x : File) (path' : List String) (y : File) : Prop :=
  path < path' ∨ path = path' ∧ x.name < y.name

/-- A file that is added under a path comes before all that may be the ruleset's own. -/
def Preempts (root : Folder) (path : List String) (g : File) : Prop :=
  Sought (root.addFile g path) path g ∧ ∀ path' x, Sought root path' x → Before path g path' x

section

variable {mode : Strictness} {place : Location} {base : String} {root f : Folder} {home : Home}
  {path path' : List String} {g x y : File}

theorem eq_of_not_before (h : ¬ Before path x path' y) (h' : ¬ Before path' y path x) :
    path = path' ∧ x.name = y.name := by
  rw [Before, not_or] at h h'
  obtain rfl := List.le_antisymm h'.1 h.1
  refine ⟨rfl, String.le_antisymm ?_ ?_⟩
  · exact String.not_lt.mp fun hlt => h'.2 ⟨rfl, hlt⟩
  · exact String.not_lt.mp fun hlt => h.2 ⟨rfl, hlt⟩

theorem mem_folders_inOrder : f ∈ root.inOrder.folders ↔ ∃ k ∈ root.folders, k.inOrder = f := by
  obtain ⟨name, files, folders⟩ := root
  rw [Folder.inOrder, Folder.sortFolders, List.mem_mergeSort, Folder.inOrderAll_eq, List.mem_map]

theorem mem_files_inOrder : x ∈ root.inOrder.files ↔ x ∈ root.files := by
  obtain ⟨name, files, folders⟩ := root
  exact List.mem_mergeSort

theorem sought_inOrder : Sought root.inOrder path x ↔ Sought root path x := by
  constructor
  · intro h
    cases h with
    | here hx hstem => exact .here (mem_files_inOrder.mp hx) hstem
    | within hf hproper hx hstem =>
      obtain ⟨k, hk, rfl⟩ := mem_folders_inOrder.mp hf
      rw [Folder.isSpecial] at hproper
      rw [Folder.name_inOrder] at hproper ⊢
      exact .within hk hproper (mem_files_inOrder.mp hx) hstem
  · intro h
    cases h with
    | here hx hstem => exact .here (mem_files_inOrder.mpr hx) hstem
    | @within k _ hk hproper hx hstem =>
      rw [← Folder.name_inOrder k]
      rw [Folder.isSpecial, ← Folder.name_inOrder k] at hproper
      exact .within (mem_folders_inOrder.mpr ⟨k, hk, rfl⟩) hproper (mem_files_inOrder.mpr hx) hstem

theorem rulesetFile?_least (hs : f.files.Pairwise fun a b => a.name ≤ b.name)
    (h : rulesetFile? f = some x) : x ∈ f.files ∧ x.stem = "ruleset" ∧
      ∀ y ∈ f.files, y.stem = "ruleset" → x.name ≤ y.name := by
  obtain ⟨hstem, before, after, hfiles, hbefore⟩ := List.find?_eq_some_iff_append.mp h
  rw [hfiles] at hs ⊢
  refine ⟨by simp, by simpa using hstem, fun y hy hstemy => ?_⟩
  rcases List.mem_append.mp hy with hy | hy
  · simpa [hstemy] using hbefore y hy
  · rcases List.mem_cons.mp hy with rfl | hy
    · exact String.le_refl _
    · exact (List.pairwise_cons.mp (List.pairwise_append.mp hs).2.1).1 y hy

theorem rulesetFile?_none (h : rulesetFile? f = none) (hx : x ∈ f.files) : x.stem ≠ "ruleset" := by
  simpa using List.find?_eq_none.mp h x hx

theorem homeAt?_none (h : homeAt? base f = none) : rulesetFile? f = none := by
  simpa [homeAt?] using h

theorem homeAt?_some (h : homeAt? base f = some home) : rulesetFile? f = some home.file := by
  obtain ⟨x, hx, rfl⟩ := Option.map_eq_some_iff.mp h
  exact hx

theorem home?_none (h : home? base root = none) : ¬ Sought root path x := by
  rw [home?, Option.or_eq_none_iff] at h
  intro hx
  cases hx with
  | here hx hstem => exact rulesetFile?_none (homeAt?_none h.1) hx hstem
  | within hf hproper hx hstem =>
    have hnone := List.findSome?_eq_none_iff.mp h.2 _ (List.mem_filter.mpr ⟨hf, by simp [hproper]⟩)
    exact rulesetFile?_none (homeAt?_none hnone) hx hstem

/-- Folders in the order of distinct names. -/
theorem pairwise_lt_names {fs : List Folder} (hs : fs.Pairwise fun a b => a.name ≤ b.name)
    (hnames : (fs.map Folder.name).Nodup) : fs.Pairwise fun a b => a.name < b.name := by
  refine (hs.and (List.pairwise_map.mp hnames)).imp fun {a b} h => ?_
  exact String.not_le.mp fun hle => h.2 (String.le_antisymm h.1 hle)

/-- The search takes the first of all files that may be the ruleset's own. -/
theorem home?_least (hs : root.Ordered) (hnames : (root.folders.map Folder.name).Nodup)
    (h : home? base root = some home) : ∃ path, Sought root path home.file ∧
      ∀ path' x, Sought root path' x → ¬ Before path' x path home.file := by
  rw [home?, Option.or_eq_some_iff] at h
  rcases h with h | ⟨hnone, h⟩
  · obtain ⟨hmem, hstem, hleast⟩ := rulesetFile?_least (hs root (.self root)).1 (homeAt?_some h)
    refine ⟨[], .here hmem hstem, fun path' x hx hbefore => ?_⟩
    cases hx with
    | here hx hstemx =>
      rcases hbefore with hlt | ⟨_, hlt⟩
      · cases hlt
      · exact String.not_le.mpr hlt (hleast x hx hstemx)
    | within =>
      rcases hbefore with hlt | ⟨he, _⟩
      · cases hlt
      · cases he
  · obtain ⟨before, k, after, hfolders, hk, hbefore⟩ := List.findSome?_eq_some_iff.mp h
    have hmemk : k ∈ root.folders ∧ k.isSpecial = false := by
      have hmem : k ∈ root.folders.filter fun g => !g.isSpecial := by simp [hfolders]
      simpa using hmem
    have hsorted : (before ++ k :: after).Pairwise fun a b => a.name < b.name :=
      hfolders ▸ (pairwise_lt_names (hs root (.self root)).2 hnames).filter _
    obtain ⟨hmem, hstem, hleast⟩ :=
      rulesetFile?_least (hs k (.inner hmemk.1 (.self k))).1 (homeAt?_some hk)
    refine ⟨[k.name], .within hmemk.1 hmemk.2 hmem hstem, fun path' x hx hlt => ?_⟩
    cases hx with
    | here hx hstemx => exact rulesetFile?_none (homeAt?_none hnone) hx hstemx
    | @within f _ hf hproper hx hstemx =>
      have hf : f ∈ before ++ k :: after := hfolders ▸ List.mem_filter.mpr ⟨hf, by simp [hproper]⟩
      rcases List.mem_append.mp hf with hf | hf
      · exact rulesetFile?_none (homeAt?_none (hbefore f hf)) hx hstemx
      rcases List.mem_cons.mp hf with rfl | hf
      · rcases hlt with hlt | ⟨_, hlt⟩
        · exact List.lt_irrefl _ hlt
        · exact String.not_le.mpr hlt (hleast x hx hstemx)
      · have hlater : k.name < f.name :=
          (List.pairwise_cons.mp (List.pairwise_append.mp hsorted).2.1).1 f hf
        rcases hlt with hlt | ⟨he, _⟩
        · have hsooner : f.name < k.name := by simpa [List.cons_lt_cons_iff] using hlt
          exact String.lt_asymm hsooner hlater
        · exact String.ne_of_lt hlater (List.cons_eq_cons.mp he).1.symm

theorem nodup_names_inOrder (hnames : (root.folders.map Folder.name).Nodup) :
    (root.inOrder.folders.map Folder.name).Nodup := by
  obtain ⟨name, files, folders⟩ := root
  have hperm : (Folder.sortFolders (Folder.inOrderAll folders)).Perm
      (folders.map Folder.inOrder) := by
    rw [← Folder.inOrderAll_eq]
    exact List.mergeSort_perm _ _
  refine (hperm.map Folder.name).nodup_iff.mpr ?_
  rw [List.map_map, show Folder.name ∘ Folder.inOrder = Folder.name from funext Folder.name_inOrder]
  exact hnames

/-- What was sought still is when a file is added. -/
theorem Sought.addFile (hx : Sought root path' x) (hpath : (root.folderAt? path).isSome) :
    Sought (root.addFile g path) path' x := by
  cases hx with
  | here hx hstem => exact .here (Folder.mem_files_addFile.mpr (.inl hx)) hstem
  | @within f _ hf hproper hx hstem =>
    cases path with
    | nil => exact .within hf hproper hx hstem
    | cons name path =>
      obtain ⟨h, hh, _⟩ := Folder.exists_folder hpath
      obtain ⟨before, after, hfolders, hadded⟩ := Folder.addFile_cons g path hh
      rw [hfolders] at hf
      rcases List.mem_append.mp hf with hf | hf
      · exact .within (hadded ▸ List.mem_append_left _ hf) hproper hx hstem
      rcases List.mem_cons.mp hf with rfl | hf
      · have hmem : f.addFile g path ∈ (root.addFile g (name :: path)).folders := by simp [hadded]
        have hx' : x ∈ (f.addFile g path).files := Folder.mem_files_addFile.mpr (.inl hx)
        have hname := Folder.name_addFile g path f
        rw [Folder.isSpecial, ← hname] at hproper
        rw [← hname]
        exact .within hmem hproper hx' hstem
      · exact .within (hadded ▸ List.mem_append_right _ (List.mem_cons_of_mem _ hf)) hproper hx hstem

/-- Nothing is new but the file that is added. -/
theorem sought_of_addFile (hx : Sought (root.addFile g path) path' x)
    (hpath : (root.folderAt? path).isSome) : Sought root path' x ∨ path' = path ∧ x = g := by
  cases hx with
  | here hx hstem =>
    rcases Folder.mem_files_addFile.mp hx with hx | ⟨rfl, rfl⟩
    · exact .inl (.here hx hstem)
    · exact .inr ⟨rfl, rfl⟩
  | @within f _ hf hproper hx hstem =>
    cases path with
    | nil => exact .inl (.within hf hproper hx hstem)
    | cons name path =>
      obtain ⟨h, hh, _⟩ := Folder.exists_folder hpath
      obtain ⟨before, after, hfolders, hadded⟩ := Folder.addFile_cons g path hh
      rw [hadded] at hf
      rcases List.mem_append.mp hf with hf | hf
      · exact .inl (.within (hfolders ▸ List.mem_append_left _ hf) hproper hx hstem)
      rcases List.mem_cons.mp hf with rfl | hf
      · have hname := Folder.name_addFile g path h
        rw [Folder.isSpecial, hname] at hproper
        rw [hname]
        rcases Folder.mem_files_addFile.mp hx with hx | ⟨rfl, rfl⟩
        · exact .inl (.within (by simp [hfolders]) hproper hx hstem)
        · exact .inr ⟨by rw [Folder.folder?_name hh], rfl⟩
      · exact .inl (.within (hfolders ▸ List.mem_append_right _ (List.mem_cons_of_mem _ hf)) hproper
          hx hstem)

/-- The file that is found in a folder, in the folder as it stands. -/
theorem found_least (hnames : (root.folders.map Folder.name).Nodup)
    (h : home? base root.inOrder = some home) : ∃ path, Sought root path home.file ∧
      ∀ path' x, Sought root path' x → ¬ Before path' x path home.file := by
  obtain ⟨path, hsought, hleast⟩ :=
    home?_least (Folder.inOrder_ordered root) (nodup_names_inOrder hnames) h
  exact ⟨path, sought_inOrder.mp hsought, fun path' x hx => hleast path' x (sought_inOrder.mpr hx)⟩

/-- Loading gets no further than to a ruleset file that is a data file. -/
theorem exists_home_of_load {r : Ruleset} (hload : load mode place root = .ok r) :
    ∃ home, home? place.base root.inOrder = some home ∧ home.file.isData = true := by
  cases hhome : home? place.base root.inOrder with
  | none =>
    rw [load, hhome] at hload
    cases hload
  | some home =>
    refine ⟨home, rfl, ?_⟩
    by_contra hforeign
    rw [load_foreign hhome (by simpa using hforeign)] at hload
    cases hload

theorem names_addFile (hpath : (root.folderAt? path).isSome) :
    (root.addFile g path).folders.map Folder.name = root.folders.map Folder.name := by
  cases path with
  | nil => rfl
  | cons name path =>
    obtain ⟨h, hf, _⟩ := Folder.exists_folder hpath
    obtain ⟨before, after, hfolders, hadded⟩ := Folder.addFile_cons g path hf
    simp [hfolders, hadded, Folder.name_addFile]

/-- Where a data file was found, the search ends with the added file if and only if that comes first. -/
theorem found_addFile (hg : g.isData = false) (hpath : (root.folderAt? path).isSome)
    (hnames : (root.folders.map Folder.name).Nodup)
    (hhome : home? base root.inOrder = some home) (hdata : home.file.isData = true) :
    ∃ home', home? base (root.addFile g path).inOrder = some home' ∧
      (home'.file.isData = false ↔ Preempts root path g) := by
  obtain ⟨path₀, hsought₀, hleast₀⟩ := found_least hnames hhome
  have hkept : ∀ {q x}, Sought root q x → Sought (root.addFile g path) q x := fun h => h.addFile hpath
  obtain ⟨home', hhome'⟩ : ∃ home', home? base (root.addFile g path).inOrder = some home' := by
    refine Option.ne_none_iff_exists'.mp fun hnone => ?_
    exact home?_none hnone (sought_inOrder.mpr (hkept hsought₀))
  obtain ⟨path', hsought', hleast'⟩ := found_least (names_addFile (g := g) hpath ▸ hnames) hhome'
  refine ⟨home', hhome', fun hforeign => ?_, ?_⟩
  · -- Else two files that stand first would bear one name, the one a data file and the other none.
    have hne : ∀ {x : File}, x.isData = false → home.file.name ≠ x.name := by
      intro x hx hname
      rw [File.isData_of_name hname, hx] at hdata
      cases hdata
    have hadded : path' = path ∧ home'.file = g := by
      refine (sought_of_addFile hsought' hpath).resolve_left fun hold => ?_
      exact hne hforeign (eq_of_not_before (hleast' _ _ (hkept hsought₀)) (hleast₀ _ _ hold)).2
    obtain ⟨rfl, rfl⟩ := hadded
    refine ⟨hsought', fun q y hy => ?_⟩
    by_contra hlater
    obtain ⟨rfl, hname⟩ := eq_of_not_before hlater (hleast' _ _ (hkept hy))
    have hfirst : ¬ Before path₀ home.file path' y := by
      rw [Before, ← hname]
      exact hleast' _ _ (hkept hsought₀)
    exact hne ((File.isData_of_name hname).symm.trans hg)
      (eq_of_not_before hfirst (hleast₀ _ _ hy)).2
  · intro hfirst
    rcases sought_of_addFile hsought' hpath with hold | ⟨_, hadded⟩
    · exact absurd (hfirst.2 _ _ hold) (hleast' _ _ hfirst.1)
    · rw [hadded]
      exact hg

/-- A file that is no data file changes what is loaded if and only if it comes before all that may be
the ruleset's own file, and then nothing is loaded. -/
theorem load_addFile (hg : g.isData = false) (hpath : (root.folderAt? path).isSome)
    (hnames : (root.folders.map Folder.name).Nodup) {r : Ruleset}
    (hload : load mode place root = .ok r) :
    (¬ Preempts root path g → load mode place (root.addFile g path) = .ok r) ∧
    (Preempts root path g →
      load mode place (root.addFile g path) = .error (.value (.emptyRuleset place.shown))) := by
  obtain ⟨home, hhome, hdata⟩ := exists_home_of_load hload
  obtain ⟨home', hhome', hforeign⟩ := found_addFile hg hpath hnames hhome hdata
  refine ⟨fun hnot => ?_, fun hfirst => load_foreign hhome' (hforeign.mpr hfirst)⟩
  have hhomes : ∀ x, home? place.base root.inOrder = some x → x.file.isData = true := by
    intro x hx
    cases hhome.symm.trans hx
    exact hdata
  have hhomes' : ∀ x, home? place.base (root.addFile g path).inOrder = some x →
      x.file.isData = true := by
    intro x hx
    cases hhome'.symm.trans hx
    exact (Bool.not_eq_false _).mp fun hf => hnot (hforeign.mp hf)
  calc load mode place (root.addFile g path)
      = load mode place (root.addFile g path).cleared := (load_cleared hhomes').symm
    _ = load mode place root.cleared := by rw [Folder.cleared_addFile hg hpath]
    _ = load mode place root := load_cleared hhomes
    _ = .ok r := hload

end

/-! Two files that bear the ruleset's name without being data files. One comes behind the ruleset's own
file, the other before it. -/

def listFile : File := ⟨"ruleset.txt", "T\n"⟩

def readmeFile : File := ⟨"ruleset.md", "# T\n"⟩

theorem exists_load_unsortedRoot : ∃ r, load .strict ⟨"", ""⟩ unsortedRoot = .ok r := by
  apply Result.exists_of_isOk
  rw [load, home?_unsortedRoot]
  decide +kernel

theorem not_preempts_listFile : ¬ Preempts unsortedRoot [] listFile := by
  rintro ⟨_, hbefore⟩
  have hstem : settingsFile.stem = "ruleset" := by decide +kernel
  rcases hbefore [] settingsFile (.here (by simp [unsortedRoot]) hstem) with hlt | ⟨_, hlt⟩
  · exact List.not_lt_nil _ hlt
  · exact absurd hlt (by decide)

theorem preempts_readmeFile : Preempts unsortedRoot [] readmeFile := by
  have hstem : readmeFile.stem = "ruleset" := by decide +kernel
  refine ⟨.here (Folder.mem_files_addFile.mpr (.inr ⟨rfl, rfl⟩)) hstem, fun path' x hx => ?_⟩
  cases hx with
  | here hx =>
    obtain rfl := List.mem_singleton.mp hx
    exact .inr ⟨rfl, by decide⟩
  | within => exact .inl (List.nil_lt_cons _ _)

theorem load_addFile_named : ∃ r, load .strict ⟨"", ""⟩ unsortedRoot = .ok r ∧
    load .strict ⟨"", ""⟩ (unsortedRoot.addFile listFile []) = .ok r ∧
    load .strict ⟨"", ""⟩ (unsortedRoot.addFile readmeFile []) =
      .error (.value (.emptyRuleset "")) := by
  obtain ⟨r, hload⟩ := exists_load_unsortedRoot
  have hnames : (unsortedRoot.folders.map Folder.name).Nodup := by decide
  refine ⟨r, hload, ?_, ?_⟩
  · have hlist : listFile.isData = false := by decide +kernel
    exact (load_addFile hlist rfl hnames hload).1 not_preempts_listFile
  · have hreadme : readmeFile.isData = false := by decide +kernel
    exact (load_addFile hreadme rfl hnames hload).2 preempts_readmeFile

/-! A folder with nothing in it but the ruleset's own file. -/

def bareRoot : Folder := ⟨"", [settingsFile], []⟩

theorem home?_bareRoot :
    home? "rs/" bareRoot.inOrder = some ⟨"rs/", settingsFile, bareRoot⟩ := by
  have horder : bareRoot.inOrder = bareRoot := by
    simp [bareRoot, Folder.inOrder, Folder.inOrderAll, Folder.sortFiles, Folder.sortFolders]
  rw [horder]
  rfl

theorem home?_bareRoot_readme : ∃ f, home? "rs/" (bareRoot.addFile readmeFile []).inOrder =
    some ⟨"rs/", readmeFile, f⟩ := by
  have horder : (bareRoot.addFile readmeFile []).inOrder = ⟨"", [readmeFile, settingsFile], []⟩ := by
    simp [bareRoot, Folder.addFile, Folder.inOrder, Folder.inOrderAll, Folder.sortFiles,
      Folder.sortFolders, List.mergeSort, List.MergeSort.Internal.splitInTwo, settingsFile,
      readmeFile]
  rw [horder]
  exact ⟨_, rfl⟩

/-- A file that is no data file is added, and what was loaded before is not loaded any more. -/
theorem foreign_file_ends_loading : ∃ r, load .strict ⟨"rs", "rs/"⟩ bareRoot = .ok r ∧
    readmeFile.isData = false ∧
    load .strict ⟨"rs", "rs/"⟩ (bareRoot.addFile readmeFile []) =
      .error (.value (.emptyRuleset "rs")) := by
  have hloads : (load .strict ⟨"rs", "rs/"⟩ bareRoot).isOk = true := by
    rw [load, home?_bareRoot]
    decide +kernel
  have hreadme : readmeFile.isData = false := by decide +kernel
  obtain ⟨r, hload⟩ := Result.exists_of_isOk hloads
  obtain ⟨f, hfound⟩ := home?_bareRoot_readme
  exact ⟨r, hload, hreadme, load_foreign hfound hreadme⟩

end Ruleset

end CharacterSheet
