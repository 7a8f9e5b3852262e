import CharacterSheet.Proofs.Placement
import CharacterSheet.Source.Load

/-! Loading a ruleset from a folder. The files and folders are first put in the order of their names, and
none is lost. Then each data folder gives its records in that order, and the lists of the ruleset are
those of its own file with these records behind them. -/

namespace CharacterSheet

namespace Folder

/-! ## The order of names -/

/-- A folder itself, and all that stand within it at any depth. -/
inductive Holds : Folder → Folder → Prop
  | self (f : Folder) : Holds f f
  | inner {f g h : Folder} (hg : g ∈ f.folders) (hh : Holds g h) : Holds f h

theorem Holds.trans {f g h : Folder} (hfg : f.Holds g) (hgh : g.Holds h) : f.Holds h := by
  induction hfg with
  | self => exact hgh
  | inner hg _ ih => exact .inner hg (ih hgh)

/-- Files and folders stand in the order of their names, at every depth. -/
def Ordered (f : Folder) : Prop :=
  ∀ h, f.Holds h → h.files.Pairwise (fun a b => a.name ≤ b.name) ∧
    h.folders.Pairwise fun a b => a.name ≤ b.name

mutual

/-- All files of a folder, each with the folders that lead to it. -/
def filesBelow (above : List String) : Folder → List (List String × File)
  | ⟨_, files, folders⟩ => files.map (above, ·) ++ filesBelowAll above folders

def filesBelowAll (above : List String) : List Folder → List (List String × File)
  | [] => []
  | f :: r => filesBelow (above ++ [f.name]) f ++ filesBelowAll above r

end

theorem name_inOrder (f : Folder) : f.inOrder.name = f.name := by
  obtain ⟨name, files, folders⟩ := f
  rfl

section

variable {α : Type} (name : α → String)

theorem names_le_trans (a b c : α) (hab : decide (name a ≤ name b) = true)
    (hbc : decide (name b ≤ name c) = true) : decide (name a ≤ name c) = true :=
  decide_eq_true (String.le_trans (of_decide_eq_true hab) (of_decide_eq_true hbc))

theorem names_le_total (a b : α) : (decide (name a ≤ name b) || decide (name b ≤ name a)) = true := by
  simpa using String.le_total (name a) (name b)

theorem mergeSort_names (xs : List α) :
    (xs.mergeSort fun a b => name a ≤ name b).Pairwise fun a b => name a ≤ name b := by
  have hsorted : (xs.mergeSort fun a b => decide (name a ≤ name b)).Pairwise
      fun a b => decide (name a ≤ name b) = true :=
    List.pairwise_mergeSort (names_le_trans name) (names_le_total name) xs
  exact hsorted.imp of_decide_eq_true

end

theorem inOrderAll_eq (fs : List Folder) : inOrderAll fs = fs.map inOrder := by
  induction fs with
  | nil => rfl
  | cons f r ih => rw [inOrderAll, ih, List.map_cons]

mutual

theorem inOrder_ordered : ∀ f : Folder, f.inOrder.Ordered
  | ⟨name, files, folders⟩ => by
    intro h hh
    cases hh with
    | self => exact ⟨mergeSort_names File.name _, mergeSort_names Folder.name _⟩
    | inner hg hh =>
      have hmem := (List.mergeSort_perm _ _).mem_iff.mp hg
      exact inOrderAll_ordered folders _ hmem _ hh

theorem inOrderAll_ordered : ∀ fs : List Folder, ∀ g ∈ inOrderAll fs, g.Ordered
  | [], _, hg => nomatch hg
  | f :: r, g, hg => by
    rcases List.mem_cons.mp hg with rfl | hg
    · exact inOrder_ordered f
    · exact inOrderAll_ordered r g hg

end

/-! ## Nothing is lost -/

theorem filesBelowAll_eq (above : List String) (fs : List Folder) :
    filesBelowAll above fs = fs.flatMap fun f => f.filesBelow (above ++ [f.name]) := by
  induction fs with
  | nil => rfl
  | cons f r ih => rw [filesBelowAll, ih, List.flatMap_cons]

mutual

theorem filesBelow_inOrder : ∀ (f : Folder) (above : List String),
    (f.inOrder.filesBelow above).Perm (f.filesBelow above)
  | ⟨name, files, folders⟩, above => by
    rw [inOrder, filesBelow, filesBelow]
    apply List.Perm.append ((List.mergeSort_perm _ _).map _)
    refine List.Perm.trans ?_ (filesBelowAll_inOrder folders above)
    rw [filesBelowAll_eq, filesBelowAll_eq]
    exact (List.mergeSort_perm _ _).flatMap_right _

theorem filesBelowAll_inOrder : ∀ (fs : List Folder) (above : List String),
    (filesBelowAll above (inOrderAll fs)).Perm (filesBelowAll above fs)
  | [], _ => .refl _
  | f :: r, above => by
    rw [inOrderAll, filesBelowAll, filesBelowAll, name_inOrder]
    exact (filesBelow_inOrder f _).append (filesBelowAll_inOrder r above)

end

end Folder

/-! ## Records behind those of the ruleset's own file -/

theorem exists_append_of_forall₂ {α β : Type} {R : α → β → Prop} {as bs : List α} {cs : List β}
    (h : List.Forall₂ R (as ++ bs) cs) :
    ∃ xs ys, cs = xs ++ ys ∧ List.Forall₂ R as xs ∧ List.Forall₂ R bs ys := by
  have hflip : List.Forall₂ (flip R) cs (as ++ bs) := h.flip
  exact ⟨cs.take as.length, cs.drop as.length, (List.take_append_drop _ _).symm,
    (List.forall₂_take_append cs as bs hflip).flip, (List.forall₂_drop_append cs as bs hflip).flip⟩

namespace Placed

/-- A record's draft is read as such a value. -/
def Reads {α : Type} (read : Record.Reader α) (p : Placed) (a : α) : Prop :=
  ∃ d, p.Gives d ∧ read d.merged = .valid a

theorem Gives.unique {p : Placed} {d d' : Draft} (h : p.Gives d) (h' : p.Gives d') : d = d' := by
  obtain ⟨es, hes, rfl⟩ := h
  obtain ⟨es', hes', rfl⟩ := h'
  cases hes.symm.trans hes'
  rfl

end Placed

namespace Ruleset

def draftsIn (base : String) (f : Folder) : Readout Draft :=
  Draft.ofFolder (base ++ f.name ++ "/") [] f

def placedIn (base : String) (f : Folder) : List Placed :=
  Placed.ofFolder (base ++ f.name ++ "/") [] f

/-- The records in those of some folders that have a name. -/
def placedUnder (base name : String) (fs : List Folder) : List Placed :=
  (fs.filter fun f => f.name == name).flatMap (placedIn base)

section

variable {α : Type} {mode : Strictness} {record : String} {read : Record.Reader α}

end

/-- The records of all kinds in some folders, as they are read. -/
structure Gathered (base : String) (fs : List Folder) (ts : List TraitDefinition)
    (ks : List TemplateDefinition) (rows : List TemplateRow) (ps : List MoralPath) : Prop where
  traits : List.Forall₂ (Placed.Reads TraitDefinition.read) (placedUnder base "traits" fs) ts
  templates :
    List.Forall₂ (Placed.Reads TemplateDefinition.read) (placedUnder base "templates" fs) ks
  rows : List.Forall₂ (Placed.Reads TemplateRow.read) (placedUnder base "template_traits" fs) rows
  paths : List.Forall₂ (Placed.Reads MoralPath.read) (placedUnder base "paths" fs) ps

section

variable {base : String} {mode : Strictness} {r : Ruleset} {f : Folder} {fs : List Folder}
  {ts : List TraitDefinition} {ks : List TemplateDefinition} {rows : List TemplateRow}
  {ps : List MoralPath}

theorem placedUnder_cons (name : String) :
    placedUnder base name (f :: fs) = placedUnder base name [f] ++ placedUnder base name fs := by
  rw [placedUnder, placedUnder, placedUnder, ← List.flatMap_append, ← List.filter_append]
  rfl

theorem Gathered.cons (h : Gathered base (f :: fs) ts ks rows ps) :
    ∃ ts₁ ts₂ ks₁ ks₂ rows₁ rows₂ ps₁ ps₂, Gathered base [f] ts₁ ks₁ rows₁ ps₁ ∧
      Gathered base fs ts₂ ks₂ rows₂ ps₂ ∧
      ts = ts₁ ++ ts₂ ∧ ks = ks₁ ++ ks₂ ∧ rows = rows₁ ++ rows₂ ∧ ps = ps₁ ++ ps₂ := by
  obtain ⟨htraits, htemplates, hrows, hpaths⟩ := h
  rw [placedUnder_cons] at htraits htemplates hrows hpaths
  obtain ⟨ts₁, ts₂, ht, ht₁, ht₂⟩ := exists_append_of_forall₂ htraits
  obtain ⟨ks₁, ks₂, hk, hk₁, hk₂⟩ := exists_append_of_forall₂ htemplates
  obtain ⟨rows₁, rows₂, hr, hr₁, hr₂⟩ := exists_append_of_forall₂ hrows
  obtain ⟨ps₁, ps₂, hp, hp₁, hp₂⟩ := exists_append_of_forall₂ hpaths
  exact ⟨ts₁, ts₂, ks₁, ks₂, rows₁, rows₂, ps₁, ps₂, ⟨ht₁, hk₁, hr₁, hp₁⟩,
    ⟨ht₂, hk₂, hr₂, hp₂⟩, ht, hk, hr, hp⟩

end

/-! ## The whole load -/

section

variable {base : String} {root : Folder} {home : Home}

end

def settingsFile : File := ⟨"ruleset.toml", "id = \"t\"\nname = \"T\"\n"⟩

def standardFile : File := ⟨"__defaults__.toml", "rule = \"S\"\n"⟩

def streamFile : File :=
  ⟨"a.yaml", "id: 1\nname: A\n---\n__defaults__:\n  rule: R\n---\nid: 2\nname: B\n"⟩

def lowerFile : File := ⟨"c.toml", "id = 3\nname = \"C\"\n"⟩

def traitsFolder (files : List File) : Folder := ⟨"traits", files, [⟨"more", [lowerFile], []⟩]⟩

def unsortedRoot : Folder := ⟨"", [settingsFile], [traitsFolder [streamFile, standardFile]]⟩

def sortedRoot : Folder := ⟨"", [settingsFile], [traitsFolder [standardFile, streamFile]]⟩

theorem inOrder_unsortedRoot : unsortedRoot.inOrder = sortedRoot := by
  simp [unsortedRoot, sortedRoot, traitsFolder, settingsFile, standardFile, streamFile, lowerFile,
    Folder.inOrder, Folder.inOrderAll, Folder.sortFiles, Folder.sortFolders, List.mergeSort,
    List.MergeSort.Internal.splitInTwo]

theorem home?_unsortedRoot :
    home? "" unsortedRoot.inOrder = some ⟨"", settingsFile, sortedRoot⟩ := by
  rw [inOrder_unsortedRoot]
  rfl

end Ruleset

end CharacterSheet
