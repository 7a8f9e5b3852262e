import CharacterSheet.Proofs.Merging
import CharacterSheet.Source.Drafts
import Mathlib.Data.List.Infix

/-! Which records stand in a folder, in which order, and under which standard fields. A record's standard
fields are a list of documents, the outermost first: those of the standard files in the folders around
it, and those that stand before it in its own file. The drafts that are read from a folder are these
records, each merged from the left over all that holds for it, and nothing else holds for it. -/

namespace CharacterSheet

namespace Data

/-- The standard fields that a document holds, if it is a map that holds such. -/
def standard? (v : Data) : Option Data :=
  match v.face with
  | .map es => field? Draft.standardMark es
  | _ => none

/-- A document that is a record: it is not empty and holds no standard fields. -/
def isRecord (v : Data) : Bool := !v.isEmpty && v.standard?.isNone

/-- A map, or nothing in place of one. -/
def isMapping (v : Data) : Bool :=
  v.isEmpty || match v.face with
    | .map _ => true
    | _ => false

end Data

/-- A record in its file, with the documents of standard fields that hold for it. -/
structure Placed where
  origin : String
  layers : List Data
  raw : Data

namespace Placed

/-- The records of a file. Standard fields within a file hold for what comes after them. -/
def ofDocuments (origin : String) (around ds : List Data) : List Placed :=
  (ds.inits.zip ds).filterMap fun (before, raw) =>
    if raw.isRecord then some ⟨origin, around ++ before.filterMap Data.standard?, raw⟩ else none

def ofFile (base : String) (around : List Data) (f : File) : List Placed :=
  ofDocuments (base ++ f.name) around f.documents.items

/-- The documents of the standard files among some files. -/
def standards (files : List File) : List Data :=
  (files.filter fun f => f.stem == Draft.standardMark).flatMap fun f => f.documents.items

mutual

/-- The records of a folder: those of its files, then those of its folders. Its standard files hold for
all of them. -/
def ofFolder (base : String) (around : List Data) (f : Folder) : List Placed :=
  match f with
  | ⟨_, files, folders⟩ =>
    (files.filter fun g => !g.isSpecial).flatMap (ofFile base (around ++ standards files)) ++
      ofFolders base (around ++ standards files) folders

def ofFolders (base : String) (around : List Data) : List Folder → List Placed
  | [] => []
  | f :: r =>
    (if f.isSpecial then [] else ofFolder (base ++ f.name ++ "/") around f) ++
      ofFolders base around r

end

/-- The draft that a record gives: all that holds for it, merged from the left, with itself last. -/
def Gives (p : Placed) (d : Draft) : Prop :=
  ∃ es, (p.layers ++ [p.raw]).foldlM Draft.mergedOver [] = .ok es ∧
    d = ⟨p.origin, .map (Data.put (.text "def_path") (.text p.origin) (Data.renewedEntries es)), p.raw⟩

end Placed

/-! ## What is read -/

/-- The documents of a file are maps, and so are the standard fields within them. -/
def File.readable (f : File) : Bool :=
  f.documents.fault.isNone &&
    f.documents.items.all fun v => v.isMapping && v.standard?.all Data.isMapping

/-- A file that is read for the drafts of a folder. -/
inductive Folder.Feeds : Folder → File → Prop
  | own {f : Folder} {g : File} (hg : g ∈ f.files)
    (hread : g.stem = Draft.standardMark ∨ g.isSpecial = false) : Feeds f g
  | inner {f h : Folder} {g : File} (hh : h ∈ f.folders) (hread : h.isSpecial = false)
    (hg : Feeds h g) : Feeds f g

/-- The drafts are those of some records, one for one, or the reading goes on for ever, for a reason. -/
def Readout.Gives (why : Prop) (r : Readout Draft) (ps : List Placed) : Prop :=
  r.fault = none ∧ List.Forall₂ Placed.Gives ps r.items ∨ r.fault = some .endless ∧ why

namespace Data

section

variable {v : Data}

theorem isMapping_cases (h : v.isMapping = true) : v.isEmpty = true ∨ ∃ es, v.face = .map es := by
  rw [isMapping, Bool.or_eq_true] at h
  refine h.imp_right fun hmap => ?_
  split at hmap
  · exact ⟨_, ‹_›⟩
  · cases hmap

theorem mergeable?_of_isMapping (h : v.isMapping = true) : ∃ es, v.mergeable? = .ok es := by
  unfold mergeable?
  split
  · exact ⟨_, rfl⟩
  · rename_i hne
    rcases isMapping_cases h with hempty | ⟨es, he⟩
    · have hface : v.face = v := by
        cases v with
        | loop mark w => cases hempty
        | _ => rfl
      rw [hface, if_pos hempty]
      exact ⟨[], rfl⟩
    · exact absurd he (hne es)

/-- A tree is merged from the entries of a tree. -/
theorem isTree_of_mergeable? (hv : v.IsTree) {es : List (Data × Data)}
    (h : v.mergeable? = .ok es) : ∀ e ∈ es, e.2.IsTree := by
  unfold mergeable? at h
  split at h
  · rename_i hface
    cases h
    exact (hv.eq_of_face hface ▸ hv).values
  · split at h <;> cases h
    exact nofun

theorem isTree_of_standard? (hv : v.IsTree) {s : Data} (h : v.standard? = some s) : s.IsTree := by
  unfold standard? at h
  split at h
  · rename_i hface
    exact value_of_lookup (hv.eq_of_face hface ▸ hv).values h
  · cases h

theorem standard?_of_isEmpty (h : v.isEmpty = true) : v.standard? = none := by
  cases v with
  | map es =>
    cases es with
    | nil => rfl
    | cons e r => cases h
  | loop mark w => cases h
  | _ => rfl

theorem embedded?_eq (hm : v.isMapping = true) (he : v.isEmpty = false) :
    Draft.embedded? v = .ok v.standard? := by
  obtain ⟨es, hface⟩ := (isMapping_cases hm).resolve_left (by simp [he])
  rw [Draft.embedded?, standard?, hface]

end

end Data

namespace Placed

theorem ofDocuments_cons (origin : String) (around : List Data) (d : Data) (ds : List Data) :
    ofDocuments origin around (d :: ds) =
      (if d.isRecord then [⟨origin, around, d⟩] else []) ++
        ofDocuments origin (around ++ d.standard?.toList) ds := by
  have hrest : ∀ before, around ++ (d :: before).filterMap Data.standard? =
      around ++ d.standard?.toList ++ before.filterMap Data.standard? := by
    intro before
    cases h : d.standard? <;> simp [h]
  rw [ofDocuments, List.inits_cons, List.zip_cons_cons, List.zip_map_left, List.filterMap_cons,
    List.filterMap_map, ofDocuments]
  simp only [Function.comp_def, Prod.map, id, hrest, List.filterMap_nil, List.append_nil]
  cases d.isRecord <;> rfl

end Placed

namespace Readout.Gives

variable {why : Prop} {r s : Readout Draft} {ps qs : List Placed}

theorem empty : Gives why .empty [] := .inl ⟨rfl, .nil⟩

theorem failed (h : why) : Gives why (.failed .endless) ps := .inr ⟨rfl, h⟩

theorem cons {p : Placed} {d : Draft} (hd : p.Gives d) (h : Gives why r ps) :
    Gives why (r.cons d) (p :: ps) := by
  rcases h with ⟨hr, hall⟩ | ⟨hr, hwhy⟩
  · exact .inl ⟨hr, .cons hd hall⟩
  · exact .inr ⟨hr, hwhy⟩

theorem append (hr : Gives why r ps) (hs : Gives why s qs) : Gives why (r ++ s) (ps ++ qs) := by
  obtain ⟨xs, f⟩ := r
  rcases hr with ⟨rfl, hall⟩ | ⟨rfl, hwhy⟩
  · rcases hs with ⟨hs, hall'⟩ | ⟨hs, hwhy⟩
    · exact .inl ⟨hs, List.rel_append hall hall'⟩
    · exact .inr ⟨hs, hwhy⟩
  · exact .inr ⟨rfl, hwhy⟩

end Readout.Gives

namespace Draft

/-! ## Merging what holds for a record -/

section

variable {why : Prop} {around : List Data} {standard es : Entries} {v : Data}

/-- Over whatever holds so far, a document is merged unless it stands within itself. -/
theorem mergedOver_cases (standard : Entries) (hm : v.isMapping = true) (hv : ¬ v.IsTree → why) :
    (∃ es, mergedOver standard v = .ok es) ∨ mergedOver standard v = .error .endless ∧ why := by
  obtain ⟨inner, hinner⟩ := Data.mergeable?_of_isMapping hm
  have hmerged : mergedOver standard v = Data.mergeEntries standard inner := by
    rw [mergedOver, hinner]
    rfl
  rw [hmerged]
  cases h : Data.mergeEntries standard inner with
  | ok es => exact .inl ⟨es, rfl⟩
  | error f =>
    obtain rfl := Data.mergeWithin_error h
    refine .inr ⟨rfl, hv fun htree => ?_⟩
    obtain ⟨_, hok⟩ :=
      Data.exists_mergeEntries standard (Data.isTree_of_mergeable? htree hinner)
    rw [h] at hok
    cases hok

theorem foldlM_snoc (hs : around.foldlM mergedOver [] = .ok standard) :
    (around ++ [v]).foldlM mergedOver [] = mergedOver standard v := by
  rw [List.foldlM_append, hs]
  show (mergedOver standard v >>= pure) = _
  exact bind_pure _

/-! ## Documents and files -/

theorem ofDocuments_gives {origin : String} {ds : List Data}
    (hs : around.foldlM mergedOver [] = .ok standard)
    (hds : (ds.all fun v => v.isMapping && v.standard?.all Data.isMapping) = true)
    (hwhy : ∀ u ∈ ds, ¬ u.IsTree → why) :
    (ofDocuments origin none standard ds).Gives why (Placed.ofDocuments origin around ds) := by
  induction ds generalizing around standard with
  | nil => exact .empty
  | cons d r ih =>
    rw [List.all_cons, Bool.and_eq_true, Bool.and_eq_true] at hds
    obtain ⟨⟨hd, hinner⟩, hr⟩ := hds
    obtain ⟨hwhyd, hwhyr⟩ := List.forall_mem_cons.mp hwhy
    rw [Placed.ofDocuments_cons, ofDocuments, Data.isRecord]
    split
    · rename_i hempty
      rw [Data.standard?_of_isEmpty hempty, Option.toList_none, List.append_nil, hempty]
      exact ih hs hr hwhyr
    · rename_i hempty
      rw [Bool.not_eq_true] at hempty
      rw [Data.embedded?_eq hd hempty, hempty]
      cases hstandard : d.standard? with
      | some s =>
        rw [hstandard] at hinner
        have hwhys : ¬ s.IsTree → why := fun h =>
          hwhyd fun htree => h (Data.isTree_of_standard? htree hstandard)
        rcases mergedOver_cases standard hinner hwhys with ⟨es, hes⟩ | ⟨hes, h⟩
        · simp only [hes]
          exact ih ((foldlM_snoc hs).trans hes) hr hwhyr
        · simp only [hes]
          exact .failed h
      | none =>
        rcases mergedOver_cases standard hd hwhyd with ⟨es, hes⟩ | ⟨hes, h⟩
        · simp only [of, hes, Option.toList_none, List.append_nil]
          exact .cons ⟨es, (foldlM_snoc hs).trans hes, rfl⟩ (ih hs hr hwhyr)
        · simp only [of, hes]
          exact .failed h

theorem ofFile_gives {base : String} {f : File} (hs : around.foldlM mergedOver [] = .ok standard)
    (hf : f.readable = true) (hwhy : ∀ u ∈ f.documents.items, ¬ u.IsTree → why) :
    (ofFile base standard f).Gives why (Placed.ofFile base around f) := by
  rw [File.readable, Bool.and_eq_true, Option.isNone_iff_eq_none] at hf
  show (ofDocuments _ f.documents.fault _ _).Gives _ _
  rw [hf.1]
  exact ofDocuments_gives hs hf.2 hwhy

theorem ofFiles_gives {base : String} {fs : List File}
    (hs : around.foldlM mergedOver [] = .ok standard)
    (hf : ∀ f ∈ fs, f.isSpecial = false → f.readable = true)
    (hwhy : ∀ f ∈ fs, f.isSpecial = false → ∀ u ∈ f.documents.items, ¬ u.IsTree → why) :
    (ofFiles base standard fs).Gives why
      ((fs.filter fun f => !f.isSpecial).flatMap (Placed.ofFile base around)) := by
  induction fs with
  | nil => exact .empty
  | cons f r ih =>
    obtain ⟨hf, hr⟩ := List.forall_mem_cons.mp hf
    obtain ⟨hwhyf, hwhyr⟩ := List.forall_mem_cons.mp hwhy
    rw [ofFiles]
    split
    · rename_i hspecial
      rw [List.filter_cons_of_neg (by simp [hspecial])]
      exact ih hr hwhyr
    · rename_i hproper
      rw [Bool.not_eq_true] at hproper
      rw [List.filter_cons_of_pos (by simp [hproper]), List.flatMap_cons]
      exact .append (ofFile_gives hs (hf hproper) (hwhyf hproper)) (ih hr hwhyr)

/-! ## Standard files -/

theorem addDocuments_eq (standard : Entries) (ds : List Data) :
    addDocuments standard ds = ds.foldlM mergedOver standard := by
  induction ds generalizing standard with
  | nil => rfl
  | cons d r ih =>
    rw [addDocuments, List.foldlM_cons]
    simp only [ih]

/-- Documents are merged one after the other over what holds so far, unless one of them stands within
itself. -/
theorem foldlM_cases {vs : List Data} (standard : Entries) (hm : ∀ v ∈ vs, v.isMapping = true)
    (hv : ∀ v ∈ vs, ¬ v.IsTree → why) :
    (∃ es, vs.foldlM mergedOver standard = .ok es) ∨
      vs.foldlM mergedOver standard = .error .endless ∧ why := by
  induction vs generalizing standard with
  | nil => exact .inl ⟨standard, rfl⟩
  | cons v r ih =>
    obtain ⟨hmv, hmr⟩ := List.forall_mem_cons.mp hm
    obtain ⟨hwhyv, hwhyr⟩ := List.forall_mem_cons.mp hv
    rw [List.foldlM_cons]
    rcases mergedOver_cases standard hmv hwhyv with ⟨es, hes⟩ | ⟨hes, h⟩
    · rw [hes]
      exact ih es hmr hwhyr
    · rw [hes]
      exact .inr ⟨rfl, h⟩

/-- Only standard files add to the standard fields, and all of their documents do. -/
theorem addStandard_eq {fs : List File}
    (hf : ∀ f ∈ fs, f.stem = standardMark → f.readable = true) (standard : Entries) :
    addStandard standard fs = (Placed.standards fs).foldlM mergedOver standard := by
  induction fs generalizing standard with
  | nil => rfl
  | cons f r ih =>
    obtain ⟨hf, hr⟩ := List.forall_mem_cons.mp hf
    rw [addStandard, Placed.standards, List.filter_cons]
    split
    · rename_i hstem
      have hreadable := hf (by simpa using hstem)
      rw [File.readable, Bool.and_eq_true, Option.isNone_iff_eq_none] at hreadable
      rw [List.flatMap_cons, List.foldlM_append, addDocuments_eq, hreadable.1]
      simp only [ih hr, Placed.standards]
    · rw [ih hr, Placed.standards]

theorem mem_standards {fs : List File} {v : Data} (h : v ∈ Placed.standards fs) :
    ∃ f ∈ fs, f.stem = standardMark ∧ v ∈ f.documents.items := by
  obtain ⟨f, hf, hv⟩ := List.mem_flatMap.mp h
  obtain ⟨hf, hstem⟩ := List.mem_filter.mp hf
  exact ⟨f, hf, by simpa using hstem, hv⟩

/-! ## Folders -/

theorem isMapping_of_readable {f : File} (h : f.readable = true) (hv : v ∈ f.documents.items) :
    v.isMapping = true := by
  rw [File.readable, Bool.and_eq_true] at h
  have hall := List.all_eq_true.mp h.2 v hv
  rw [Bool.and_eq_true] at hall
  exact hall.1

mutual

theorem ofFolder_gives : ∀ (f : Folder) {base : String} {around : List Data} {standard : Entries},
    around.foldlM mergedOver [] = .ok standard → (∀ g, f.Feeds g → g.readable = true) →
    (∀ g, f.Feeds g → ∀ u ∈ g.documents.items, ¬ u.IsTree → why) →
    (ofFolder base standard f).Gives why (Placed.ofFolder base around f)
  | ⟨name, files, folders⟩, base, around, standard, hs, hf, hwhy => by
    have hfeeds : ∀ g ∈ files, g.stem = standardMark ∨ g.isSpecial = false →
        Folder.Feeds ⟨name, files, folders⟩ g := fun g hg hread => .own hg hread
    have hstandards : ∀ v ∈ Placed.standards files,
        v.isMapping = true ∧ (¬ v.IsTree → why) := by
      intro v hv
      obtain ⟨g, hg, hstem, hv⟩ := mem_standards hv
      exact ⟨isMapping_of_readable (hf g (hfeeds g hg (.inl hstem))) hv,
        hwhy g (hfeeds g hg (.inl hstem)) v hv⟩
    rw [ofFolder, Placed.ofFolder,
      addStandard_eq fun g hg hstem => hf g (hfeeds g hg (.inl hstem))]
    rcases foldlM_cases standard (fun v hv => (hstandards v hv).1) fun v hv => (hstandards v hv).2
      with ⟨es, hes⟩ | ⟨hes, h⟩
    · have hwithin : (around ++ Placed.standards files).foldlM mergedOver [] = .ok es := by
        rw [List.foldlM_append, hs]
        exact hes
      rw [hes]
      exact .append
        (ofFiles_gives hwithin (fun g hg hproper => hf g (hfeeds g hg (.inr hproper)))
          fun g hg hproper => hwhy g (hfeeds g hg (.inr hproper)))
        (ofFolders_gives folders hwithin (fun h hh hproper g hg => hf g (.inner hh hproper hg))
          fun h hh hproper g hg => hwhy g (.inner hh hproper hg))
    · rw [hes]
      exact .failed h

theorem ofFolders_gives : ∀ (fs : List Folder) {base : String} {around : List Data}
    {standard : Entries}, around.foldlM mergedOver [] = .ok standard →
    (∀ f ∈ fs, f.isSpecial = false → ∀ g, f.Feeds g → g.readable = true) →
    (∀ f ∈ fs, f.isSpecial = false → ∀ g, f.Feeds g →
      ∀ u ∈ g.documents.items, ¬ u.IsTree → why) →
    (ofFolders base standard fs).Gives why (Placed.ofFolders base around fs)
  | [], _, _, _, _, _, _ => .empty
  | f :: r, base, around, standard, hs, hf, hwhy => by
    obtain ⟨hf, hr⟩ := List.forall_mem_cons.mp hf
    obtain ⟨hwhyf, hwhyr⟩ := List.forall_mem_cons.mp hwhy
    rw [ofFolders, Placed.ofFolders]
    split
    · exact ofFolders_gives r hs hr hwhyr
    · rename_i hproper
      rw [Bool.not_eq_true] at hproper
      exact .append (ofFolder_gives f hs (hf hproper) (hwhyf hproper))
        (ofFolders_gives r hs hr hwhyr)

end

end

end Draft

end CharacterSheet
