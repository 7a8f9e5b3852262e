import CharacterSheet.Definition.Defect
import CharacterSheet.Proofs.Result
import CharacterSheet.Source.Drafts

/-! Taking the records out of a folder that fail a check. Whether a record fails is told by its draft, so
by all that holds for it; the documents that hold standard fields stay where they are. What is read from
the sifted folder is what was read before without the drafts that fail. -/

namespace CharacterSheet

namespace Draft

section

variable (check : Draft → Option Defect)

/-- The documents of a file, those that are left of them, and the defects of those that are taken out.
Empty documents may come and go. -/
inductive Sifted (origin : String) : Entries → List Data → List Data → List Defect → Prop
  | nil {standard : Entries} : Sifted origin standard [] [] []
  | blank {standard : Entries} {v : Data} {ds ds' : List Data} {taken : List Defect}
    (hempty : v.isEmpty = true) (h : Sifted origin standard ds ds' taken) :
    Sifted origin standard (v :: ds) ds' taken
  | blanked {standard : Entries} {v : Data} {ds ds' : List Data} {taken : List Defect}
    (hempty : v.isEmpty = true) (h : Sifted origin standard ds ds' taken) :
    Sifted origin standard ds (v :: ds') taken
  | standard {standard inner : Entries} {v s : Data} {ds ds' : List Data} {taken : List Defect}
    (hempty : v.isEmpty = false) (hv : embedded? v = .ok (some s))
    (hs : mergedOver standard s = .ok inner) (h : Sifted origin inner ds ds' taken) :
    Sifted origin standard (v :: ds) (v :: ds') taken
  | kept {standard : Entries} {v : Data} {d : Draft} {ds ds' : List Data} {taken : List Defect}
    (hempty : v.isEmpty = false) (hv : embedded? v = .ok none) (hd : of origin standard v = .ok d)
    (hcheck : check d = none) (h : Sifted origin standard ds ds' taken) :
    Sifted origin standard (v :: ds) (v :: ds') taken
  | out {standard : Entries} {v : Data} {d : Draft} {e : Defect} {ds ds' : List Data}
    {taken : List Defect} (hempty : v.isEmpty = false) (hv : embedded? v = .ok none)
    (hd : of origin standard v = .ok d) (hcheck : check d = some e)
    (h : Sifted origin standard ds ds' taken) : Sifted origin standard (v :: ds) ds' (e :: taken)

/-- The files of a folder and those that are left of them. A file in which nothing is left may go. -/
inductive SiftedFiles (base : String) (standard : Entries) :
    List File → List File → List Defect → Prop
  | nil : SiftedFiles base standard [] [] []
  | special {f : File} {fs fs' : List File} {taken : List Defect} (hspecial : f.isSpecial = true)
    (h : SiftedFiles base standard fs fs' taken) :
    SiftedFiles base standard (f :: fs) (f :: fs') taken
  | proper {f f' : File} {fs fs' : List File} {own taken : List Defect}
    (hproper : f.isSpecial = false) (hname : f'.name = f.name) (hf : f.documents.fault = none)
    (hf' : f'.documents.fault = none)
    (hown : Sifted check (base ++ f.name) standard f.documents.items f'.documents.items own)
    (h : SiftedFiles base standard fs fs' taken) :
    SiftedFiles base standard (f :: fs) (f' :: fs') (own ++ taken)
  | gone {f : File} {fs fs' : List File} {own taken : List Defect} (hproper : f.isSpecial = false)
    (hf : f.documents.fault = none)
    (hown : Sifted check (base ++ f.name) standard f.documents.items [] own)
    (h : SiftedFiles base standard fs fs' taken) :
    SiftedFiles base standard (f :: fs) fs' (own ++ taken)

mutual

/-- A folder, and the same folder with the records taken out that fail. -/
inductive SiftedFolder : String → Entries → Folder → Folder → List Defect → Prop
  | mk {base name : String} {around standard : Entries} {files files' : List File}
    {folders folders' : List Folder} {own taken : List Defect}
    (hstandard : addStandard around files = .ok standard)
    (hfiles : SiftedFiles check base standard files files' own)
    (hfolders : SiftedFolders base standard folders folders' taken) :
    SiftedFolder base around ⟨name, files, folders⟩ ⟨name, files', folders'⟩ (own ++ taken)

inductive SiftedFolders : String → Entries → List Folder → List Folder → List Defect → Prop
  | nil {base : String} {standard : Entries} : SiftedFolders base standard [] [] []
  | special {base : String} {standard : Entries} {f : Folder} {fs fs' : List Folder}
    {taken : List Defect} (hspecial : f.isSpecial = true)
    (h : SiftedFolders base standard fs fs' taken) :
    SiftedFolders base standard (f :: fs) (f :: fs') taken
  | proper {base : String} {standard : Entries} {f f' : Folder} {fs fs' : List Folder}
    {own taken : List Defect} (hproper : f.isSpecial = false)
    (hown : SiftedFolder (base ++ f.name ++ "/") standard f f' own)
    (h : SiftedFolders base standard fs fs' taken) :
    SiftedFolders base standard (f :: fs) (f' :: fs') (own ++ taken)

end

end

end Draft

/-- What is read, and what is left of it without the drafts that fail, with their defects. -/
def Readout.Sifts (check : Draft → Option Defect) (r r' : Readout Draft) (taken : List Defect) :
    Prop :=
  ∃ ds, r = .all ds ∧ r' = .all (ds.filter fun d => (check d).isNone) ∧ ds.filterMap check = taken

namespace Readout.Sifts

variable {check : Draft → Option Defect} {r r' s s' : Readout Draft} {own taken : List Defect}
  {d : Draft}

theorem empty : Sifts check .empty .empty [] := ⟨[], rfl, rfl, rfl⟩

theorem kept (hd : check d = none) (h : Sifts check r r' taken) :
    Sifts check (r.cons d) (r'.cons d) taken := by
  obtain ⟨ds, rfl, rfl, rfl⟩ := h
  refine ⟨d :: ds, rfl, ?_, List.filterMap_cons_none hd⟩
  rw [List.filter_cons_of_pos (by simp [hd])]
  rfl

theorem out {e : Defect} (hd : check d = some e) (h : Sifts check r r' taken) :
    Sifts check (r.cons d) r' (e :: taken) := by
  obtain ⟨ds, rfl, rfl, rfl⟩ := h
  refine ⟨d :: ds, rfl, ?_, List.filterMap_cons_some hd⟩
  rw [List.filter_cons_of_neg (by simp [hd])]

theorem append (hr : Sifts check r r' own) (hs : Sifts check s s' taken) :
    Sifts check (r ++ s) (r' ++ s') (own ++ taken) := by
  obtain ⟨ds, rfl, rfl, rfl⟩ := hr
  obtain ⟨es, rfl, rfl, rfl⟩ := hs
  exact ⟨ds ++ es, rfl, by rw [List.filter_append]; rfl, List.filterMap_append⟩

end Readout.Sifts

namespace Draft

variable {check : Draft → Option Defect} {origin base : String} {standard : Entries}

/-! ## Documents -/

section

variable {fault : Option Fault} {v : Data} {ds ds' : List Data}

theorem ofDocuments_blank (hempty : v.isEmpty = true) :
    ofDocuments origin fault standard (v :: ds) = ofDocuments origin fault standard ds := by
  rw [ofDocuments, if_pos hempty]

theorem ofDocuments_standard {s : Data} {inner : Entries} (hempty : v.isEmpty = false)
    (hv : embedded? v = .ok (some s)) (hs : mergedOver standard s = .ok inner) :
    ofDocuments origin fault standard (v :: ds) = ofDocuments origin fault inner ds := by
  simp only [ofDocuments, hempty, hv, hs]
  rfl

theorem ofDocuments_record {d : Draft} (hempty : v.isEmpty = false) (hv : embedded? v = .ok none)
    (hd : of origin standard v = .ok d) :
    ofDocuments origin fault standard (v :: ds) = (ofDocuments origin fault standard ds).cons d := by
  simp only [ofDocuments, hempty, hv, hd]
  rfl

theorem ofDocuments_sifts {taken : List Defect} (h : Sifted check origin standard ds ds' taken) :
    (ofDocuments origin none standard ds).Sifts check
      (ofDocuments origin none standard ds') taken := by
  induction h with
  | nil => exact .empty
  | blank hempty _ ih =>
    rw [ofDocuments_blank hempty]
    exact ih
  | blanked hempty _ ih =>
    rw [ofDocuments_blank hempty]
    exact ih
  | standard hempty hv hs _ ih =>
    rw [ofDocuments_standard hempty hv hs, ofDocuments_standard hempty hv hs]
    exact ih
  | kept hempty hv hd hcheck _ ih =>
    rw [ofDocuments_record hempty hv hd, ofDocuments_record hempty hv hd]
    exact .kept hcheck ih
  | out hempty hv hd hcheck _ ih =>
    rw [ofDocuments_record hempty hv hd]
    exact .out hcheck ih

end

/-- What is left of the documents of a file, and the defects of those that are taken out. -/
def sift (check : Draft → Option Defect) (origin : String) :
    Entries → List Data → Result (List Data × List Defect)
  | _, [] => .ok ([], [])
  | standard, v :: r =>
    if v.isEmpty then sift check origin standard r
    else do
      match ← embedded? v with
      | some s =>
        let left ← sift check origin (← mergedOver standard s) r
        return (v :: left.1, left.2)
      | none =>
        let d ← of origin standard v
        let left ← sift check origin standard r
        match check d with
        | none => return (v :: left.1, left.2)
        | some e => return (left.1, e :: left.2)

theorem sifted_of_sift {ds : List Data} {left : List Data × List Defect}
    (h : sift check origin standard ds = .ok left) :
    Sifted check origin standard ds left.1 left.2 := by
  induction ds generalizing standard left with
  | nil =>
    cases h
    exact .nil
  | cons v r ih =>
    rw [sift] at h
    split at h
    · exact .blank ‹_› (ih h)
    rename_i hempty
    rw [Bool.not_eq_true] at hempty
    obtain ⟨embedded, hv, h⟩ := Result.bind_ok h
    cases embedded with
    | some s =>
      obtain ⟨inner, hinner, h⟩ := Result.bind_ok h
      obtain ⟨rest, hrest, h⟩ := Result.bind_ok h
      cases h
      exact .standard hempty hv hinner (ih hrest)
    | none =>
      obtain ⟨d, hd, h⟩ := Result.bind_ok h
      obtain ⟨rest, hrest, h⟩ := Result.bind_ok h
      cases hcheck : check d with
      | none =>
        rw [hcheck] at h
        cases h
        exact .kept hempty hv hd hcheck (ih hrest)
      | some e =>
        rw [hcheck] at h
        cases h
        exact .out hempty hv hd hcheck (ih hrest)

/-! ## Files -/

section

variable {f f' : File} {fs fs' : List File} {taken : List Defect}

theorem ofFile_of_fault_none (hf : f.documents.fault = none) :
    ofFile base standard f = ofDocuments (base ++ f.name) none standard f.documents.items := by
  rw [ofFile, hf]

theorem isSpecial_of_name (hname : f'.name = f.name) : f'.isSpecial = f.isSpecial := by
  rw [File.isSpecial, File.isSpecial, File.stem, File.stem, hname]

theorem ofFiles_sifts (h : SiftedFiles check base standard fs fs' taken) :
    (ofFiles base standard fs).Sifts check (ofFiles base standard fs') taken := by
  induction h with
  | nil => exact .empty
  | special hspecial _ ih =>
    rw [ofFiles, ofFiles, if_pos hspecial, if_pos hspecial]
    exact ih
  | proper hproper hname hf hf' hown _ ih =>
    rw [ofFiles, ofFiles, isSpecial_of_name hname, hproper, ofFile_of_fault_none hf,
      ofFile_of_fault_none hf', hname]
    exact .append (ofDocuments_sifts hown) ih
  | @gone f fs fs' _ _ hproper hf hown _ ih =>
    have hnone : ofFiles base standard fs' = .empty ++ ofFiles base standard fs' := rfl
    rw [hnone, ofFiles, hproper, ofFile_of_fault_none hf]
    exact .append (ofDocuments_sifts hown) ih

/-- Files of standard fields are special. -/
theorem addStandard_proper (standard : Entries) (hproper : f.isSpecial = false) :
    addStandard standard (f :: fs) = addStandard standard fs := by
  have hstem : ¬ (f.stem == standardMark) = true := by
    intro hstem
    rw [File.isSpecial, beq_iff_eq.mp hstem] at hproper
    exact absurd hproper (by decide)
  rw [addStandard, if_neg hstem]

theorem addStandard_sifted {around : Entries} (h : SiftedFiles check base standard fs fs' taken) :
    addStandard around fs' = addStandard around fs := by
  induction h generalizing around with
  | nil => rfl
  | special _ _ ih =>
    rw [addStandard, addStandard]
    simp only [ih]
  | proper hproper hname _ _ _ _ ih =>
    rw [addStandard_proper _ hproper, addStandard_proper _ ((isSpecial_of_name hname).trans hproper),
      ih]
  | gone hproper _ _ _ ih => rw [addStandard_proper _ hproper, ih]

end

/-! ## Folders -/

theorem name_of_sifted {f f' : Folder} {taken : List Defect}
    (h : SiftedFolder check base standard f f' taken) : f'.name = f.name := by
  cases h
  rfl

theorem isSpecial_of_sifted {f f' : Folder} {taken : List Defect}
    (h : SiftedFolder check base standard f f' taken) : f'.isSpecial = f.isSpecial := by
  rw [Folder.isSpecial, Folder.isSpecial, name_of_sifted h]

mutual

theorem ofFolder_sifts {base : String} {standard : Entries} {f f' : Folder} {taken : List Defect} :
    SiftedFolder check base standard f f' taken →
    (ofFolder base standard f).Sifts check (ofFolder base standard f') taken
  | .mk hstandard hfiles hfolders => by
    rw [ofFolder, ofFolder, addStandard_sifted hfiles, hstandard]
    exact .append (ofFiles_sifts hfiles) (ofFolders_sifts hfolders)

theorem ofFolders_sifts {base : String} {standard : Entries} {fs fs' : List Folder}
    {taken : List Defect} :
    SiftedFolders check base standard fs fs' taken →
    (ofFolders base standard fs).Sifts check (ofFolders base standard fs') taken
  | .nil => .empty
  | .special hspecial h => by
    rw [ofFolders, ofFolders, if_pos hspecial, if_pos hspecial]
    exact ofFolders_sifts h
  | .proper hproper hown h => by
    rw [ofFolders, ofFolders, isSpecial_of_sifted hown, name_of_sifted hown, hproper]
    exact .append (ofFolder_sifts hown) (ofFolders_sifts h)

end

end Draft

end CharacterSheet
