import CharacterSheet.Data.Table
import CharacterSheet.Record.Members

/-! Records are read back as they were written. A field that has a value is found under its name in
either mode of writing. One without a value is written as null or not written at all, and both are read
as no value. -/

namespace CharacterSheet

theorem Data.text_beq (a b : String) : (Data.text a == Data.text b) = (a == b) := by
  show Data.same _ _ = _
  rw [Data.same]

namespace Record

variable {α κ ν : Type}

theorem text_text (s : String) : text (.text s) = .valid s := rfl

theorem integer_int (n : Int) : integer (.int n) = .valid n := rfl

/-! ## Lists and maps -/

theorem each_map {read : Reader α} {put : α → Data} {xs : List α}
    (h : ∀ x ∈ xs, read (put x) = .valid x) (n : Nat) :
    Checked.each read n (xs.map put) = .valid xs := by
  induction xs generalizing n with
  | nil => rfl
  | cons x r ih =>
    obtain ⟨hx, hr⟩ := List.forall_mem_cons.mp h
    rw [List.map_cons, Checked.each, ih hr, hx]
    rfl

theorem listOf_map {read : Reader α} {put : α → Data} {xs : List α}
    (h : ∀ x ∈ xs, read (put x) = .valid x) : listOf read (.list (xs.map put)) = .valid xs :=
  each_map h 0

theorem tupleOf_map {read : Reader α} {put : α → Data} {xs : List α}
    (h : ∀ x ∈ xs, read (put x) = .valid x) : tupleOf read (.list (xs.map put)) = .valid xs :=
  each_map h 0

theorem entries_map {key : Reader κ} {value : Reader ν} {putKey : κ → Data} {put : ν → Data}
    (hk : ∀ k, key (putKey k) = .valid k) (hv : ∀ v, value (put v) = .valid v)
    (es : List (κ × ν)) :
    entries key value (es.map fun e => (putKey e.1, put e.2)) = .valid es := by
  induction es with
  | nil => rfl
  | cons e r ih => rw [List.map_cons, entries, ih, hk, hv]; rfl

/-! ## Fields -/

/-- The entries under which fields are written. -/
def shown (mode : Mode) (fs : List (String × Data)) : List (Data × Data) :=
  (kept mode fs).map fun f => (.text f.1, f.2)

/-- Fields under names of their own, in the order of the names. -/
structure Named (names : List String) (fs : List (String × Data)) : Prop where
  names_eq : fs.map Prod.fst = names
  nodup : names.Nodup

section

variable {mode : Mode} {names : List String} {fs : List (String × Data)} {name : String} {v : Data}

theorem field?_shown : Data.field? name (shown mode fs) = Table.lookup name (kept mode fs) := by
  rw [shown, Data.field?]
  induction kept mode fs with
  | nil => rfl
  | cons f r ih =>
    rw [List.map_cons, Data.lookup, Table.lookup, ih, Data.text_beq]
    simp only [beq_iff_eq]

theorem kept_sublist : (kept mode fs).Sublist fs := by
  cases mode with
  | full => exact .refl _
  | compact => exact List.filter_sublist

theorem mem_kept (hm : (name, v) ∈ fs) (hv : isNull v = false) : (name, v) ∈ kept mode fs := by
  cases mode with
  | full => exact hm
  | compact => exact List.mem_filter.mpr ⟨hm, by rw [hv]; rfl⟩

theorem Named.fst_nodup (hf : Named names fs) : (fs.map Prod.fst).Nodup := by
  rw [hf.names_eq]
  exact hf.nodup

theorem Named.field?_eq_some_iff (hf : Named names fs) :
    Data.field? name (shown mode fs) = some v ↔ (name, v) ∈ kept mode fs := by
  rw [field?_shown]
  exact Table.lookup_eq_some_iff (hf.fst_nodup.sublist (kept_sublist.map _))

theorem Named.field?_of_value (hf : Named names fs) (hm : (name, v) ∈ fs)
    (hv : isNull v = false) : Data.field? name (shown mode fs) = some v :=
  hf.field?_eq_some_iff.mpr (mem_kept hm hv)

theorem Named.field?_of_null (hf : Named names fs) (hm : (name, .null) ∈ fs) :
    Data.field? name (shown mode fs) = none ∨ Data.field? name (shown mode fs) = some .null := by
  cases h : Data.field? name (shown mode fs) with
  | none => exact .inl rfl
  | some w =>
    have hw := kept_sublist.subset (hf.field?_eq_some_iff.mp h)
    rw [← Table.lookup_eq_some_iff hf.fst_nodup] at hw hm
    exact .inr (hw.symm.trans hm)

/-- A field that was not among those to be written is not there. -/
theorem Named.field?_of_not_mem (hf : Named names fs) (hm : name ∉ names) :
    Data.field? name (shown mode fs) = none := by
  cases h : Data.field? name (shown mode fs) with
  | none => rfl
  | some w =>
    have hw := kept_sublist.subset (hf.field?_eq_some_iff.mp h)
    rw [← hf.names_eq] at hm
    exact absurd (List.mem_map_of_mem hw) hm

/-! ## Readers of fields -/

section

variable {read : Reader α} {a : α}

theorem Named.required (hf : Named names fs) (i : Nat) (hi : fs[i]? = some (name, v))
    (hv : isNull v = false) (h : read v = .valid a) :
    required (shown mode fs) name read = .valid a := by
  rw [Record.required, hf.field?_of_value (List.mem_of_getElem? hi) hv]
  simp only [h, Checked.under]

theorem Named.optional (hf : Named names fs) (i : Nat) (hi : fs[i]? = some (name, v))
    (hv : isNull v = false) (h : read v = .valid a) {standard : α} :
    optional (shown mode fs) name standard read = .valid a := by
  rw [Record.optional, hf.field?_of_value (List.mem_of_getElem? hi) hv]
  simp only [h, Checked.under]

theorem nullable_of_valid (hv : isNull v = false) (h : read v = .valid a) :
    nullable read v = .valid (some a) := by
  have hread : nullable read v = some <$> read v := by
    cases v with
    | null => cases hv
    | _ => rfl
  rw [hread, h]
  rfl

/-- A field that may have no value. -/
theorem Named.nullable {put : α → Data} {o : Option α} (hf : Named names fs) (i : Nat)
    (hi : fs[i]? = some (name, nullOr put o)) (hv : ∀ a, isNull (put a) = false)
    (h : ∀ a, read (put a) = .valid a) :
    Record.optional (shown mode fs) name none (nullable read) = .valid o := by
  have hm := List.mem_of_getElem? hi
  rw [Record.optional]
  cases o with
  | none =>
    have hnull : Data.field? name (shown mode fs) = none ∨
        Data.field? name (shown mode fs) = some .null := hf.field?_of_null hm
    rcases hnull with hnone | hnone <;> rw [hnone]
    rfl
  | some a =>
    rw [hf.field?_of_value hm (hv a)]
    show (Record.nullable read (put a)).under name = _
    rw [nullable_of_valid (hv a) (h a)]
    rfl

end

/-! ## Records -/

theorem Named.onlyFields (hf : Named names fs) :
    onlyFields names (shown mode fs) = .valid () := by
  suffices gen : ∀ l ⊆ shown mode fs,
      l.foldr (fun e r => (fun _ _ => ()) <$> strayKey names (shown mode fs) e.1 <*> r)
        (.valid ()) = Checked.valid () from gen _ (List.Subset.refl _)
  intro l hl
  induction l with
  | nil => rfl
  | cons e r ih =>
    obtain ⟨he, hr⟩ := List.cons_subset.mp hl
    obtain ⟨f, hmem, rfl⟩ := List.mem_map.mp he
    have hname : names.contains f.1 = true := by
      rw [List.contains_iff_mem, ← hf.names_eq]
      exact List.mem_map_of_mem (kept_sublist.subset hmem)
    rw [List.foldr_cons, ih hr, strayKey, if_pos hname]
    rfl

/-- What is written under the names of a record is read as one. -/
theorem fields_write (hf : Named names fs) (read : List (Data × Data) → Checked α) :
    fields names read (write mode fs) = read (shown mode fs) := by
  have hproper : ¬ ((shown mode fs).any fun e => isBroken e.1) = true := by
    rw [shown, List.any_map]
    simp [Function.comp_def, isBroken]
  show (if (shown mode fs).any fun e => isBroken e.1 then Checked.fail .brokenText
    else (fun a _ => a) <$> read (shown mode fs) <*> Record.onlyFields names (shown mode fs)) = _
  rw [if_neg hproper, hf.onlyFields]
  cases read (shown mode fs) with
  | valid a => rfl
  | invalid is => exact congrArg Checked.invalid (List.append_nil is)

theorem fields_write_valid {read : List (Data × Data) → Checked α} {a : α} (hf : Named names fs)
    (h : Named names fs → read (shown mode fs) = .valid a) :
    fields names read (write mode fs) = .valid a := (fields_write hf read).trans (h hf)

end

/-- A record is refused for what is wrong with its fields, whatever else is in it. -/
theorem fields_of_invalid {names : List String} {read : List (Data × Data) → Checked α}
    {es : List (Data × Data)} {is : List Issue} (h : read es = .invalid is) :
    ∃ js, fields names read (.map es) = .invalid js := by
  show ∃ js, (if es.any fun e => isBroken e.1 then Checked.fail .brokenText
    else (fun a _ => a) <$> read es <*> onlyFields names es) = Checked.invalid js
  split
  · exact ⟨_, rfl⟩
  · rw [h]
    exact ⟨_, rfl⟩

end Record

end CharacterSheet
