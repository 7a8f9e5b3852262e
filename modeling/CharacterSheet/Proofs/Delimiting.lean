import CharacterSheet.Proofs.Dumps
import CharacterSheet.Proofs.Entries

/-! IDs in a text. The IDs that a trait declares may come as one text, in decimals that anything parts
that can be no part of an ID. Such a text is read as a list of the IDs, whatever parts them: what comes
before a decimal is passed over, and a decimal ends where something comes that parts it from the next.
-/

namespace CharacterSheet

/-! ## Records that differ in one field -/

namespace Record

variable {α : Type} {names : List String} {es es' : List (Data × Data)}

end Record

namespace TraitDefinition

open Record

/-! ## Runs of ID characters -/

section

variable {cs w r : List Char}

/-- The runs of ID characters. -/
def runs (cs : List Char) : List (List Char) :=
  if (idRuns cs).1.isEmpty then (idRuns cs).2 else (idRuns cs).1 :: (idRuns cs).2

theorem idRuns_cons_of_not {c : Char} (h : isIdChar c = false) : idRuns (c :: r) = ([], runs r) := by
  rw [idRuns, h]
  rfl

/-- What is no part of an ID before a text makes no difference. -/
theorem runs_append_of_not (h : ∀ c ∈ w, isIdChar c = false) : runs (w ++ r) = runs r := by
  induction w with
  | nil => rfl
  | cons c w ih =>
    obtain ⟨hc, hw⟩ := List.forall_mem_cons.mp h
    rw [List.cons_append, runs, idRuns_cons_of_not hc, ih hw]
    rfl

theorem idRuns_append (h : ∀ c ∈ w, isIdChar c = true) :
    idRuns (w ++ r) = (w ++ (idRuns r).1, (idRuns r).2) := by
  induction w with
  | nil => rfl
  | cons c w ih =>
    obtain ⟨hc, hw⟩ := List.forall_mem_cons.mp h
    rw [List.cons_append, idRuns, ih hw, hc]
    rfl

/-- An ID is one run if nothing follows that could be a part of it. -/
theorem runs_append (hne : w ≠ []) (hw : ∀ c ∈ w, isIdChar c = true) (hr : (idRuns r).1 = []) :
    runs (w ++ r) = w :: runs r := by
  rw [runs, idRuns_append hw, hr, List.append_nil, runs, hr]
  cases w with
  | nil => exact absurd rfl hne
  | cons c w => rfl

end

/-! ## Decimals -/

theorem isIdChar_of_mem {n : Int} {c : Char} (h : c ∈ (toString n).toList) : isIdChar c = true := by
  have hplain := isPlain_of_mem_toString h
  rw [isPlain, Bool.or_eq_true] at hplain
  rw [isIdChar, Text.isWord, Char.isAlphanum, Bool.or_eq_true]
  rcases hplain with hdigit | hminus
  · exact .inl (by rw [hdigit, Bool.or_true, Bool.true_or, Bool.true_or])
  · exact .inr hminus

theorem decimal_ne_nil (n : Int) : (toString n).toList ≠ [] :=
  fun h => Text.toString_ne_empty n (String.toList_eq_nil_iff.mp h)

theorem charOr_codes (s : String) : (Text.codes s).map Text.charOr = s.toList := by
  rw [Text.codes, List.map_map]
  refine List.map_id'' (fun c => ?_) _
  show Text.charOr c.toNat = c
  have hvalid : c.toNat.isValidChar := c.valid
  rw [Text.charOr, if_pos hvalid, Char.ofNat_toNat]

/-! ## Texts of IDs -/

/-- Codes of which none can be a part of an ID. -/
def Parts (cs : Text.Codes) : Prop := ∀ code ∈ cs, isIdChar (Text.charOr code) = false

instance (cs : Text.Codes) : Decidable (Parts cs) :=
  inferInstanceAs (Decidable (∀ code ∈ cs, isIdChar (Text.charOr code) = false))

/-- Decimals one after the other: something parts each from the next, and anything that is no part of an
ID may follow the last. -/
inductive Delimited : List Int → Text.Codes → Prop
  | last (id : Int) {after : Text.Codes} (h : Parts after) :
      Delimited [id] (Text.codes (toString id) ++ after)
  | next (id : Int) {ids : List Int} {between cs : Text.Codes} (hne : between ≠ [])
      (h : Parts between) (hrest : Delimited ids cs) :
      Delimited (id :: ids) (Text.codes (toString id) ++ (between ++ cs))

section

variable {ids : List Int} {cs before : Text.Codes}

theorem Parts.map (h : Parts cs) : ∀ c ∈ cs.map Text.charOr, isIdChar c = false :=
  List.forall_mem_map.mpr h

theorem Parts.idRuns {r : List Char} (h : Parts cs) (hr : cs = [] → r = []) :
    (idRuns (cs.map Text.charOr ++ r)).1 = [] := by
  cases cs with
  | nil =>
    rw [hr rfl]
    rfl
  | cons code cs =>
    rw [List.map_cons, List.cons_append, idRuns_cons_of_not (h code List.mem_cons_self)]

/-- The runs of ID characters are the decimals. -/
theorem Delimited.runs (h : Delimited ids cs) :
    runs (cs.map Text.charOr) = ids.map fun id => (toString id).toList := by
  induction h with
  | last id hafter =>
    have hends := hafter.idRuns fun _ => rfl
    have hnone := runs_append_of_not (r := []) hafter.map
    rw [List.append_nil] at hends hnone
    rw [List.map_append, charOr_codes,
      runs_append (decimal_ne_nil id) (fun _ => isIdChar_of_mem) hends, hnone]
    rfl
  | next id hne hbetween _ ih =>
    rw [List.map_append, List.map_append, charOr_codes, runs_append (decimal_ne_nil id)
      (fun _ => isIdChar_of_mem) (hbetween.idRuns fun h => absurd h hne),
      runs_append_of_not hbetween.map, ih]
    rfl

end

/-! ## Records with such a text -/

section

variable {es : List (Data × Data)} {v w : Data} {ids : List Int}

end

end TraitDefinition

end CharacterSheet
