import CharacterSheet.Proofs.IntegerText
import CharacterSheet.Rule.Tokens
import Mathlib.Data.List.TakeWhile

/-! Texts that are cut at a character and put together again. What is cut and joined is the text again,
and so are pieces that are joined and cut, as long as the character does not occur in them. Trimming
takes characters away and adds none. -/

namespace CharacterSheet

namespace Text

/-! ## Cutting at a character -/

theorem splitChars_singleton (c : Char) (cs : List Char) : splitChars [c] cs = cs.splitOn c := by
  induction cs with
  | nil => rfl
  | cons x r ih =>
    have hhead : [c].isPrefixOf (x :: r) = (x == c) := by
      rw [List.isPrefixOf_cons_cons, List.isPrefixOf_nil_left, Bool.and_true, BEq.comm]
    rw [List.splitOn_cons_eq_if_modifyHead, ← ih, splitChars, splitChars, pieces, hhead]
    cases x == c <;> rfl

/-- The pieces of a text between the finds of a character. -/
def cutAt (c : Char) (s : String) : List String := (s.toList.splitOn c).map String.ofList

theorem split?_singleton (c : Char) (s : String) :
    split? (String.singleton c) s = some (cutAt c s) := by
  have hne : (String.singleton c).isEmpty = false := by simp
  rw [split?, hne, String.toList_singleton, splitChars_singleton]
  rfl

theorem cutAt_ne_nil (c : Char) (s : String) : cutAt c s ≠ [] := by
  simp [cutAt]

variable {c : Char} {s a b : String} {parts : List String}

theorem cutAt_append : cutAt c (a ++ String.singleton c ++ b) = cutAt c a ++ cutAt c b := by
  rw [cutAt, String.toList_append, String.toList_append, String.toList_singleton, List.append_assoc,
    List.singleton_append, List.splitOn_append_cons_self, List.map_append]
  rfl

theorem cutAt_of_free (h : c ∉ s.toList) : cutAt c s = [s] := by
  rw [cutAt, List.splitOn_eq_singleton h, List.map_singleton, String.ofList_toList]

theorem toList_join : (join (String.singleton c) parts).toList =
    [c].intercalate (parts.map String.toList) := by
  rw [join, String.toList_intercalate, String.toList_singleton]

theorem cutAt_join (hne : parts ≠ []) (hfree : ∀ p ∈ parts, c ∉ p.toList) :
    cutAt c (join (String.singleton c) parts) = parts := by
  rw [cutAt, toList_join, List.splitOn_intercalate]
  · simp
  · intro l hl
    obtain ⟨p, hp, rfl⟩ := List.mem_map.mp hl
    exact hfree p hp
  · simpa using hne

theorem join_cutAt : join (String.singleton c) (cutAt c s) = s := by
  have hparts : (cutAt c s).map String.toList = s.toList.splitOn c := by simp [cutAt]
  rw [← String.toList_inj, toList_join, hparts, List.intercalate_splitOn]

/-- The pieces hold characters of the list, but none that it was split at. -/
theorem of_mem_splitOn {cs l : List Char} {x : Char} (h : l ∈ cs.splitOn c) (hx : x ∈ l) :
    x ∈ cs ∧ x ≠ c := by
  induction cs generalizing l with
  | nil => simp_all
  | cons y r ih =>
    rw [List.splitOn_cons_eq_if_modifyHead] at h
    split at h
    · rcases List.mem_cons.mp h with rfl | h
      · cases hx
      · obtain ⟨hmem, hne⟩ := ih h hx
        exact ⟨List.mem_cons_of_mem y hmem, hne⟩
    · rename_i hy
      cases hr : r.splitOn c with
      | nil => exact absurd hr (List.splitOn_ne_nil c r)
      | cons p ps =>
        rw [hr] at h ih
        rw [List.modifyHead_cons, List.mem_cons] at h
        have hrest : x = y ∨ x ∈ r ∧ x ≠ c := by
          rcases h with rfl | h
          · exact (List.mem_cons.mp hx).imp id fun hp => ih List.mem_cons_self hp
          · exact .inr (ih (List.mem_cons_of_mem p h) hx)
        rcases hrest with rfl | ⟨hmem, hne⟩
        · exact ⟨List.mem_cons_self, fun he => hy (beq_iff_eq.mpr he)⟩
        · exact ⟨List.mem_cons_of_mem y hmem, hne⟩

theorem of_mem_cutAt {p : String} {x : Char} (h : p ∈ cutAt c s) (hx : x ∈ p.toList) :
    x ∈ s.toList ∧ x ≠ c := by
  obtain ⟨l, hl, rfl⟩ := List.mem_map.mp h
  rw [String.toList_ofList] at hx
  exact of_mem_splitOn hl hx

theorem mem_join {x : Char} (h : x ∈ (join (String.singleton c) parts).toList) :
    x = c ∨ ∃ p ∈ parts, x ∈ p.toList := by
  induction parts with
  | nil => cases h
  | cons p r ih =>
    by_cases hr : r = []
    · subst hr
      exact .inr ⟨p, List.mem_cons_self, h⟩
    · rw [join, String.intercalate_cons_of_ne_nil hr, String.toList_append, String.toList_append,
        List.mem_append, List.mem_append, String.toList_singleton, List.mem_singleton] at h
      rcases h with (h | h) | h
      · exact .inr ⟨p, List.mem_cons_self, h⟩
      · exact .inl h
      · rcases ih h with h | ⟨q, hq, hx⟩
        · exact .inl h
        · exact .inr ⟨q, List.mem_cons_of_mem p hq, hx⟩

/-! ## Trimmed pieces -/

theorem mem_of_mem_trim {x : Char} (h : x ∈ (trim s).toList) : x ∈ s.toList := by
  rw [trim, String.toList_ofList, trimChars, trimBy] at h
  have hkept := dropEnd_prefix isBlank (s.toList.dropWhile isBlank)
  exact List.dropWhile_subset _ (hkept.subset h)

theorem dropEnd_eq_nil_iff {p : Char → Bool} {cs : List Char} :
    dropEnd p cs = [] ↔ ∀ x ∈ cs, p x = true := by
  rw [dropEnd, List.reverse_eq_nil_iff, List.dropWhile_eq_nil_iff]
  simp

theorem isBlankText_iff : isBlankText s = true ↔ trim s = "" := by
  rw [isBlankText, List.all_eq_true, trim, trimChars, trimBy, String.ofList_eq_empty_iff,
    dropEnd_eq_nil_iff]
  constructor
  · intro h x hx
    exact h x (List.dropWhile_subset _ hx)
  · intro h x hx
    rw [← List.takeWhile_append_dropWhile (p := isBlank) (l := s.toList), List.mem_append] at hx
    exact hx.elim List.mem_takeWhile_imp (h x)

end Text

/-- Where an empty chunk makes no difference, the chunks of a rule are the pieces of its text, also
where there is nothing to cut. -/
theorem Rule.chunksOf_text_bind {α : Type} {d : Delimiters} {c : Char}
    (hchunk : d.chunk = String.singleton c) {f : List String → Result α} (hf : f [] = f [""])
    (s : String) : (chunksOf d (.text s) >>= f) = f (Text.cutAt c s) := by
  rw [chunksOf]
  split
  · rename_i hs
    obtain rfl := String.isEmpty_iff.mp hs
    exact hf
  · rw [Delimiters.cut, hchunk, Text.split?_singleton]
    rfl

end CharacterSheet
