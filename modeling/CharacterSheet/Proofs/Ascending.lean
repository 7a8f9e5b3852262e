import CharacterSheet.Character.Basic
import Mathlib.Data.List.Sort

/-! Ascending lists. IDs, keys, definitions and traits all stand in strictly ascending order, and
each kind has its own insertion. All of them are `insertId` on the numbers they are ordered by, so
what holds of `insertId` holds of each. Two ascending lists with the same members are equal. -/

namespace CharacterSheet

abbrev Ascending (ns : List Int) : Prop := ns.Pairwise (· < ·)

theorem Ascending.ext {ms ns : List Int} (hm : Ascending ms) (hn : Ascending ns)
    (h : ∀ n, n ∈ ms ↔ n ∈ ns) : ms = ns := hm.eq_of_mem_iff hn h

theorem Ascending.nodup {ns : List Int} (h : Ascending ns) : ns.Nodup :=
  h.imp fun hlt => ne_of_lt hlt

namespace TraitCatalog

theorem mem_insertId {n x : Int} {ns : List Int} : x ∈ insertId n ns ↔ x = n ∨ x ∈ ns := by
  induction ns with
  | nil => simp [insertId]
  | cons m r ih =>
    unfold insertId
    split
    · simp
    · split
      · rename_i h
        simp [h]
      · simp only [List.mem_cons, ih]
        tauto

theorem filter_insertId (n : Int) (ns : List Int) :
    (insertId n ns).filter (· != n) = ns.filter (· != n) := by
  induction ns with
  | nil => simp [insertId]
  | cons m r ih =>
    unfold insertId
    split
    · simp
    · split
      · rfl
      · rw [List.filter_cons, List.filter_cons, ih]

theorem insertId_ascending {n : Int} {ns : List Int} (h : Ascending ns) :
    Ascending (insertId n ns) := by
  induction ns with
  | nil => exact List.pairwise_singleton _ _
  | cons m r ih =>
    obtain ⟨hm, hr⟩ := List.pairwise_cons.mp h
    rw [insertId]
    split
    · rename_i hlt
      refine List.pairwise_cons.mpr ⟨fun x hx => ?_, h⟩
      rcases List.mem_cons.mp hx with rfl | hx
      · exact hlt
      · exact hlt.trans (hm x hx)
    · split
      · exact h
      · refine List.pairwise_cons.mpr ⟨fun x hx => ?_, ih hr⟩
        rcases mem_insertId.mp hx with rfl | hx
        · omega
        · exact hm x hx

theorem mem_sortIds {x : Int} {ns : List Int} : x ∈ sortIds ns ↔ x ∈ ns := by
  induction ns with
  | nil => rfl
  | cons n r ih =>
    show x ∈ insertId n (sortIds r) ↔ x ∈ n :: r
    rw [mem_insertId, ih, List.mem_cons]

theorem sortIds_ascending (ns : List Int) : Ascending (sortIds ns) := by
  induction ns with
  | nil => exact List.Pairwise.nil
  | cons n r ih => exact insertId_ascending ih

/-! ## Definitions -/

theorem insertDefinition_perm (t : TraitDefinition) (us : List TraitDefinition) :
    (insertDefinition t us).Perm (t :: us) := by
  induction us with
  | nil => exact .refl _
  | cons u r ih =>
    unfold insertDefinition
    split
    · exact .refl _
    · exact (ih.cons u).trans (.swap t u r)

theorem sortDefinitions_perm (ts : List TraitDefinition) : (sortDefinitions ts).Perm ts := by
  induction ts with
  | nil => exact .refl _
  | cons t r ih => exact (insertDefinition_perm t _).trans (ih.cons t)

theorem insertDefinition_ids {t : TraitDefinition} {us : List TraitDefinition}
    (h : t.id ∉ us.map TraitDefinition.id) :
    (insertDefinition t us).map TraitDefinition.id = insertId t.id (us.map TraitDefinition.id) := by
  induction us with
  | nil => rfl
  | cons u r ih =>
    rw [List.map_cons, List.mem_cons, not_or] at h
    rw [insertDefinition, List.map_cons, insertId]
    split
    · rfl
    · rw [if_neg h.1, List.map_cons, ih h.2]

theorem sortDefinitions_ascending {ts : List TraitDefinition}
    (h : (ts.map TraitDefinition.id).Nodup) :
    Ascending ((sortDefinitions ts).map TraitDefinition.id) := by
  induction ts with
  | nil => exact List.Pairwise.nil
  | cons t r ih =>
    obtain ⟨ht, hr⟩ := List.nodup_cons.mp h
    have habsent : t.id ∉ (sortDefinitions r).map TraitDefinition.id := fun hm =>
      ht (((sortDefinitions_perm r).map TraitDefinition.id).mem_iff.mp hm)
    show Ascending ((insertDefinition t (sortDefinitions r)).map TraitDefinition.id)
    rw [insertDefinition_ids habsent]
    exact insertId_ascending (ih hr)

/-- In whatever order definitions come, sorting puts them into one. -/
theorem sortDefinitions_eq_of_perm {ts us : List TraitDefinition} (hp : ts.Perm us)
    (h : (ts.map TraitDefinition.id).Nodup) : sortDefinitions ts = sortDefinitions us := by
  have hts := List.pairwise_map.mp (sortDefinitions_ascending h)
  have hus := List.pairwise_map.mp
    (sortDefinitions_ascending ((hp.map TraitDefinition.id).nodup_iff.mp h))
  have hsame : (sortDefinitions ts).Perm (sortDefinitions us) :=
    (sortDefinitions_perm ts).trans (hp.trans (sortDefinitions_perm us).symm)
  exact hsame.eq_of_pairwise (fun _ _ _ _ hlt hgt => absurd hlt (lt_asymm hgt)) hts hus

end TraitCatalog

namespace Character

open TraitCatalog

/-! ## Traits -/

theorem insertTrait_ids (t : Trait) (ts : List Trait) :
    (insertTrait t ts).map Trait.id = insertId t.id (ts.map Trait.id) := by
  induction ts with
  | nil => rfl
  | cons u r ih =>
    rw [insertTrait, List.map_cons, insertId]
    split
    · rfl
    · split
      · rename_i h
        rw [List.map_cons, h]
      · rw [List.map_cons, ih]

theorem mem_insertTrait {t u : Trait} {ts : List Trait} (h : t.id ∉ ts.map Trait.id) :
    u ∈ insertTrait t ts ↔ u = t ∨ u ∈ ts := by
  induction ts with
  | nil => simp [insertTrait]
  | cons v r ih =>
    rw [List.map_cons, List.mem_cons, not_or] at h
    rw [insertTrait, if_neg h.1]
    split
    · exact List.mem_cons
    · rw [List.mem_cons, ih h.2, List.mem_cons]
      tauto

theorem filter_insertTrait (t : Trait) (ts : List Trait) :
    (insertTrait t ts).filter (fun u => u.id != t.id) = ts.filter fun u => u.id != t.id := by
  induction ts with
  | nil => simp [insertTrait]
  | cons u r ih =>
    unfold insertTrait
    split
    · simp
    · split
      · rename_i h
        simp [← h]
      · rw [List.filter_cons, List.filter_cons, ih]

theorem find?_insertTrait (t : Trait) (ts : List Trait) (x : Int) :
    (insertTrait t ts).find? (fun u => u.id == x) =
      if t.id = x then some t else ts.find? fun u => u.id == x := by
  induction ts with
  | nil => by_cases h : t.id = x <;> simp [insertTrait, h]
  | cons u r ih =>
    unfold insertTrait
    split
    · by_cases h : t.id = x <;> simp [h]
    · split
      · rename_i h
        by_cases hx : t.id = x
        · simp [hx]
        · have hu : ¬ u.id = x := h ▸ hx
          simp [hx, hu]
      · by_cases hx : t.id = x
        · have hu : ¬ u.id = x := by rw [← hx]; exact Ne.symm ‹_›
          simp [ih, hx, hu]
        · by_cases hu : u.id = x <;> simp [ih, hx, hu]

/-! ## Template keys -/

theorem code_injective {k l : TemplateKey} (h : Vocabulary.code k = Vocabulary.code l) : k = l := by
  cases k <;> cases l <;> first | rfl | exact absurd h (by decide)

theorem insertKey_codes (k : TemplateKey) (ks : List TemplateKey) :
    (insertKey k ks).map Vocabulary.code = insertId (Vocabulary.code k) (ks.map Vocabulary.code) := by
  induction ks with
  | nil => rfl
  | cons l r ih =>
    rw [insertKey, List.map_cons, insertId]
    split
    · rfl
    · by_cases h : k = l
      · simp [h]
      · rw [if_neg h, if_neg fun hc => h (code_injective hc), List.map_cons, ih]

theorem mem_insertKey {k l : TemplateKey} {ks : List TemplateKey} :
    l ∈ insertKey k ks ↔ l = k ∨ l ∈ ks := by
  induction ks with
  | nil => simp [insertKey]
  | cons m r ih =>
    unfold insertKey
    split
    · exact List.mem_cons
    · split
      · rename_i h
        simp [h]
      · rw [List.mem_cons, ih, List.mem_cons]
        tauto

theorem keys_ext {ks ls : List TemplateKey} (hk : Ascending (ks.map Vocabulary.code))
    (hl : Ascending (ls.map Vocabulary.code)) (h : ∀ k, k ∈ ks ↔ k ∈ ls) : ks = ls := by
  apply List.map_injective_iff.mpr fun k l => code_injective (k := k) (l := l)
  apply hk.ext hl
  intro n
  simp only [List.mem_map, h]

/-- A key beside which there is no other is the only one. -/
theorem keys_eq_singleton {key : TemplateKey} {ks : List TemplateKey}
    (hk : Ascending (ks.map Vocabulary.code)) (hm : key ∈ ks)
    (h : ks.filter (· != key) = []) : ks = [key] := by
  apply keys_ext hk (List.pairwise_singleton _ _)
  intro k
  rw [List.mem_singleton]
  constructor
  · intro hmem
    by_contra hne
    have hother : k ∈ ks.filter (· != key) := List.mem_filter.mpr ⟨hmem, bne_iff_ne.mpr hne⟩
    rw [h] at hother
    cases hother
  · rintro rfl
    exact hm

end Character

end CharacterSheet
