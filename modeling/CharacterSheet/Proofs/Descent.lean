import CharacterSheet.Proofs.Parentage
import Mathlib.Data.Finset.Card
import Mathlib.Logic.Relation

/-! What can be reached from some traits by going down from trait to subtrait. A search goes in rounds:
each finds the children of those that the round before it has found. `Closes` tells of the rounds up to
the one that finds nothing new, without a bound. There is such a round, whatever circles the children
stand in: each round before it finds a child that was not found, and a catalog has only so many. What
has then been found is exactly what can be reached, since of all that is found only the last round's
children can be missing. -/

namespace CharacterSheet.TraitCatalog

/-- A way down from trait to subtrait, of any length. -/
def Reaches (c : TraitCatalog) : Int → Int → Prop :=
  Relation.ReflTransGen fun p id => id ∈ c.childrenIn p

/-- The rounds of a search, up to the one that finds nothing new. -/
inductive Closes (c : TraitCatalog) : List Int → List Int → List Int → Prop where
  | done {found frontier : List Int} : c.discover found frontier = [] →
      Closes c found frontier found
  | round {found frontier result : List Int} : c.discover found frontier ≠ [] →
      Closes c (found ++ c.discover found frontier) (c.discover found frontier) result →
      Closes c found frontier result

/-- A search that began with some traits: it has found only what can be reached from them, and all of
that but what stands below the frontier. -/
structure Searching (c : TraitCatalog) (ids found frontier : List Int) : Prop where
  given : ∀ x ∈ ids, x ∈ found
  reached : ∀ x ∈ found, ∃ y ∈ ids, c.Reaches y x
  edge : ∀ x ∈ frontier, x ∈ found
  behind : ∀ p ∈ found, p ∉ frontier → ∀ x ∈ c.childrenIn p, x ∈ found

section

variable {c : TraitCatalog} {ids found frontier result : List Int} {x : Int}

theorem mem_discover :
    x ∈ c.discover found frontier ↔ (∃ p ∈ frontier, x ∈ c.childrenIn p) ∧ x ∉ found := by
  rw [discover, mem_sortIds, List.mem_filter, List.mem_flatMap]
  simp

/-! ## The search -/

theorem searching_start (c : TraitCatalog) (ids : List Int) :
    c.Searching ids (sortIds ids) (sortIds ids) where
  given _ hx := mem_sortIds.mpr hx
  reached x hx := ⟨x, mem_sortIds.mp hx, .refl⟩
  edge _ hx := hx
  behind _ hp hno := absurd hp hno

/-- A child of what has been found is found with it or in the next round. -/
theorem Searching.child (h : c.Searching ids found frontier) {p : Int} (hp : p ∈ found)
    (hx : x ∈ c.childrenIn p) : x ∈ found ∨ x ∈ c.discover found frontier := by
  by_cases hnew : x ∈ found
  · exact .inl hnew
  · have hedge : p ∈ frontier := by
      by_contra hbehind
      exact hnew (h.behind p hp hbehind x hx)
    exact .inr (mem_discover.mpr ⟨⟨p, hedge, hx⟩, hnew⟩)

theorem Searching.round (h : c.Searching ids found frontier) :
    c.Searching ids (found ++ c.discover found frontier) (c.discover found frontier) where
  given x hx := List.mem_append_left _ (h.given x hx)
  reached x hx := by
    cases List.mem_append.mp hx with
    | inl hx => exact h.reached x hx
    | inr hx =>
      obtain ⟨⟨p, hp, hchild⟩, _⟩ := mem_discover.mp hx
      obtain ⟨y, hy, hway⟩ := h.reached p (h.edge p hp)
      exact ⟨y, hy, hway.tail hchild⟩
  edge x hx := List.mem_append_right _ hx
  behind p hp hno x hx :=
    List.mem_append.mpr (h.child ((List.mem_append.mp hp).resolve_right hno) hx)

/-- Once a round finds nothing new, all that can be reached has been found. -/
theorem Searching.done (h : c.Searching ids found frontier) (hnone : c.discover found frontier = []) :
    x ∈ found ↔ ∃ y ∈ ids, c.Reaches y x := by
  have hclosed : ∀ p ∈ found, ∀ x ∈ c.childrenIn p, x ∈ found := by
    intro p hp x hx
    have hchild := h.child hp hx
    rw [hnone] at hchild
    exact hchild.resolve_right List.not_mem_nil
  constructor
  · exact h.reached x
  · rintro ⟨y, hy, hway⟩
    induction hway with
    | refl => exact h.given y hy
    | tail _ hchild ih => exact hclosed _ ih _ hchild

theorem Closes.mem_iff (hc : c.Closes found frontier result) (h : c.Searching ids found frontier) :
    x ∈ result ↔ ∃ y ∈ ids, c.Reaches y x := by
  induction hc with
  | done hnone => exact h.done hnone
  | round _ _ ih => exact ih h.round

/-! ## The bound -/

/-- How many children of any trait have not been found. -/
def missing (c : TraitCatalog) (found : List Int) : Nat :=
  ((c.definitions.flatMap TraitDefinition.subtraits).toFinset \ found.toFinset).card

theorem mem_subtraits_of_mem_childrenIn {p : Int} (h : x ∈ c.childrenIn p) :
    x ∈ c.definitions.flatMap TraitDefinition.subtraits := by
  rw [childrenIn] at h
  cases hp : c.get? p with
  | none =>
    rw [hp] at h
    cases h
  | some t =>
    rw [hp] at h
    exact List.mem_flatMap.mpr ⟨t, mem_of_get? hp, h⟩

/-- A round that finds something leaves less to be found. -/
theorem missing_round (hsome : c.discover found frontier ≠ []) :
    c.missing (found ++ c.discover found frontier) < c.missing found := by
  obtain ⟨x, hx⟩ := List.exists_mem_of_ne_nil _ hsome
  obtain ⟨⟨p, _, hchild⟩, hnew⟩ := mem_discover.mp hx
  apply Finset.card_lt_card
  rw [List.toFinset_append, Finset.ssubset_iff_of_subset]
  · refine ⟨x, ?_, ?_⟩
    · simp [mem_subtraits_of_mem_childrenIn hchild, hnew]
    · simp [hx]
  · exact Finset.sdiff_subset_sdiff (Finset.Subset.refl _) Finset.subset_union_left

theorem missing_le (c : TraitCatalog) (found : List Int) :
    c.missing found ≤ (c.definitions.flatMap TraitDefinition.subtraits).length :=
  (Finset.card_le_card Finset.sdiff_subset).trans (List.toFinset_card_le _)

/-- With more rounds than there are children to be found, a search is not broken off. -/
theorem closes_closeWithin {n : Nat} (h : c.missing found < n) :
    c.Closes found frontier (c.closeWithin n found frontier) := by
  induction n generalizing found frontier with
  | zero => exact absurd h (Nat.not_lt_zero _)
  | succ n ih =>
    rw [closeWithin]
    split
    · rename_i hnone
      exact .done hnone
    · rename_i new hnew
      have hfell := missing_round hnew
      exact .round hnew (ih (Nat.lt_of_lt_of_le hfell (Nat.lt_succ_iff.mp h)))

/-! ## Closures -/

/-- The search that a closure is made of comes to its end. -/
theorem exists_closes (c : TraitCatalog) (ids : List Int) :
    ∃ found, c.Closes (sortIds ids) (sortIds ids) found ∧ c.closure ids = sortIds found :=
  ⟨_, closes_closeWithin (Nat.lt_succ_of_le (c.missing_le _)), rfl⟩

theorem mem_closure : x ∈ c.closure ids ↔ ∃ y ∈ ids, c.Reaches y x := by
  obtain ⟨found, hcloses, hclosure⟩ := c.exists_closes ids
  rw [hclosure, mem_sortIds]
  exact hcloses.mem_iff (c.searching_start ids)

theorem closure_ascending (c : TraitCatalog) (ids : List Int) : Ascending (c.closure ids) :=
  sortIds_ascending _

theorem subset_closure (c : TraitCatalog) (ids : List Int) : ids ⊆ c.closure ids :=
  fun x hx => mem_closure.mpr ⟨x, hx, .refl⟩

theorem closure_mono {more : List Int} (h : ids ⊆ more) : c.closure ids ⊆ c.closure more := by
  intro x hx
  obtain ⟨y, hy, hway⟩ := mem_closure.mp hx
  exact mem_closure.mpr ⟨y, h hy, hway⟩

theorem closure_closure (c : TraitCatalog) (ids : List Int) :
    c.closure (c.closure ids) = c.closure ids := by
  apply (c.closure_ascending _).ext (c.closure_ascending _)
  intro x
  constructor
  · intro hx
    obtain ⟨y, hy, hway⟩ := mem_closure.mp hx
    obtain ⟨z, hz, hfirst⟩ := mem_closure.mp hy
    exact mem_closure.mpr ⟨z, hz, hfirst.trans hway⟩
  · exact fun hx => c.subset_closure _ hx

theorem closure_append (c : TraitCatalog) (ids more : List Int) :
    c.closure (ids ++ more) = sortIds (c.closure ids ++ c.closure more) := by
  apply (c.closure_ascending _).ext (sortIds_ascending _)
  intro x
  rw [mem_sortIds, List.mem_append, mem_closure, mem_closure, mem_closure]
  simp only [List.mem_append, or_and_right, exists_or]

end

/-- The search ends in every catalog, whatever circles its children stand in, and a closure is made of
exactly the traits that can be reached, known ones or not. -/
theorem closure_exact (c : TraitCatalog) (ids : List Int) :
    (∃ found, c.Closes (sortIds ids) (sortIds ids) found ∧ c.closure ids = sortIds found) ∧
    Ascending (c.closure ids) ∧ (∀ x, x ∈ c.closure ids ↔ ∃ y ∈ ids, c.Reaches y x) ∧
    ids ⊆ c.closure ids ∧ (∀ more, ids ⊆ more → c.closure ids ⊆ c.closure more) ∧
    c.closure (c.closure ids) = c.closure ids ∧
    ∀ more, c.closure (ids ++ more) = sortIds (c.closure ids ++ c.closure more) :=
  ⟨c.exists_closes ids, c.closure_ascending ids, fun _ => mem_closure, c.subset_closure ids,
    fun _ => closure_mono, c.closure_closure ids, c.closure_append ids⟩

/-- Two traits are each other's child, one of them is its own, and the last one is not known. -/
example : tangledCatalog.closure [9, 2] = [1, 2, 4, 9] := rfl

end CharacterSheet.TraitCatalog
