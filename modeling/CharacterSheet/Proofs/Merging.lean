import CharacterSheet.Data.Merge
import CharacterSheet.Proofs.Entries
import CharacterSheet.Proofs.Result

/-! Merging ends. It goes down into the two maps together, so it comes to an end where the second one
does: below a map that does not stand within itself there are fewer maps than steps are allowed. So
the only thing that merging fails with is to go on for ever, and it can do so only where a map stands
within itself. -/

namespace CharacterSheet

namespace Data

/-- Whether a value is a map. -/
def isMap (v : Data) : Bool :=
  match v.face with
  | .map _ => true
  | _ => false

/-- Maps in maps, none of them within itself, down to values that are no maps. -/
inductive IsTree : Data → Prop
  | leaf {v : Data} (h : v.isMap = false) : IsTree v
  | map {es : List (Data × Data)} (h : ∀ e ∈ es, IsTree e.2) : IsTree (.map es)

section

variable {v : Data} {es : List (Data × Data)}

theorem isMap_iff : v.isMap = true ↔ ∃ es, v.face = .map es := by
  rw [isMap]
  split
  · exact iff_of_true rfl ⟨_, ‹_›⟩
  · rename_i hne
    exact iff_of_false nofun fun ⟨es, h⟩ => hne es h

theorem IsTree.eq_of_face (hv : v.IsTree) (h : v.face = .map es) : v = .map es := by
  cases hv with
  | leaf hleaf => exact absurd (isMap_iff.mpr ⟨es, h⟩) (Bool.eq_false_iff.mp hleaf)
  | map hes => exact h

theorem IsTree.values (h : (Data.map es).IsTree) : ∀ e ∈ es, e.2.IsTree := by
  cases h with
  | leaf h => cases h
  | map h => exact h

theorem mapCount_le_of_mem {e : Data × Data} (h : e ∈ es) : mapCount e.2 ≤ mapCountOf es := by
  induction es with
  | nil => cases h
  | cons d r ih =>
    rw [mapCountOf]
    rcases List.mem_cons.mp h with rfl | h
    · exact Nat.le_add_right _ _
    · exact Nat.le_add_left_of_le (ih h)

end

/-! ## One entry after the other -/

/-- Writes one entry over those of a map. -/
def mergeEntry (n : Nat) (merged : List (Data × Data)) (k v : Data) :
    Result (List (Data × Data)) := do
  match v.face, (lookup k merged).map face with
  | .map inner, some (.map old) => return put k (.map (← mergeWithin n old inner)) merged
  | _, _ => return put k v merged

theorem mergeWithin_nil (n : Nat) (base : List (Data × Data)) :
    mergeWithin (n + 1) base [] = .ok base := rfl

theorem mergeWithin_cons (n : Nat) (base : List (Data × Data)) (k v : Data)
    (r : List (Data × Data)) : mergeWithin (n + 1) base ((k, v) :: r) =
      mergeEntry n base k v >>= fun merged => mergeWithin (n + 1) merged r := rfl

theorem mergeWithin_error {n : Nat} {base es : List (Data × Data)} {f : Fault}
    (h : mergeWithin n base es = .error f) : f = .endless := by
  induction n generalizing base es with
  | zero => cases h; rfl
  | succ n ih =>
    induction es generalizing base with
    | nil => cases h
    | cons e r ihr =>
      obtain ⟨k, v⟩ := e
      rw [mergeWithin_cons] at h
      rcases Result.bind_error_iff.mp h with h | ⟨b, _, h⟩
      · unfold mergeEntry at h
        split at h
        · rcases Result.bind_error_iff.mp h with h | ⟨_, _, h⟩
          · exact ih h
          · cases h
        · cases h
      · exact ihr h

/-! ## What ends -/

/-- A tree is merged into anything in as many steps as there are maps in it. -/
theorem exists_mergeWithin {n : Nat} {base es : List (Data × Data)} (hes : ∀ e ∈ es, e.2.IsTree)
    (hn : mapCountOf es < n) : ∃ m, mergeWithin n base es = .ok m := by
  induction n generalizing base es with
  | zero => cases hn
  | succ n ih =>
    have hentry : ∀ {merged : List (Data × Data)}, ∀ e ∈ es,
        ∃ m, mergeEntry n merged e.1 e.2 = .ok m := by
      intro merged e he
      have hcount := Nat.le_of_lt_succ (Nat.lt_of_le_of_lt (mapCount_le_of_mem he) hn)
      unfold mergeEntry
      split
      · rename_i inner old hface _
        have hmap : e.2 = .map inner := (hes e he).eq_of_face hface
        have hinner : (Data.map inner).IsTree := hmap ▸ hes e he
        rw [hmap, mapCount] at hcount
        have hrest : ∃ m, mergeWithin n old inner = .ok m := ih hinner.values hcount
        obtain ⟨m, hm⟩ := hrest
        rw [hm]
        exact ⟨_, rfl⟩
      · exact ⟨_, rfl⟩
    clear hn hes
    induction es generalizing base with
    | nil => exact ⟨base, mergeWithin_nil n base⟩
    | cons e r ihr =>
      obtain ⟨m, hm⟩ : ∃ m, mergeEntry n base e.1 e.2 = .ok m := hentry e List.mem_cons_self
      rw [show e = (e.1, e.2) from rfl, mergeWithin_cons, hm]
      exact ihr fun d hd => hentry d (List.mem_cons_of_mem e hd)

theorem exists_mergeEntries (base : List (Data × Data)) {es : List (Data × Data)}
    (hes : ∀ e ∈ es, e.2.IsTree) : ∃ m, mergeEntries base es = .ok m :=
  exists_mergeWithin hes
    (Nat.lt_of_lt_of_le (Nat.lt_succ_self _) (Nat.le_mul_of_pos_left _ (Nat.succ_pos _)))

end Data

end CharacterSheet
