import CharacterSheet.Fault
import Mathlib.Data.List.Forall2
import Mathlib.Data.List.Nodup
import Mathlib.Data.List.Perm.Basic

/-! What a computation has done that ended without a fault: each of its steps did too, and each gave
what the next one went on with. A value's text is such a step, and there is one of what can be
written. -/

namespace CharacterSheet

namespace Result

variable {α β : Type}

theorem bind_ok {x : Result α} {f : α → Result β} {b : β} (h : x >>= f = .ok b) :
    ∃ a, x = .ok a ∧ f a = .ok b := by
  cases x with
  | error e => cases h
  | ok a => exact ⟨a, rfl, h⟩

theorem bind_error_iff {x : Result α} {f : α → Result β} {e : Fault} :
    x >>= f = .error e ↔ x = .error e ∨ ∃ a, x = .ok a ∧ f a = .error e := by
  cases x with
  | error e' => simp [bind, Except.bind]
  | ok a => simp [bind, Except.bind]

theorem map_ok_iff {x : Result α} {f : α → β} {b : β} : x.map f = .ok b ↔ ∃ a, x = .ok a ∧ b = f a := by
  cases x with
  | error e => simp [Except.map]
  | ok a => simp [Except.map, eq_comm]

theorem exists_of_isOk {x : Result α} (h : x.isOk = true) : ∃ a, x = .ok a := by
  cases x with
  | ok a => exact ⟨a, rfl⟩
  | error e => cases h

theorem exists_error_iff {x : Result α} : (∃ f, x = .error f) ↔ ¬ ∃ a, x = .ok a := by
  cases x with
  | error f => simp
  | ok a => simp

theorem pure_ok {a b : α} (h : (pure a : Result α) = .ok b) : a = b := Except.ok.inj h

/-- The elements of a list were read one by one, each to its own result. -/
theorem mapM_ok {f : α → Result β} {xs : List α} {ys : List β} (h : xs.mapM f = .ok ys) :
    List.Forall₂ (fun x y => f x = .ok y) xs ys := by
  induction xs generalizing ys with
  | nil =>
    rw [List.mapM_nil] at h
    obtain rfl := pure_ok h
    exact .nil
  | cons x r ih =>
    rw [List.mapM_cons] at h
    obtain ⟨y, hy, h⟩ := bind_ok h
    obtain ⟨zs, hz, h⟩ := bind_ok h
    obtain rfl := pure_ok h
    exact .cons hy (ih hz)

/-- Elements that can be read one by one can be read as a list. -/
theorem mapM_of_forall₂ {f : α → Result β} {xs : List α} {ys : List β}
    (h : List.Forall₂ (fun x y => f x = .ok y) xs ys) : xs.mapM f = .ok ys := by
  induction h with
  | nil => rfl
  | cons hxy _ ih => rw [List.mapM_cons, hxy, ih]; rfl

/-- In another order the elements are read to the same results, in that order. -/
theorem mapM_perm {f : α → Result β} {xs xs' : List α} {ys : List β} (hp : xs.Perm xs')
    (h : xs.mapM f = .ok ys) : ∃ ys', xs'.mapM f = .ok ys' ∧ ys.Perm ys' := by
  obtain ⟨ys', hread, hys⟩ := List.perm_comp_forall₂ hp.symm (mapM_ok h)
  exact ⟨ys', mapM_of_forall₂ hread, hys.symm⟩

theorem forM_ok_iff {f : α → Result Unit} {xs : List α} :
    xs.forM f = .ok () ↔ ∀ x ∈ xs, f x = .ok () := by
  induction xs with
  | nil => exact iff_of_true rfl nofun
  | cons x r ih =>
    rw [List.forall_mem_cons, ← ih]
    show (f x >>= fun _ => r.forM f) = .ok () ↔ _
    cases f x with
    | error e => exact iff_of_false nofun nofun
    | ok u => exact (and_iff_right rfl).symm

theorem exists_of_forall₂ {R : α → β → Prop} {xs : List α} {ys : List β}
    (h : List.Forall₂ R xs ys) {x : α} (hx : x ∈ xs) : ∃ y ∈ ys, R x y := by
  induction h with
  | nil => cases hx
  | @cons z y xs ys hr _ ih =>
    rcases List.mem_cons.mp hx with rfl | hx
    · exact ⟨y, List.mem_cons_self, hr⟩
    · obtain ⟨y', hy, hr'⟩ := ih hx
      exact ⟨y', List.mem_cons_of_mem _ hy, hr'⟩

theorem exists_of_mapM_ok {f : α → Result β} {xs : List α} {ys : List β}
    (h : xs.mapM f = .ok ys) {x : α} (hx : x ∈ xs) : ∃ y ∈ ys, f x = .ok y :=
  exists_of_forall₂ (mapM_ok h) hx

theorem mem_of_mapM_ok {f : α → Result β} {xs : List α} {ys : List β} (h : xs.mapM f = .ok ys)
    {y : β} (hy : y ∈ ys) : ∃ x ∈ xs, f x = .ok y :=
  exists_of_forall₂ (R := fun y x => f x = .ok y) (mapM_ok h).flip hy

/-- A list can be read where each of its elements can. -/
theorem exists_mapM_ok_iff {f : α → Result β} {xs : List α} :
    (∃ ys, xs.mapM f = .ok ys) ↔ ∀ x ∈ xs, ∃ y, f x = .ok y := by
  constructor
  · rintro ⟨ys, h⟩ x hx
    obtain ⟨y, _, hy⟩ := exists_of_mapM_ok h hx
    exact ⟨y, hy⟩
  · intro h
    induction xs with
    | nil => exact ⟨[], rfl⟩
    | cons x r ih =>
      obtain ⟨y, hy⟩ := h x List.mem_cons_self
      obtain ⟨ys, hys⟩ := ih fun z hz => h z (List.mem_cons_of_mem _ hz)
      exact ⟨y :: ys, by rw [List.mapM_cons, hy, hys]; rfl⟩

/-- What every reading keeps of its element, the whole list keeps. -/
theorem map_of_mapM_ok {γ : Type} {f : α → Result β} {xs : List α} {ys : List β}
    (h : xs.mapM f = .ok ys) {g : α → γ} {k : β → γ} (hf : ∀ x y, f x = .ok y → k y = g x) :
    ys.map k = xs.map g := by
  have hall := mapM_ok h
  clear h
  induction hall with
  | nil => rfl
  | cons hxy _ ih => rw [List.map_cons, List.map_cons, hf _ _ hxy, ih]

/-- Elements that are let through one by one, each under a key that none before it has, have keys of
their own. -/
theorem distinct_ok_iff {key : α → β} {check : List α → List α → Result Unit}
    (hnil : ∀ seen, check seen [] = .ok ())
    (hcons : ∀ seen x r, check seen (x :: r) = .ok () ↔
      key x ∉ seen.map key ∧ check (seen ++ [x]) r = .ok ()) {xs : List α} :
    check [] xs = .ok () ↔ (xs.map key).Nodup := by
  suffices gen : ∀ seen, (seen.map key).Nodup →
      (check seen xs = .ok () ↔ ((seen ++ xs).map key).Nodup) from gen [] List.nodup_nil
  induction xs with
  | nil =>
    intro seen hs
    rw [List.append_nil]
    exact iff_of_true (hnil seen) hs
  | cons x r ih =>
    intro seen hs
    have hsnoc : ((seen ++ [x]).map key).Nodup ↔ key x ∉ seen.map key := by
      rw [List.map_append, List.map_singleton, ← List.concat_eq_append, List.nodup_concat]
      exact and_iff_left hs
    have happend : seen ++ x :: r = seen ++ [x] ++ r := List.append_cons seen x r
    rw [hcons, happend]
    constructor
    · rintro ⟨hx, h⟩
      exact (ih _ (hsnoc.mpr hx)).mp h
    · intro h
      have hx := h.sublist ((List.sublist_append_left _ r).map key)
      exact ⟨hsnoc.mp hx, (ih _ hx).mpr h⟩

end Result

namespace Data

variable {v : Data}

theorem shown_ok_iff {s : String} : v.shown = .ok s ↔ v.isWritable = true ∧ s = v.display := by
  rw [shown]
  split
  · rename_i hw
    simp [hw, eq_comm]
  · rename_i hw
    simp [hw]

theorem shown_error_iff {f : Fault} : v.shown = .error f ↔
    v.isWritable = false ∧ f = .value (.tooManyDigits none) := by
  rw [shown]
  split
  · rename_i hw
    simp [hw]
  · rename_i hw
    simp [Bool.eq_false_iff.mpr hw, eq_comm]

theorem shown_of_writable (h : v.isWritable = true) : v.shown = .ok v.display := if_pos h

theorem shown_text (s : String) : (Data.text s).shown = .ok s := shown_of_writable rfl

end Data

end CharacterSheet
