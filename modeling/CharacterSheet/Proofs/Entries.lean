import CharacterSheet.Data.Basic
import CharacterSheet.Proofs.Doubles
import Mathlib.Algebra.Order.Field.Rat
import Mathlib.Data.Rat.Cast.Defs
import Mathlib.Tactic.FieldSimp

/-! Maps of data files. A key is found by what it is worth and not by how it is spelled: one, the double
one and truth are the same key. `form` is what makes a key the key that it is, so keys are the same
where their forms are equal. Hence writing an entry changes what is found under its own key alone. -/

namespace CharacterSheet

namespace Number

theorem extent_den_pos {x : Number} {n : Int} {d : Nat} (h : x.extent = .finite n d) : 0 < d := by
  cases x with
  | int k =>
    cases h
    decide
  | real y =>
    rw [extent] at h
    split at h
    · cases h
      exact scaled_pos _ (by decide) _
    · cases h
    · cases h

theorem extent_notANumber : (Number.real notANumber).extent = .undefined := by decide +kernel

/-- What a number is worth, as a fraction or as an infinity; a number without a value is worth nothing.
-/
def worth? (x : Number) : Option (Rat ⊕ Bool) :=
  match x.extent with
  | .finite n d => some (.inl (n / d))
  | .infinite negative => some (.inr negative)
  | .undefined => none

/-- Numbers are equal that have a worth, and the same one. -/
theorem same_iff {x y : Number} : x.same y = true ↔ x.worth?.isSome = true ∧ x.worth? = y.worth? := by
  rw [same, worth?, worth?]
  cases hx : x.extent with
  | finite n d =>
    cases hy : y.extent with
    | finite m e =>
      have hd : (d : Rat) ≠ 0 := Nat.cast_ne_zero.mpr (extent_den_pos hx).ne'
      have he : (e : Rat) ≠ 0 := Nat.cast_ne_zero.mpr (extent_den_pos hy).ne'
      simp only [Extent.same, beq_iff_eq, Option.isSome_some, true_and, Option.some.injEq,
        Sum.inl.injEq, div_eq_div_iff hd he]
      exact_mod_cast Iff.rfl
    | infinite t => simp [Extent.same]
    | undefined => simp [Extent.same]
  | infinite s => cases hy : y.extent <;> simp [Extent.same]
  | undefined => simp [Extent.same]

end Number

namespace Data

/-- What makes a key the key that it is: what it is worth, the forms of what it lists, or itself. -/
inductive KeyForm where
  | number (worth : Rat ⊕ Bool)
  | tuple (forms : List KeyForm)
  | other (v : Data)

/-- What a value is worth, if it is a number. -/
def worth? (v : Data) : Option (Rat ⊕ Bool) := v.number?.bind Number.worth?

mutual

def form : Data → KeyForm
  | .tuple xs => .tuple (forms xs)
  | v => match v.worth? with
    | some w => .number w
    | none => .other v

def forms : List Data → List KeyForm
  | [] => []
  | x :: r => form x :: forms r

end

mutual

/-- Whether a value can be a key: it does not change, and it is equal to itself. -/
def isKey : Data → Bool
  | .real x => (Number.real x).worth?.isSome
  | .tuple xs => areKeys xs
  | .list _ | .set _ | .map _ | .loop _ _ | .back _ => false
  | _ => true

def areKeys : List Data → Bool
  | [] => true
  | x :: r => isKey x && areKeys r

end

theorem form_eq_number_iff {v : Data} {w : Rat ⊕ Bool} : form v = .number w ↔ v.worth? = some w := by
  cases v with
  | tuple xs => simp [form, worth?, number?]
  | _ =>
    rw [form.eq_def]
    dsimp only
    split <;> simp_all

theorem form_of_worth {v : Data} (ht : ∀ xs, v ≠ .tuple xs) (hw : v.worth? = none) :
    form v = .other v := by
  cases v with
  | tuple xs => exact absurd rfl (ht xs)
  | _ =>
    rw [form.eq_def]
    dsimp only
    rw [hw]

theorem eq_of_form {v w : Data} (h : form v = .other w) : v = w := by
  cases v with
  | tuple xs => simp [form] at h
  | _ =>
    rw [form.eq_def] at h
    dsimp only at h
    split at h
    · cases h
    · exact KeyForm.other.inj h

/-- A number is equal to what is worth the same. -/
theorem same_iff_of_worth {a : Data} {w : Rat ⊕ Bool} (ha : a.worth? = some w) (b : Data) :
    same a b = true ↔ b.worth? = some w := by
  obtain ⟨x, hx, hw⟩ := Option.bind_eq_some_iff.mp ha
  have hu : a ≠ .undefined := by
    rintro rfl
    cases hx
    rw [Number.worth?, Number.extent_notANumber] at hw
    cases hw
  have hmatch : same a b = match b.number? with
      | some y => x.same y
      | none => false := by
    rw [same.eq_def]
    cases a <;> cases hx <;> first | exact absurd rfl hu | cases b <;> rfl
  rw [hmatch, worth?]
  cases b.number? with
  | some y => simp [Number.same_iff, hw, eq_comm (a := some w)]
  | none => simp

/-- Whether a value is neither a number nor a collection. -/
def isPlain : Data → Bool
  | .null | .undefined | .text _ | .broken _ | .bytes _ | .date _ | .time _ | .moment .. => true
  | _ => false

/-- What is neither a number nor a collection is equal to itself alone. -/
theorem same_iff_of_isPlain {a : Data} (h : isPlain a = true) (b : Data) :
    same a b = true ↔ a = b := by
  have hnone : ∀ y, (Number.real Number.notANumber).same y = false := fun y => by
    rw [Number.same, Number.extent_notANumber]
    rfl
  rw [same.eq_def]
  cases a <;> cases h <;> cases b <;> simp [number?, hnone, and_assoc]

theorem same_iff_form_of_worth {a : Data} {w : Rat ⊕ Bool} (ha : a.worth? = some w) (b : Data) :
    same a b = true ↔ form a = form b := by
  rw [same_iff_of_worth ha, form_eq_number_iff.mpr ha, eq_comm (b := form b), form_eq_number_iff]

theorem same_iff_form_of_isPlain {a : Data} (ha : isPlain a = true) (b : Data) :
    same a b = true ↔ form a = form b := by
  have hworth : a.worth? = none := by
    cases a <;> cases ha <;> simp [worth?, number?, Number.worth?, Number.extent_notANumber]
  rw [same_iff_of_isPlain ha, form_of_worth (by rintro xs rfl; cases ha) hworth]
  constructor
  · rintro rfl
    exact (form_of_worth (by rintro xs rfl; cases ha) hworth).symm
  · exact fun h => (eq_of_form h.symm).symm

theorem form_ne_tuple {v : Data} (h : ∀ xs, v ≠ .tuple xs) (fs : List KeyForm) :
    form v ≠ .tuple fs := by
  intro hv
  cases v with
  | tuple xs => exact h xs rfl
  | _ =>
    rw [form.eq_def] at hv
    dsimp only at hv
    split at hv <;> cases hv

mutual

/-- Equal keys are those of one form. -/
theorem same_iff_form {a : Data} (h : isKey a = true) (b : Data) :
    same a b = true ↔ form a = form b := by
  cases a with
  | tuple xs =>
    have hxs : areKeys xs = true := h
    cases b with
    | tuple ys => rw [same, form, form, KeyForm.tuple.injEq, sameAll_iff_forms hxs ys]
    | _ =>
      exact iff_of_false (by simp [same, number?]) fun hf => form_ne_tuple (fun _ => by simp) _ hf.symm
  | bool b => exact same_iff_form_of_worth rfl _
  | int n => exact same_iff_form_of_worth rfl _
  | real x =>
    obtain ⟨w, hw⟩ := Option.isSome_iff_exists.mp h
    exact same_iff_form_of_worth (a := .real x) hw _
  | list xs => cases h
  | set xs => cases h
  | map es => cases h
  | loop mark v => cases h
  | back mark => cases h
  | _ => exact same_iff_form_of_isPlain rfl _

theorem sameAll_iff_forms {xs : List Data} (h : areKeys xs = true) (ys : List Data) :
    sameAll xs ys = true ↔ forms xs = forms ys := by
  cases xs with
  | nil => cases ys <;> simp [sameAll, forms]
  | cons x r =>
    rw [areKeys, Bool.and_eq_true] at h
    cases ys with
    | nil => simp [sameAll, forms]
    | cons y s =>
      rw [sameAll, forms, forms, Bool.and_eq_true, List.cons.injEq, same_iff_form h.1 y,
        sameAll_iff_forms h.2 s]

end

section

variable {k l : Data} {v w : Data} {es : List (Data × Data)}

theorem beq_iff_form (h : isKey k = true) : (k == l) = true ↔ form k = form l := same_iff_form h l

theorem beq_self (h : isKey k = true) : (k == k) = true := (beq_iff_form h).mpr rfl

theorem mem_of_lookup (h : lookup k es = some v) : ∃ e ∈ es, (e.1 == k) = true ∧ e.2 = v := by
  induction es with
  | nil => cases h
  | cons e r ih =>
    rw [lookup] at h
    split at h
    · cases h
      exact ⟨e, List.mem_cons_self, ‹_›, rfl⟩
    · obtain ⟨f, hf, hk⟩ := ih h
      exact ⟨f, List.mem_cons_of_mem _ hf, hk⟩

theorem lookup_eq_none_iff : lookup k es = none ↔ ∀ e ∈ es, (e.1 == k) = false := by
  induction es with
  | nil => simp [lookup]
  | cons e r ih =>
    rw [lookup, List.forall_mem_cons]
    cases h : e.1 == k <;> simp [ih]

/-- Whatever holds of all values of a map holds of the one that is found. -/
theorem value_of_lookup {P : Data → Prop} (h : ∀ e ∈ es, P e.2) (hk : lookup k es = some v) :
    P v := by
  obtain ⟨e, he, _, rfl⟩ := mem_of_lookup hk
  exact h e he

theorem put_of_none (h : lookup k es = none) : put k v es = es ++ [(k, v)] := by
  induction es with
  | nil => rfl
  | cons e r ih =>
    obtain ⟨he, hr⟩ := List.forall_mem_cons.mp (lookup_eq_none_iff.mp h)
    rw [put, if_neg (by simp [he]), ih (lookup_eq_none_iff.mpr hr), List.cons_append]

/-- An entry that is written over another keeps the spelling of its key. -/
theorem keys_put (h : lookup k es = some w) (v : Data) :
    (put k v es).map Prod.fst = es.map Prod.fst := by
  induction es with
  | nil => cases h
  | cons e r ih =>
    rw [lookup] at h
    rw [put]
    split
    · rfl
    · rename_i hk
      rw [if_neg hk] at h
      rw [List.map_cons, List.map_cons, ih h]

theorem put_eq_self (h : lookup k es = some v) : put k v es = es := by
  induction es with
  | nil => cases h
  | cons e r ih =>
    rw [lookup] at h
    rw [put]
    split
    · rename_i hk
      rw [if_pos hk] at h
      cases h
      rfl
    · rename_i hk
      rw [if_neg hk] at h
      rw [ih h]

/-- An entry is found under what is the same as its key, and nothing else is found otherwise, as far as
the keys can tell the two apart. -/
theorem lookup_put (hsame : (k == l) = true → ∀ e ∈ es, (e.1 == k) = (e.1 == l))
    (hother : (k == l) = false → ∀ e ∈ es, (e.1 == k) = true → (e.1 == l) = false) :
    lookup l (put k v es) = if k == l then some v else lookup l es := by
  induction es with
  | nil => rfl
  | cons e r ih =>
    have hrest := ih (fun h f hf => hsame h f (List.mem_cons_of_mem _ hf))
      fun h f hf => hother h f (List.mem_cons_of_mem _ hf)
    rw [put]
    cases hkl : k == l with
    | true =>
      rw [hkl] at hrest
      have he := hsame hkl e List.mem_cons_self
      by_cases hk : (e.1 == k) = true
      · rw [if_pos hk, lookup, if_pos (he ▸ hk)]
        rfl
      · rw [if_neg hk, lookup, if_neg (he ▸ hk), hrest]
        rfl
    | false =>
      rw [hkl] at hrest
      by_cases hk : (e.1 == k) = true
      · have hl := hother hkl e List.mem_cons_self hk
        rw [if_pos hk, lookup, lookup, hl]
        rfl
      · rw [if_neg hk, lookup, lookup, hrest]
        rfl

end

/-! ## Maps with proper keys -/

/-- Entries whose keys can be keys, no two of which are the same. -/
structure Keyed (es : List (Data × Data)) : Prop where
  keys : ∀ e ∈ es, isKey e.1 = true
  distinct : es.Pairwise fun e f => (e.1 == f.1) = false

namespace Keyed

variable {k l : Data} {v w : Data} {e : Data × Data} {es r : List (Data × Data)}

theorem nil : Keyed [] := ⟨nofun, .nil⟩

theorem of_cons (h : Keyed (e :: r)) : Keyed r :=
  ⟨fun f hf => h.keys f (List.mem_cons_of_mem _ hf), h.distinct.of_cons⟩

theorem beq_congr (h : Keyed es) (hkl : form k = form l) : ∀ e ∈ es, (e.1 == k) = (e.1 == l) := by
  intro e he
  rw [Bool.eq_iff_iff, beq_iff_form (h.keys e he), beq_iff_form (h.keys e he), hkl]

theorem lookup_congr (h : Keyed es) (hkl : form k = form l) : lookup k es = lookup l es := by
  induction es with
  | nil => rfl
  | cons e r ih => rw [lookup, lookup, h.beq_congr hkl e List.mem_cons_self, ih h.of_cons]

theorem lookup_put (h : Keyed es) (hk : isKey k = true) (l v : Data) :
    lookup l (put k v es) = if k == l then some v else lookup l es := by
  apply Data.lookup_put
  · exact fun hkl => h.beq_congr ((beq_iff_form hk).mp hkl)
  · intro hkl e he hek
    have hform := (beq_iff_form (h.keys e he)).mp hek
    rw [← hkl, Bool.eq_iff_iff, beq_iff_form (h.keys e he), beq_iff_form hk, hform]

/-- Nothing but the first entry is found under its key. -/
theorem lookup_rest (h : Keyed (e :: r)) (hl : (e.1 == l) = true) : lookup l r = none := by
  have hform := (beq_iff_form (h.keys e List.mem_cons_self)).mp hl
  rw [← h.of_cons.lookup_congr hform, lookup_eq_none_iff]
  intro f hf
  have hne := List.rel_of_pairwise_cons h.distinct hf
  rw [← hne, Bool.eq_iff_iff, beq_iff_form (h.of_cons.keys f hf),
    beq_iff_form (h.keys e List.mem_cons_self), eq_comm]

theorem lookup_of_mem (h : Keyed es) (he : e ∈ es) : lookup e.1 es = some e.2 := by
  induction es with
  | nil => cases he
  | cons f r ih =>
    rw [lookup]
    rcases List.mem_cons.mp he with rfl | he
    · rw [if_pos (beq_self (h.keys e List.mem_cons_self))]
    · have hne := List.rel_of_pairwise_cons h.distinct he
      rw [if_neg (by simp [hne]), ih h.of_cons he]

theorem put (h : Keyed es) (hk : isKey k = true) (v : Data) : Keyed (put k v es) := by
  cases hfound : lookup k es with
  | none =>
    rw [put_of_none hfound]
    constructor
    · intro e he
      rcases List.mem_append.mp he with he | he
      · exact h.keys e he
      · obtain rfl := List.mem_singleton.mp he
        exact hk
    · refine List.pairwise_append.mpr ⟨h.distinct, List.pairwise_singleton _ _, fun e he f hf => ?_⟩
      obtain rfl := List.mem_singleton.mp hf
      exact lookup_eq_none_iff.mp hfound e he
  | some w =>
    -- the keys are what they were
    have hfst := keys_put hfound v
    constructor
    · intro e he
      have hmem : e.1 ∈ es.map Prod.fst := hfst ▸ List.mem_map_of_mem he
      obtain ⟨f, hf, hfe⟩ := List.mem_map.mp hmem
      exact hfe ▸ h.keys f hf
    · have hkeys : ((Data.put k v es).map Prod.fst).Pairwise fun a b => (a == b) = false := by
        rw [hfst]
        exact List.pairwise_map.mpr h.distinct
      exact List.pairwise_map.mp hkeys

end Keyed

end Data

end CharacterSheet
