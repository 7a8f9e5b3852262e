/-!
Tables: finite maps that remember the order in which their keys came in. Writing to a key that is
there keeps its place, and no key stands twice.
-/
namespace CharacterSheet

structure Table (κ ν : Type) where
  entries : List (κ × ν)
  nodup : (entries.map Prod.fst).Nodup

namespace Table

variable {κ ν : Type} [DecidableEq κ]

instance [DecidableEq ν] : DecidableEq (Table κ ν) := fun a b =>
  decidable_of_iff (a.entries = b.entries)
    ⟨fun h => by cases a; cases b; simp_all, fun h => h ▸ rfl⟩

def keys (t : Table κ ν) : List κ := t.entries.map Prod.fst

def values (t : Table κ ν) : List ν := t.entries.map Prod.snd

def empty : Table κ ν := ⟨[], List.nodup_nil⟩

instance : Inhabited (Table κ ν) := ⟨empty⟩

def lookup (k : κ) : List (κ × ν) → Option ν
  | [] => none
  | (k', v) :: r => if k' = k then some v else lookup k r

def get? (t : Table κ ν) (k : κ) : Option ν := lookup k t.entries

def contains (t : Table κ ν) (k : κ) : Bool := (t.get? k).isSome

def put (k : κ) (v : ν) : List (κ × ν) → List (κ × ν)
  | [] => [(k, v)]
  | (k', v') :: r => if k' = k then (k, v) :: r else (k', v') :: put k v r

omit [DecidableEq κ] in
theorem mem_keys_of_mem {l : List (κ × ν)} {k : κ} {v : ν} (h : (k, v) ∈ l) : k ∈ l.map Prod.fst :=
  List.mem_map.mpr ⟨_, h, rfl⟩

theorem mem_keys_put {k x : κ} {v : ν} {l : List (κ × ν)} :
    x ∈ (put k v l).map Prod.fst ↔ x = k ∨ x ∈ l.map Prod.fst := by
  induction l with
  | nil => simp [put]
  | cons p r ih =>
    obtain ⟨k', v'⟩ := p
    by_cases h : k' = k
    · simp [put, h]
    · simp only [put, h, if_false, List.map_cons, List.mem_cons, ih]
      constructor <;> rintro (h | h | h) <;> simp [h]

theorem nodup_put {k : κ} {v : ν} {l : List (κ × ν)} (h : (l.map Prod.fst).Nodup) :
    ((put k v l).map Prod.fst).Nodup := by
  induction l with
  | nil => simp [put]
  | cons p r ih =>
    obtain ⟨k', v'⟩ := p
    obtain ⟨hk, hr⟩ := List.nodup_cons.mp h
    by_cases hk' : k' = k
    · simpa [put, hk'] using h
    · rw [put, if_neg hk', List.map_cons, List.nodup_cons, mem_keys_put]
      exact ⟨fun hm => hm.elim hk' hk, ih hr⟩

def insert (t : Table κ ν) (k : κ) (v : ν) : Table κ ν := ⟨put k v t.entries, nodup_put t.nodup⟩

/-- The table of a list of pairs, in which the last pair of a key wins. -/
def ofList (l : List (κ × ν)) : Table κ ν := l.foldl (fun t p => t.insert p.1 p.2) empty

def filter (p : κ → ν → Bool) (t : Table κ ν) : Table κ ν :=
  ⟨t.entries.filter fun e => p e.1 e.2, t.nodup.sublist (List.filter_sublist.map _)⟩

def erase (t : Table κ ν) (k : κ) : Table κ ν := t.filter fun k' _ => k' ≠ k

def mapValues {ω : Type} (f : κ → ν → ω) (t : Table κ ν) : Table κ ω :=
  ⟨t.entries.map fun e => (e.1, f e.1 e.2), by rw [List.map_map]; exact t.nodup⟩

/-- The second table written over the first. -/
def union (a b : Table κ ν) : Table κ ν := b.entries.foldl (fun t p => t.insert p.1 p.2) a

theorem lookup_put {k x : κ} {v : ν} {l : List (κ × ν)} :
    lookup x (put k v l) = if x = k then some v else lookup x l := by
  induction l with
  | nil => simp [put, lookup, eq_comm]
  | cons p r ih =>
    obtain ⟨k', v'⟩ := p
    by_cases h : k' = k <;> by_cases hx : x = k <;> by_cases hx' : k' = x <;>
      simp_all [put, lookup, eq_comm]

theorem get?_insert {t : Table κ ν} {k x : κ} {v : ν} :
    (t.insert k v).get? x = if x = k then some v else t.get? x := lookup_put

@[simp] theorem get?_empty {k : κ} : (empty : Table κ ν).get? k = none := rfl

theorem lookup_eq_some_iff {k : κ} {v : ν} {l : List (κ × ν)} (h : (l.map Prod.fst).Nodup) :
    lookup k l = some v ↔ (k, v) ∈ l := by
  induction l with
  | nil => simp [lookup]
  | cons p r ih =>
    obtain ⟨k', v'⟩ := p
    obtain ⟨hk, hr⟩ := List.nodup_cons.mp h
    by_cases hkk : k' = k
    · subst hkk
      have : (k', v) ∉ r := fun hm => hk (mem_keys_of_mem hm)
      simp [lookup, this, eq_comm]
    · simp [lookup, hkk, ih hr, Ne.symm hkk]

/-- What a table answers is what its entries say. -/
theorem get?_eq_some_iff {t : Table κ ν} {k : κ} {v : ν} :
    t.get? k = some v ↔ (k, v) ∈ t.entries := lookup_eq_some_iff t.nodup

theorem get?_filter {p : κ → ν → Bool} {t : Table κ ν} {k : κ} :
    (t.filter p).get? k = (t.get? k).filter (p k) := by
  ext v
  rw [get?_eq_some_iff, Option.filter_eq_some_iff, get?_eq_some_iff]
  exact List.mem_filter

theorem lookup_mapValues {ω : Type} (f : κ → ν → ω) (k : κ) (l : List (κ × ν)) :
    lookup k (l.map fun e => (e.1, f e.1 e.2)) = (lookup k l).map (f k) := by
  induction l with
  | nil => rfl
  | cons p r ih =>
    obtain ⟨k', v⟩ := p
    by_cases h : k' = k
    · simp [lookup, h]
    · simp [lookup, h, ih]

theorem get?_mapValues {ω : Type} {f : κ → ν → ω} {t : Table κ ν} {k : κ} :
    (t.mapValues f).get? k = (t.get? k).map (f k) := lookup_mapValues f k t.entries

omit [DecidableEq κ] in
theorem ext {a b : Table κ ν} (h : a.entries = b.entries) : a = b := by
  cases a
  cases b
  cases h
  rfl

/-- A filter that all entries pass changes nothing. -/
theorem filter_eq_self {p : κ → ν → Bool} {t : Table κ ν}
    (h : ∀ k v, t.get? k = some v → p k v = true) : t.filter p = t := by
  apply ext
  exact List.filter_eq_self.mpr fun e hm => h e.1 e.2 (get?_eq_some_iff.mpr hm)

theorem mapValues_eq_self {f : κ → ν → ν} {t : Table κ ν}
    (h : ∀ k v, t.get? k = some v → f k v = v) : t.mapValues f = t := by
  apply ext
  show t.entries.map (fun e => (e.1, f e.1 e.2)) = t.entries
  rw [List.map_congr_left (g := id), List.map_id]
  intro e hm
  rw [h e.1 e.2 (get?_eq_some_iff.mpr hm)]
  rfl

theorem put_of_not_mem {k : κ} {v : ν} {l : List (κ × ν)} (h : k ∉ l.map Prod.fst) :
    put k v l = l ++ [(k, v)] := by
  induction l with
  | nil => rfl
  | cons p r ih =>
    obtain ⟨k', v'⟩ := p
    rw [List.map_cons, List.mem_cons, not_or] at h
    obtain ⟨hk, hr⟩ := h
    rw [put, if_neg (Ne.symm hk), ih hr, List.cons_append]

/-- Writing the entries of a table into an empty one gives them back. -/
theorem entries_ofList {l : List (κ × ν)} (h : (l.map Prod.fst).Nodup) :
    (ofList l).entries = l := by
  suffices gen : ∀ (l : List (κ × ν)) (t : Table κ ν), ((t.entries ++ l).map Prod.fst).Nodup →
      (l.foldl (fun t p => t.insert p.1 p.2) t).entries = t.entries ++ l by
    simpa [ofList, empty] using gen l empty (by simpa [empty] using h)
  intro l
  induction l with
  | nil => intro t _; simp
  | cons p r ih =>
    intro t ht
    have hp : p.1 ∉ t.entries.map Prod.fst := by
      intro hm
      rw [List.map_append, List.map_cons, List.nodup_append] at ht
      exact ht.2.2 _ hm _ List.mem_cons_self rfl
    have he : (t.insert p.1 p.2).entries = t.entries ++ [p] := put_of_not_mem hp
    rw [List.foldl_cons, ih _ (by rw [he]; simpa using ht), he, List.append_assoc]
    rfl

theorem ofList_entries (t : Table κ ν) : ofList t.entries = t := ext (entries_ofList t.nodup)

theorem not_mem_keys {t : Table κ ν} {k : κ} (h : t.get? k = none) :
    k ∉ t.entries.map Prod.fst := by
  intro hm
  obtain ⟨⟨k', v⟩, he, rfl⟩ := List.mem_map.mp hm
  rw [get?_eq_some_iff.mpr he] at h
  cases h

/-- Under a new key, what a filter does not let pass might as well not have been written. -/
theorem filter_insert_of_new {t : Table κ ν} {p : κ → ν → Bool} {k : κ} {v : ν}
    (hk : t.get? k = none) (hp : p k v = false) : (t.insert k v).filter p = t.filter p := by
  apply ext
  show (put k v t.entries).filter (fun e => p e.1 e.2) = t.entries.filter fun e => p e.1 e.2
  rw [put_of_not_mem (not_mem_keys hk), List.filter_append,
    List.filter_cons_of_neg (by simp [hp]), List.filter_nil, List.append_nil]

theorem put_eq_self {k : κ} {v : ν} {l : List (κ × ν)} (h : lookup k l = some v) :
    put k v l = l := by
  induction l with
  | nil => cases h
  | cons e r ih =>
    obtain ⟨k', w⟩ := e
    rw [lookup] at h
    rw [put]
    split at h
    · rename_i hk
      cases h
      rw [if_pos hk, hk]
    · rename_i hk
      rw [if_neg hk, ih h]

/-- Writing what is there changes nothing. -/
theorem insert_eq_self {t : Table κ ν} {k : κ} {v : ν} (h : t.get? k = some v) :
    t.insert k v = t := ext (put_eq_self h)

theorem mapValues_insert {ω : Type} {t : Table κ ν} {f : κ → ν → ω} {k : κ} {v : ν} :
    (t.insert k v).mapValues f = (t.mapValues f).insert k (f k v) := by
  apply ext
  show (put k v t.entries).map _ = put k (f k v) (t.entries.map _)
  induction t.entries with
  | nil => rfl
  | cons e r ih =>
    obtain ⟨k', w⟩ := e
    rw [put, List.map_cons, put]
    split
    · rfl
    · rw [List.map_cons, ih]

end Table

end CharacterSheet
