import CharacterSheet.Proofs.Merging

/-! Merging, leaf by leaf. A map is merged into another as if the values that are no maps were written
one by one under the paths that lead to them: a path that leads somewhere in the second map leads there
in the merged one, and one that the second map knows nothing of leads where it led in the first. From
this it is clear what merging does not change: a map over nothing, over itself, or for a second time.

The maps here do not stand within themselves, and their keys are equal to themselves. -/

namespace CharacterSheet

namespace Data

/-- Maps in maps, down to values that are no maps. -/
inductive Nested : Data → Prop
  | leaf {v : Data} (h : v.isMap = false) : Nested v
  | map {es : List (Data × Data)} (hkeys : Keyed es) (h : ∀ e ∈ es, Nested e.2) : Nested (.map es)

/-- A map whose values are maps in turn, or no maps at all. -/
structure IsDict (v : Data) : Prop where
  isMap : v.isMap = true
  nested : v.Nested

/-- Where a path of keys leads. -/
def at? : List Data → Data → Option Data
  | [], v => some v
  | k :: p, .map es => (lookup k es).bind (at? p)
  | _ :: _, _ => none

/-- A path goes beyond a value that is no map. -/
def Beyond (v : Data) (p : List Data) : Prop :=
  ∃ q w, q <+: p ∧ q ≠ p ∧ at? q v = some w ∧ w.isMap = false

/-- What is written over what stood there before, if anything did. -/
structure Overrides (before : Option Data) (b m : Data) : Prop where
  leaf : ∀ p v, at? p b = some v → v.isMap = false → at? p m = some v
  map : ∀ p v, at? p b = some v → v.isMap = true → ∃ w, at? p m = some w ∧ w.isMap = true
  kept : ∀ p, at? p b = none → ¬ Beyond b p → at? p m = before.bind (at? p)
  only : ∀ p w, at? p m = some w →
    (at? p b).isSome = true ∨ ¬ Beyond b p ∧ before.bind (at? p) = some w

/-- A value that another one changes nothing of, if it is merged in. -/
inductive Holds : Data → Data → Prop
  | leaf {v : Data} (h : v.isMap = false) : Holds v v
  | map {base es : List (Data × Data)} (hfound : ∀ e ∈ es, (lookup e.1 base).isSome = true)
    (h : ∀ e ∈ es, ∀ w, lookup e.1 base = some w → Holds w e.2) : Holds (.map base) (.map es)

section

variable {k : Data} {v w : Data} {p : List Data} {es : List (Data × Data)}

theorem Nested.isTree (h : v.Nested) : v.IsTree := by
  induction h with
  | leaf h => exact .leaf h
  | map _ _ ih => exact .map ih

/-! ## Paths -/

theorem at?_cons_of_not_isMap (h : v.isMap = false) : at? (k :: p) v = none := by
  cases v with
  | map es => cases h
  | _ => rfl

theorem beyond_of_not_isMap (h : v.isMap = false) : Beyond v (k :: p) :=
  ⟨[], v, List.nil_prefix, (List.cons_ne_nil k p).symm, rfl, h⟩

/-- A path goes beyond a value in a map if its rest does in what its first key leads to. -/
theorem beyond_map_iff :
    Beyond (.map es) (k :: p) ↔ ∃ v, lookup k es = some v ∧ Beyond v p := by
  constructor
  · rintro ⟨q, w, hq, hne, hw, hleaf⟩
    cases q with
    | nil =>
      cases hw
      cases hleaf
    | cons l q =>
      obtain ⟨rfl, hrest⟩ := List.cons_prefix_cons.mp hq
      obtain ⟨v, hv, hw⟩ := Option.bind_eq_some_iff.mp hw
      exact ⟨v, hv, q, w, hrest, fun h => hne (h ▸ rfl), hw, hleaf⟩
  · rintro ⟨v, hv, q, w, hq, hne, hw, hleaf⟩
    refine ⟨k :: q, w, List.cons_prefix_cons.mpr ⟨rfl, hq⟩, ?_, ?_, hleaf⟩
    · exact fun h => hne (List.cons.inj h).2
    · rw [at?, hv]
      exact hw

end

/-! ## What is written -/

namespace Overrides

variable {before : Option Data} {v : Data} {base es m : List (Data × Data)}

/-- A value is written as it is over nothing, and where it or what stood there is no map. -/
theorem whole (h : v.isMap = true → ∀ u, before = some u → u.isMap = false) :
    Overrides before v v := by
  constructor
  · exact fun p w hw _ => hw
  · exact fun p w hw hmap => ⟨w, hw, hmap⟩
  · intro p hnone hbeyond
    rw [hnone, eq_comm, Option.bind_eq_none_iff]
    intro u hu
    cases p with
    | nil => cases hnone
    | cons k p =>
      cases hv : v.isMap with
      | false => exact absurd (beyond_of_not_isMap hv) hbeyond
      | true => exact at?_cons_of_not_isMap (h hv u hu)
  · exact fun p w hw => .inl (hw ▸ rfl)

/-- A map is written over a map where each of its entries is written over what stood under its key. -/
theorem entries
    (hown : ∀ k v, lookup k es = some v →
      ∃ w, lookup k m = some w ∧ Overrides (lookup k base) v w)
    (hother : ∀ k, lookup k es = none → lookup k m = lookup k base) :
    Overrides (some (.map base)) (.map es) (.map m) := by
  constructor
  · intro p v hv hleaf
    cases p with
    | nil =>
      cases hv
      cases hleaf
    | cons k p =>
      obtain ⟨u, hu, hv⟩ := Option.bind_eq_some_iff.mp hv
      obtain ⟨w, hw, hover⟩ := hown k u hu
      rw [at?, hw]
      exact hover.leaf p v hv hleaf
  · intro p v hv hmap
    cases p with
    | nil => exact ⟨_, rfl, rfl⟩
    | cons k p =>
      obtain ⟨u, hu, hv⟩ := Option.bind_eq_some_iff.mp hv
      obtain ⟨w, hw, hover⟩ := hown k u hu
      rw [at?, hw]
      exact hover.map p v hv hmap
  · intro p hnone hbeyond
    cases p with
    | nil => cases hnone
    | cons k p =>
      rw [Option.bind_some, at?, at?]
      cases hu : lookup k es with
      | none => rw [hother k hu]
      | some u =>
        obtain ⟨w, hw, hover⟩ := hown k u hu
        rw [at?, hu] at hnone
        rw [hw]
        exact hover.kept p hnone fun h => hbeyond (beyond_map_iff.mpr ⟨u, hu, h⟩)
  · intro p w hw
    cases p with
    | nil => exact .inl rfl
    | cons k p =>
      rw [Option.bind_some, at?, at?, beyond_map_iff]
      rw [at?] at hw
      cases hu : lookup k es with
      | none =>
        rw [hother k hu] at hw
        exact .inr ⟨nofun, hw⟩
      | some u =>
        obtain ⟨w', hw', hover⟩ := hown k u hu
        rw [hw'] at hw
        refine (hover.only p w hw).imp id ?_
        rintro ⟨hbeyond, hbase⟩
        refine ⟨?_, hbase⟩
        rintro ⟨_, hfound, h⟩
        cases hfound
        exact hbeyond h

end Overrides

/-! ## What changes nothing -/

namespace Holds

variable {v w : Data} {base es : List (Data × Data)}

theorem of_entries (h : ∀ e ∈ es, ∃ w, lookup e.1 base = some w ∧ Holds w e.2) :
    Holds (.map base) (.map es) := by
  refine .map (fun e he => ?_) fun e he w hw => ?_
  · obtain ⟨w, hw, _⟩ := h e he
    exact hw ▸ rfl
  · obtain ⟨u, hu, hholds⟩ := h e he
    rw [hu] at hw
    exact Option.some.inj hw ▸ hholds

theorem of_map (h : Holds (.map base) (.map es)) :
    ∀ e ∈ es, ∃ w, lookup e.1 base = some w ∧ Holds w e.2 := by
  cases h with
  | leaf h => cases h
  | map hfound h =>
    intro e he
    obtain ⟨w, hw⟩ := Option.isSome_iff_exists.mp (hfound e he)
    exact ⟨w, hw, h e he w hw⟩

theorem eq_of_leaf (h : Holds w v) (hmap : v.isMap = true → w.isMap = false) : v = w := by
  cases h with
  | leaf => rfl
  | map => cases hmap rfl

end Holds

theorem Nested.holds {v : Data} (h : v.Nested) : Holds v v := by
  induction h with
  | leaf h => exact .leaf h
  | map hkeys h ih =>
    exact .of_entries fun e he => ⟨e.2, hkeys.lookup_of_mem he, ih e he⟩

/-! ## One entry after the other -/

/-- What is written under a key where `before` stood. -/
def written (n : Nat) (before : Option Data) (v : Data) : Result Data := do
  match v.face, before.map face with
  | .map inner, some (.map old) => return .map (← mergeWithin n old inner)
  | _, _ => return v

theorem mergeEntry_eq (n : Nat) (base : List (Data × Data)) (k v : Data) :
    mergeEntry n base k v = (written n (lookup k base) v).map fun w => put k w base := by
  unfold mergeEntry written
  generalize v.face = f, (lookup k base).map face = g
  cases f with
  | map inner =>
    cases g with
    | none => rfl
    | some w =>
      cases w with
      | map old =>
        show (mergeWithin n old inner >>= fun m => pure (put k (.map m) base)) =
          (mergeWithin n old inner >>= fun m => pure (Data.map m)).map fun w => put k w base
        cases mergeWithin n old inner <;> rfl
      | _ => rfl
  | _ => rfl

theorem mergeWithin_cons_ok {n : Nat} {base r m : List (Data × Data)} {e : Data × Data}
    (h : mergeWithin (n + 1) base (e :: r) = .ok m) :
    ∃ w, written n (lookup e.1 base) e.2 = .ok w ∧
      mergeWithin (n + 1) (put e.1 w base) r = .ok m := by
  rw [mergeWithin_cons, mergeEntry_eq] at h
  obtain ⟨_, hfirst, hrest⟩ := Result.bind_ok h
  obtain ⟨w, hw, rfl⟩ := Result.map_ok_iff.mp hfirst
  exact ⟨w, hw, hrest⟩

/-- Where both were maps they are merged, and otherwise the value itself is written. -/
theorem written_cases {n : Nat} {before : Option Data} {v w : Data}
    (hbefore : ∀ u, before = some u → u.Nested) (hv : v.Nested)
    (h : written n before v = .ok w) :
    (∃ base es m, before = some (.map base) ∧ v = .map es ∧ mergeWithin n base es = .ok m ∧
      w = .map m) ∨
    (v.isMap = true → ∀ u, before = some u → u.isMap = false) ∧ w = v := by
  unfold written at h
  split at h
  · rename_i inner old hface hold
    obtain ⟨m, hm, h⟩ := Result.bind_ok h
    obtain ⟨u, hu, huface⟩ := Option.map_eq_some_iff.mp hold
    obtain rfl := hv.isTree.eq_of_face hface
    obtain rfl := (hbefore u hu).isTree.eq_of_face huface
    exact .inl ⟨old, inner, m, hu, rfl, hm, (Result.pure_ok h).symm⟩
  · rename_i hne
    refine .inr ⟨fun hmap u hu => ?_, (Result.pure_ok h).symm⟩
    obtain ⟨inner, hinner⟩ := isMap_iff.mp hmap
    refine Bool.eq_false_iff.mpr fun humap => ?_
    obtain ⟨old, hold⟩ := isMap_iff.mp humap
    exact hne inner old hinner (by rw [hu, Option.map_some, hold])

/-- What writing entries over those of a map does under each key. -/
structure Writes (n : Nat) (base es m : List (Data × Data)) : Prop where
  keyed : Keyed m
  own : ∀ k v, lookup k es = some v →
    ∃ w, lookup k m = some w ∧ written n (lookup k base) v = .ok w
  other : ∀ k, lookup k es = none → lookup k m = lookup k base

theorem mergeWithin_writes {n : Nat} {base es m : List (Data × Data)} (hbase : Keyed base)
    (hes : Keyed es) (h : mergeWithin (n + 1) base es = .ok m) : Writes n base es m := by
  induction es generalizing base with
  | nil =>
    cases h
    exact ⟨hbase, nofun, fun _ _ => rfl⟩
  | cons e r ih =>
    obtain ⟨w, hw, h⟩ := mergeWithin_cons_ok h
    have hkey : isKey e.1 = true := hes.keys e List.mem_cons_self
    have hrest := ih (hbase.put hkey w) hes.of_cons h
    refine ⟨hrest.keyed, fun k v hv => ?_, fun k hk => ?_⟩
    · rw [lookup] at hv
      cases hek : e.1 == k with
      | true =>
        rw [hek] at hv
        cases hv
        rw [hrest.other k (hes.lookup_rest hek), hbase.lookup_put hkey, hek,
          ← hbase.lookup_congr ((beq_iff_form hkey).mp hek)]
        exact ⟨w, rfl, hw⟩
      | false =>
        rw [hek] at hv
        obtain ⟨u, hu, hwritten⟩ := hrest.own k v hv
        rw [hbase.lookup_put hkey, hek] at hwritten
        exact ⟨u, hu, hwritten⟩
    · rw [lookup] at hk
      cases hek : e.1 == k with
      | true =>
        rw [hek] at hk
        cases hk
      | false =>
        rw [hek] at hk
        rw [hrest.other k hk, hbase.lookup_put hkey, hek]
        rfl

/-! ## Maps over maps -/

section

variable {n : Nat} {base es m : List (Data × Data)}

theorem Nested.values (h : (Data.map es).Nested) : Keyed es ∧ ∀ e ∈ es, e.2.Nested := by
  cases h with
  | leaf h => cases h
  | map hkeys h => exact ⟨hkeys, h⟩

theorem mergeWithin_overrides (hbase : (Data.map base).Nested) (hes : (Data.map es).Nested)
    (h : mergeWithin n base es = .ok m) : (Data.map m).Nested ∧
      Overrides (some (.map base)) (.map es) (.map m) ∧ Holds (.map m) (.map es) := by
  induction n generalizing base es m with
  | zero => cases h
  | succ n ih =>
    obtain ⟨hbasekeys, hbasevalues⟩ := hbase.values
    obtain ⟨hkeys, hvalues⟩ := hes.values
    have hwrites := mergeWithin_writes hbasekeys hkeys h
    have hbefore : ∀ {k u}, lookup k base = some u → u.Nested := value_of_lookup hbasevalues
    -- What stands under a key of the second map was written over what stood there.
    have hown : ∀ k v, lookup k es = some v →
        ∃ w, lookup k m = some w ∧ w.Nested ∧ Overrides (lookup k base) v w ∧ Holds w v := by
      intro k v hv
      obtain ⟨w, hw, hwritten⟩ := hwrites.own k v hv
      have hnested : v.Nested := value_of_lookup hvalues hv
      refine ⟨w, hw, ?_⟩
      rcases written_cases (fun u hu => hbefore hu) hnested hwritten with
        ⟨old, inner, merged, hold, rfl, hmerged, rfl⟩ | ⟨hwhole, rfl⟩
      · rw [hold]
        exact ih (hbefore hold) hnested hmerged
      · exact ⟨hnested, .whole hwhole, hnested.holds⟩
    refine ⟨.map hwrites.keyed fun e he => ?_, .entries (fun k v hv => ?_) hwrites.other,
      .of_entries fun e he => ?_⟩
    · have hfound := hwrites.keyed.lookup_of_mem he
      cases hv : lookup e.1 es with
      | none => exact hbefore (hwrites.other e.1 hv ▸ hfound)
      | some v =>
        obtain ⟨w, hw, hnested, _⟩ := hown e.1 v hv
        rw [hfound] at hw
        cases hw
        exact hnested
    · obtain ⟨w, hw, _, hover, _⟩ := hown k v hv
      exact ⟨w, hw, hover⟩
    · obtain ⟨w, hw, _, _, hholds⟩ := hown e.1 e.2 (hkeys.lookup_of_mem he)
      exact ⟨w, hw, hholds⟩

/-- What changes nothing of a map leaves it as it is, order and spelling included. -/
theorem mergeWithin_of_holds (hbase : (Data.map base).Nested) (hes : (Data.map es).Nested)
    (hholds : Holds (.map base) (.map es)) (h : mergeWithin n base es = .ok m) : m = base := by
  induction n generalizing base es m with
  | zero => cases h
  | succ n ih =>
    induction es generalizing base with
    | nil =>
      cases h
      rfl
    | cons e r ihr =>
      obtain ⟨hkeys, hvalues⟩ := hes.values
      obtain ⟨hv, hr⟩ := List.forall_mem_cons.mp hvalues
      obtain ⟨⟨w, hw, hentry⟩, hrest⟩ := List.forall_mem_cons.mp hholds.of_map
      have hwnested : w.Nested := value_of_lookup hbase.values.2 hw
      obtain ⟨u, hu, h⟩ := mergeWithin_cons_ok h
      rw [hw] at hu
      have hsame : u = w := by
        rcases written_cases (fun _ h => Option.some.inj h ▸ hwnested) hv hu with
          ⟨old, inner, merged, hold, hinner, hmerged, rfl⟩ | ⟨hwhole, rfl⟩
        · obtain rfl := Option.some.inj hold
          rw [hinner] at hv hentry
          rw [ih hwnested hv hentry hmerged]
        · exact hentry.eq_of_leaf fun hmap => hwhole hmap w rfl
      rw [hsame, put_eq_self hw] at h
      exact ihr hbase (.map hkeys.of_cons hr) (.of_entries hrest) h

theorem written_none (n : Nat) (v : Data) : written n none v = .ok v := by
  unfold written
  split
  · rename_i hnone
    cases hnone
  · rfl

/-- Entries under new keys come after those that are there. -/
theorem mergeWithin_of_fresh (hes : Keyed es) (hfresh : ∀ e ∈ es, lookup e.1 base = none)
    (h : mergeWithin n base es = .ok m) : m = base ++ es := by
  obtain ⟨n, rfl⟩ : ∃ k, n = k + 1 := by
    cases n with
    | zero => cases h
    | succ k => exact ⟨k, rfl⟩
  induction es generalizing base with
  | nil =>
    cases h
    exact (List.append_nil _).symm
  | cons e r ih =>
    obtain ⟨he, hr⟩ := List.forall_mem_cons.mp hfresh
    obtain ⟨w, hw, h⟩ := mergeWithin_cons_ok h
    rw [he, written_none] at hw
    obtain rfl := Except.ok.inj hw
    rw [put_of_none he] at h
    have hfresh' : ∀ f ∈ r, lookup f.1 (base ++ [e]) = none := by
      intro f hf
      rw [lookup_eq_none_iff, List.forall_mem_append, List.forall_mem_singleton]
      exact ⟨lookup_eq_none_iff.mp (hr f hf), List.rel_of_pairwise_cons hes.distinct hf⟩
    rw [ih hes.of_cons hfresh' h, List.append_assoc, List.singleton_append]

end

/-! ## Merging -/

theorem merge_map (base es : List (Data × Data)) :
    merge (.map base) (.map es) = (mergeEntries base es).map .map := by
  show (mergeEntries base es >>= fun m => pure (Data.map m)) = _
  cases mergeEntries base es <;> rfl

/-- Maps that are trees are merged entry by entry. -/
theorem exists_merge (base : List (Data × Data)) {es : List (Data × Data)}
    (hes : (Data.map es).Nested) :
    ∃ n m, mergeWithin n base es = .ok m ∧ merge (.map base) (.map es) = .ok (.map m) := by
  obtain ⟨m, hm⟩ := exists_mergeEntries base hes.isTree.values
  exact ⟨_, m, hm, by rw [merge_map, hm]; rfl⟩

theorem IsDict.exists_map {a : Data} (h : a.IsDict) : ∃ es, a = .map es := by
  obtain ⟨es, hes⟩ := isMap_iff.mp h.isMap
  exact ⟨es, h.nested.isTree.eq_of_face hes⟩

theorem isDict_nil : (Data.map []).IsDict := ⟨rfl, .map .nil nofun⟩

/-- Merging is overriding, leaf by leaf. Hence nothing comes of merging with an empty map, of merging a
map with itself, or of merging for a second time. -/
theorem merge_overrides {a b : Data} (ha : a.IsDict) (hb : b.IsDict) :
    (∃ m, merge a b = .ok m ∧ m.IsDict ∧ Overrides (some a) b m ∧ merge m b = .ok m) ∧
    merge (.map []) b = .ok b ∧ merge a (.map []) = .ok a ∧ merge a a = .ok a := by
  obtain ⟨base, rfl⟩ := ha.exists_map
  obtain ⟨es, rfl⟩ := hb.exists_map
  refine ⟨?_, ?_, rfl, ?_⟩
  · obtain ⟨n, m, hm, hmerge⟩ := exists_merge base hb.nested
    obtain ⟨hnested, hover, hholds⟩ := mergeWithin_overrides ha.nested hb.nested hm
    obtain ⟨n', m', hm', hagain⟩ := exists_merge m hb.nested
    rw [mergeWithin_of_holds hnested hb.nested hholds hm'] at hagain
    exact ⟨.map m, hmerge, ⟨rfl, hnested⟩, hover, hagain⟩
  · obtain ⟨n, m, hm, hmerge⟩ := exists_merge [] hb.nested
    rw [hmerge, mergeWithin_of_fresh hb.nested.values.1 (fun _ _ => rfl) hm, List.nil_append]
  · obtain ⟨n, m, hm, hmerge⟩ := exists_merge base ha.nested
    rw [hmerge, mergeWithin_of_holds ha.nested ha.nested ha.nested.holds hm]

/-- Standard fields of traits, and a trait that writes a map over a text, a text over a map, and into a
map under a key that is spelled otherwise. -/
def standardTrait : Data :=
  .map [(.text "rule", .text "trait"), (.text "notes", .map [(.text "first", .null)]),
    (.text "pages", .map [(.text "core", .int 9), (.int 1, .int 3)])]

def ownTrait : Data :=
  .map [(.text "notes", .text "none"), (.text "rule", .map []),
    (.text "pages", .map [(.bool true, .map []), (.text "guide", .list [.int 4])])]

theorem isDict_of_leaves {es : List (Data × Data)} (hkeys : Keyed es)
    (h : ∀ e ∈ es, e.2.isMap = false) : (Data.map es).IsDict :=
  ⟨rfl, .map hkeys fun e he => .leaf (h e he)⟩

theorem standardTrait_isDict : standardTrait.IsDict := by
  refine ⟨rfl, .map ⟨by decide +kernel, by decide +kernel⟩ ?_⟩
  have hnotes : (Data.map [(.text "first", .null)]).IsDict :=
    isDict_of_leaves ⟨by decide +kernel, by decide +kernel⟩ (by decide +kernel)
  have hpages : (Data.map [(.text "core", .int 9), (.int 1, .int 3)]).IsDict :=
    isDict_of_leaves ⟨by decide +kernel, by decide +kernel⟩ (by decide +kernel)
  simp only [List.forall_mem_cons, List.not_mem_nil, false_imp_iff, implies_true, and_true]
  exact ⟨.leaf rfl, hnotes.nested, hpages.nested⟩

theorem ownTrait_isDict : ownTrait.IsDict := by
  refine ⟨rfl, .map ⟨by decide +kernel, by decide +kernel⟩ ?_⟩
  have hpages : (Data.map [(.bool true, .map []), (.text "guide", .list [.int 4])]).IsDict := by
    refine ⟨rfl, .map ⟨by decide +kernel, by decide +kernel⟩ ?_⟩
    exact List.forall_mem_cons.mpr ⟨isDict_nil.nested, List.forall_mem_singleton.mpr (.leaf rfl)⟩
  simp only [List.forall_mem_cons, List.not_mem_nil, false_imp_iff, implies_true, and_true]
  exact ⟨.leaf rfl, isDict_nil.nested, hpages.nested⟩

theorem merge_overrides_trait : ∃ m, merge standardTrait ownTrait = .ok m ∧
    Overrides (some standardTrait) ownTrait m ∧ merge m ownTrait = .ok m := by
  obtain ⟨m, hm, _, hover, hagain⟩ := (merge_overrides standardTrait_isDict ownTrait_isDict).1
  exact ⟨m, hm, hover, hagain⟩

end Data

end CharacterSheet
