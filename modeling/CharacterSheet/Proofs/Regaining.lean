import CharacterSheet.Proofs.Alike
import CharacterSheet.Proofs.Reload

/-! Which values survive saving and loading. Saved values are assigned again one after the other, in
the order of the IDs, and each is weighed once more, while the traits after it are still fresh. So a
value comes back if it is accepted then, which need not be so: it may have been assigned within
bounds that hang on a trait with a higher ID, or have been there before its bounds changed. That the
values of all traits come back so is exactly what it takes for a character to be loaded as it was
saved, along with Mortal not standing beside another template. -/

namespace CharacterSheet

theorem Trait.ext {t u : Trait} (hd : t.definition = u.definition) (hr : t.raw = u.raw) : t = u := by
  cases t
  cases u
  cases hd
  cases hr
  rfl

namespace Character

/-- A character whose traits have their values only below an ID, and are fresh from there on. -/
def awaiting (c : Character) (id : Int) : Character :=
  { c with traits := c.traits.map fun t => if t.id < id then t else .fresh t.definition }

/-- The value of a trait is accepted again where it is due, or is what a fresh trait has anyway. -/
def Regains (c : Character) (t : Trait) : Prop :=
  ∃ d, (c.awaiting t.id).weigh (.fresh t.definition) (.text t.raw) = .ok d ∧
    (d.success = true ∨ t = .fresh t.definition)

/-- What is assigned again of some traits. -/
def restored (ts : List Trait) : List (Int × Data) :=
  (ts.filter fun t => t.profile.derivation.isAssignable).map fun t => (t.id, .text t.raw)

section

variable {c p : Character} {pre suf : List Trait} {t : Trait}

theorem Sound.saved_entries (h : c.Sound) : c.save.values.entries =
    (c.traits.filter fun t => t.profile.derivation.isAssignable).map fun t => (t.id, t.raw) := by
  apply Table.entries_ofList
  rw [List.map_map]
  exact h.ascending.nodup.sublist (List.filter_sublist.map _)

theorem Sound.saved_values (h : c.Sound) :
    (c.save.values.mapValues fun _ v => Data.text v).entries = restored c.traits := by
  show c.save.values.entries.map _ = _
  rw [h.saved_entries, List.map_map]
  rfl

/-- The first traits have got their values back, and the others are fresh. -/
structure Regaining (c : Character) (pre suf : List Trait) (p : Character) : Prop where
  split : c.traits = pre ++ suf
  engine : p.engine = c.engine
  traits : p.traits = pre ++ suf.map fun t => .fresh t.definition
  bindings : ∀ name, p.bindings.get? name = c.bindings.get? name
  groups : ∀ x, p.groups.get? x = c.groups.get? x

theorem Regaining.ids (h : Regaining c pre suf p) : p.traitIds = c.traitIds := by
  rw [traitIds, traitIds, h.split, h.traits, List.map_append, List.map_append, List.map_map]
  rfl

theorem Regaining.apart (hc : c.Sound) (h : Regaining c pre (t :: suf) p) :
    (∀ u ∈ pre, u.id < t.id) ∧ ∀ u ∈ suf, t.id < u.id := by
  have hasc : (pre.map Trait.id ++ t.id :: suf.map Trait.id).Pairwise (· < ·) := by
    have hall := hc.ascending
    rwa [traitIds, h.split, List.map_append, List.map_cons] at hall
  obtain ⟨_, hrest, hpre⟩ := List.pairwise_append.mp hasc
  obtain ⟨hsuf, _⟩ := List.pairwise_cons.mp hrest
  exact ⟨fun u hu => hpre _ (List.mem_map_of_mem hu) _ List.mem_cons_self,
    fun u hu => hsuf _ (List.mem_map_of_mem hu)⟩

theorem Regaining.awaited (hc : c.Sound) (h : Regaining c pre (t :: suf) p) :
    p.traits = (c.awaiting t.id).traits := by
  obtain ⟨hpre, hsuf⟩ := h.apart hc
  rw [awaiting, h.traits]
  dsimp only
  rw [h.split, List.map_append]
  congr 1
  · symm
    rw [List.map_congr_left fun u hu => if_pos (hpre u hu), List.map_id']
  · apply List.map_congr_left
    intro u hu
    rw [if_neg]
    rcases List.mem_cons.mp hu with rfl | hu
    · exact lt_irrefl _
    · exact (hsuf u hu).not_gt

/-- The next trait is weighed as it is when all before it have got their values back. -/
theorem Regaining.weigh (hc : c.Sound) (h : Regaining c pre (t :: suf) p) (u : Trait) (v : Data) :
    p.weigh u v = (c.awaiting t.id).weigh u v := by
  have halike : Alike (c.awaiting t.id) p := ⟨h.engine, h.awaited hc, h.bindings, h.groups⟩
  exact halike.weigh u v

theorem Regaining.trait? (hc : c.Sound) (h : Regaining c pre (t :: suf) p) :
    p.trait? t.id = some (.fresh t.definition) := by
  have hasc : Ascending p.traitIds := h.ids ▸ hc.ascending
  have hmem : Trait.fresh t.definition ∈ p.traits := by
    rw [h.traits, List.map_cons]
    exact List.mem_append_right _ List.mem_cons_self
  exact trait?_of_mem hasc hmem

/-- A trait that has what a fresh one has needs nothing more. -/
theorem Regaining.pass (h : Regaining c pre (t :: suf) p) (ht : t = .fresh t.definition) :
    Regaining c (pre ++ [t]) suf p := by
  refine ⟨?_, h.engine, ?_, h.bindings, h.groups⟩
  · rw [h.split, List.append_assoc]
    rfl
  · rw [h.traits, List.map_cons, ← ht, List.append_assoc]
    rfl

theorem Regaining.take (hc : c.Sound) (h : Regaining c pre (t :: suf) p) :
    Regaining c (pre ++ [t]) suf (p.setRaw t.id t.raw) := by
  obtain ⟨hpre, hsuf⟩ := h.apart hc
  refine ⟨?_, h.engine, ?_, h.bindings, h.groups⟩
  · rw [h.split, List.append_assoc]
    rfl
  · rw [setRaw, h.traits]
    dsimp only
    rw [List.map_append, List.map_cons, List.map_cons, List.append_assoc, List.singleton_append]
    congr 1
    · rw [List.map_congr_left fun u hu => if_neg (hpre u hu).ne, List.map_id']
    · rw [List.map_map]
      congr 1
      · exact if_pos rfl
      · apply List.map_congr_left
        exact fun u hu => if_neg (hsuf u hu).ne'

theorem assignListed_trait? {l : List (Int × Data)} {d : Character} (h : c.assignListed l = .ok d)
    {x : Int} (hx : x ∉ l.map Prod.fst) : d.trait? x = c.trait? x := by
  induction l generalizing c with
  | nil => cases h; rfl
  | cons e r ih =>
    obtain ⟨id, v⟩ := e
    rw [List.map_cons, List.mem_cons, not_or] at hx
    unfold assignListed at h
    split at h
    · rename_i t ht
      obtain ⟨⟨q, taken⟩, hq, h⟩ := Result.bind_ok h
      rw [ih h hx.2]
      rcases assign_ok hq with ⟨_, _, rfl⟩ | rfl
      · rw [id_of_trait? ht]
        exact setRaw_trait?_of_ne hx.1 _
      · rfl
    · exact ih h hx.2

/-! ## All values -/

theorem assignListed_cons_of_weigh {u : Trait} {s : String} {d : Decision} {id : Int}
    {l : List (Int × Data)} (hu : p.trait? id = some u) (hw : p.weigh u (.text s) = .ok d) :
    p.assignListed ((id, .text s) :: l) =
      (if d.success = true then p.setRaw u.id s else p).assignListed l := by
  have htext : (Data.text s).textOf? = .ok (some s) := congrArg (Except.map some) (Data.shown_text s)
  rw [assignListed, hu]
  dsimp only
  rw [assign, hw, htext, Data.shown_text]
  cases hd : d.success <;> simp [hd, bind, Except.bind, pure, Except.pure]

theorem assignListed_cons_of_fault {u : Trait} {v : Data} {f : Fault} {id : Int}
    {l : List (Int × Data)} (hu : p.trait? id = some u) (hw : p.weigh u v = .error f) :
    p.assignListed ((id, v) :: l) = .error f := by
  rw [assignListed, hu]
  dsimp only
  rw [assign, hw]
  rfl

theorem restored_assignable (ha : t.profile.derivation.isAssignable = true) :
    restored (t :: suf) = (t.id, .text t.raw) :: restored suf := by
  have hfilter := List.filter_cons_of_pos (p := fun t : Trait => t.profile.derivation.isAssignable)
    (a := t) (l := suf) ha
  rw [restored, hfilter]
  rfl

theorem restored_computed (ha : t.profile.derivation.isAssignable = false) :
    restored (t :: suf) = restored suf := by
  rw [restored, List.filter_cons_of_neg (by simp [ha])]
  rfl

/-- Nothing assigns a trait any more that has been passed over. -/
theorem Regaining.missed (hc : c.Sound) (h : Regaining c pre (t :: suf) p) {q : Character}
    (hq : p.assignListed (restored suf) = .ok q) (hsame : q.traits = c.traits) :
    t = .fresh t.definition := by
  have hnot : t.id ∉ (restored suf).map Prod.fst := by
    rw [restored, List.map_map]
    intro hm
    obtain ⟨u, hu, he⟩ := List.mem_map.mp hm
    exact ((h.apart hc).2 u (List.mem_of_mem_filter hu)).ne' he
  have ht : t ∈ c.traits := by
    rw [h.split]
    exact List.mem_append_right _ List.mem_cons_self
  have hkept : q.trait? t.id = c.trait? t.id := by
    rw [Character.trait?, Character.trait?, hsame]
  rw [assignListed_trait? hq hnot, h.trait? hc, trait?_of_mem hc.ascending ht] at hkept
  exact (Option.some.inj hkept).symm

/-- Assigning what was saved leads back to the traits there were exactly if each of them regains its
value. -/
theorem Regaining.all (hc : c.Sound) (h : Regaining c pre suf p) :
    (∃ q, p.assignListed (restored suf) = .ok q ∧ q.traits = c.traits) ↔
      ∀ t ∈ suf, t.profile.derivation.isAssignable = true → Regains c t := by
  induction suf generalizing pre p with
  | nil =>
    have hsame : p.traits = c.traits := by rw [h.traits, h.split]; rfl
    exact iff_of_true ⟨p, rfl, hsame⟩ fun _ hm => absurd hm List.not_mem_nil
  | cons t suf ih =>
    have ht : t ∈ c.traits := by
      rw [h.split]
      exact List.mem_append_right _ List.mem_cons_self
    rw [List.forall_mem_cons]
    cases ha : t.profile.derivation.isAssignable with
    | false =>
      rw [restored_computed ha, ih (h.pass (hc.computed t ht ha))]
      exact ⟨fun hall => ⟨nofun, hall⟩, And.right⟩
    | true =>
      have hw := h.weigh hc (.fresh t.definition) (.text t.raw)
      have hthere := h.trait? hc
      rw [restored_assignable ha]
      cases hd : (c.awaiting t.id).weigh (.fresh t.definition) (.text t.raw) with
      | error f =>
        apply iff_of_false
        · rintro ⟨q, hq, _⟩
          rw [assignListed_cons_of_fault hthere (hw.trans hd)] at hq
          cases hq
        · rintro ⟨hregains, _⟩
          obtain ⟨d, he, _⟩ := hregains rfl
          rw [hd] at he
          cases he
      | ok d =>
        have hstep := assignListed_cons_of_weigh (l := restored suf) hthere (hw.trans hd)
        rw [hstep]
        by_cases hs : d.success = true
        · rw [if_pos hs]
          exact (ih (h.take hc)).trans ⟨fun hall => ⟨fun _ => ⟨d, hd, .inl hs⟩, hall⟩, And.right⟩
        · rw [if_neg hs]
          -- A refused value is lost for good, unless it is the one the trait is left with.
          by_cases hfresh : t = .fresh t.definition
          · exact (ih (h.pass hfresh)).trans
              ⟨fun hall => ⟨fun _ => ⟨d, hd, .inr hfresh⟩, hall⟩, And.right⟩
          · apply iff_of_false
            · rintro ⟨q, hq, hsame⟩
              exact hfresh (h.missed hc hq hsame)
            · rintro ⟨hregains, _⟩
              obtain ⟨d', he, hor⟩ := hregains rfl
              rw [hd] at he
              cases he
              exact hor.elim hs hfresh

/-! ## Saving and loading -/

theorem save_congr {d : Character} (hid : d.id = c.id) (he : d.engine = c.engine)
    (hk : d.templates = c.templates) (ht : d.traits = c.traits) : d.save = c.save := by
  rw [save, save, hid, he, hk, traitIds, traitIds, ht]
  simp only [granted, he]

theorem Sound.mem_saved (h : c.Sound) {id : Int} {raw : String} :
    c.save.values.get? id = some raw ↔
      ∃ t ∈ c.traits, t.profile.derivation.isAssignable = true ∧ t.id = id ∧ t.raw = raw := by
  rw [Table.get?_eq_some_iff, h.saved_entries, List.mem_map]
  simp only [List.mem_filter, Prod.mk.injEq, and_assoc]

/-- With the values of its traits all else about them is saved. -/
theorem Sound.traits_of_save {d : Character} (hc : c.Sound) (hd : d.Sound)
    (he : d.engine = c.engine) (hids : d.traitIds = c.traitIds) (hsave : d.save = c.save) :
    d.traits = c.traits := by
  have hdef : ∀ t ∈ d.traits, ∀ u ∈ c.traits, u.id = t.id → u.definition = t.definition := by
    intro t ht u hu hid
    have hget := hd.defined t ht
    rw [he, ← hid, hc.defined u hu] at hget
    exact Option.some.inj hget
  have hsub : ∀ t ∈ d.traits, t ∈ c.traits := by
    intro t ht
    -- A computed trait is not saved, but is always a fresh one.
    cases ha : t.profile.derivation.isAssignable with
    | true =>
      have hvalue := hd.mem_saved.mpr ⟨t, ht, ha, rfl, rfl⟩
      rw [hsave] at hvalue
      obtain ⟨u, hu, _, hid, hraw⟩ := hc.mem_saved.mp hvalue
      have hut : u = t := Trait.ext (hdef t ht u hu hid) hraw
      exact hut ▸ hu
    | false =>
      have hmem : t.id ∈ c.traitIds := hids ▸ List.mem_map_of_mem ht
      obtain ⟨u, hu, hid⟩ := List.mem_map.mp hmem
      have hsame := hdef t ht u hu hid
      have hut : u = t := by
        rw [hd.computed t ht ha, hc.computed u hu (by rw [Trait.profile, hsame]; exact ha), hsame]
      exact hut ▸ hu
  apply traits_ext hd.ascending hc.ascending
  intro x
  cases hx : d.trait? x with
  | none =>
    symm
    apply trait?_eq_none_of_has
    rw [← Bool.not_eq_true, has_iff_mem, ← hids, ← has_iff_mem, has, hx]
    exact Bool.false_ne_true
  | some t =>
    rw [← id_of_trait? hx]
    exact (trait?_of_mem hc.ascending (hsub t (mem_of_trait? hx))).symm

/-- A rebuilt character has the saved one's traits, all of them fresh. -/
theorem Rebuilding.fresh_traits (hc : c.Sound) (h : Rebuilding c p) (hids : p.traitIds = c.traitIds) :
    p.traits = c.traits.map fun t => .fresh t.definition := by
  have hview : ∀ t ∈ p.traits, some t = (c.engine.traits.get? t.id).map .fresh := by
    intro t ht
    rw [← h.engine, h.sound.defined t ht, Option.map_some, ← h.fresh t ht]
  have hview' : ∀ t ∈ c.traits, some (Trait.fresh t.definition) =
      (c.engine.traits.get? t.id).map .fresh := by
    intro t ht
    rw [hc.defined t ht, Option.map_some]
  apply List.map_injective_iff.mpr (Option.some_injective Trait)
  calc p.traits.map some
      = p.traitIds.map fun x => (c.engine.traits.get? x).map .fresh := by
        rw [traitIds, List.map_map]
        exact List.map_congr_left hview
    _ = c.traitIds.map fun x => (c.engine.traits.get? x).map .fresh := by rw [hids]
    _ = (c.traits.map fun t => .fresh t.definition).map some := by
        rw [traitIds, List.map_map, List.map_map]
        exact (List.map_congr_left hview').symm

/-- Loading is assigning the saved values to a character that is otherwise the saved one. -/
theorem Sound.loading (hc : c.Sound) (hne : c.templates ≠ []) (halone : c.MortalAlone)
    (hgrants : c.GrantsPresent) : ∃ q : Character, Rebuilding c q ∧ Regaining c [] c.traits q ∧
      q.templates = c.templates ∧ ∀ d, (∃ ws, ofSnapshot c.engine c.save = .ok (d, ws)) ↔
        q.assignListed (restored c.traits) = .ok d := by
  obtain ⟨hok, hq, hkeys, hids⟩ := rebuild hc hne halone hgrants
    (c.save.values.mapValues fun _ v => .text v)
  obtain ⟨hbindings, hgroups⟩ := hc.registrations_ext hq.sound hq.engine hids
  refine ⟨_, hq, ⟨rfl, hq.engine, hq.fresh_traits hc hids, hbindings, hgroups⟩, hkeys, ?_⟩
  intro d
  rw [← hc.saved_values]
  constructor
  · rintro ⟨ws, hd⟩
    exact (create_ok hd).2
  · exact fun hd => ⟨_, create_of_base hok hd⟩

/-- Loading gives back just what was saved exactly if the character is not half a mortal and each of
its values comes back where it is due. -/
theorem load_gives_back_iff (h : Reachable c)
    (hmortal : c.engine.templates.contains .mortal = true) {v : Version}
    (hversion : Version.of? c.engine.ruleset.version = some v)
    (hgrants : ∀ x ∈ c.granted c.templates, x ∈ c.traitIds) {saved : Data}
    (hs : saved ∈ c.save.forms) :
    (∃ d ws, load c.engine saved = .ok (d, ws) ∧ d.save = c.save) ↔
      (.mortal ∈ c.templates → c.templates = [.mortal]) ∧
      ∀ t ∈ c.traits, t.profile.derivation.isAssignable = true → Regains c t := by
  have hc := h.sound
  have hne := h.templates_ne_nil hmortal
  rw [load_form hs hversion]
  constructor
  · rintro ⟨d, ws, hload, hsave⟩
    have halone : c.MortalAlone := by
      have hkeys : d.templates = c.templates := congrArg Snapshot.templates hsave
      have hd := create_alone hload
      rwa [MortalAlone, hkeys] at hd
    obtain ⟨q, hq, hregaining, _, hloads⟩ := hc.loading hne halone hgrants
    have hassigned := (hloads d).mp ⟨ws, hload⟩
    have htraits : d.traits = c.traits := by
      apply hc.traits_of_save (hq.sound.assignListed hassigned) _ _ hsave
      · exact (assignListed_framed hassigned).engine.trans hq.engine
      · exact (assignListed_ids hassigned).trans hregaining.ids
    exact ⟨halone, (hregaining.all hc).mp ⟨d, hassigned, htraits⟩⟩
  · rintro ⟨halone, hall⟩
    obtain ⟨q, hq, hregaining, hkeys, hloads⟩ := hc.loading hne halone hgrants
    obtain ⟨d, hd, htraits⟩ := (hregaining.all hc).mpr hall
    obtain ⟨ws, hload⟩ := (hloads d).mpr hd
    have hframed := assignListed_framed hd
    exact ⟨d, ws, hload, save_congr (hframed.id.trans hq.id) (hframed.engine.trans hq.engine)
      (hframed.templates.trans hkeys) htraits⟩

end

end Character

/-- The bound of its first trait hangs on its second. -/
def Ruleset.limited : Ruleset :=
  .small [.small 1 "Strength" "MINMAX|0|LIMIT" "0", .small 2 "Limit" "IS_VARIABLE|LIMIT" "1"]
    [.small .mortal [1, 2]]

def Engine.limited : Engine where
  ruleset := .limited
  traits :=
    ⟨[{ TraitDefinition.small 1 "Strength" "MINMAX|0|LIMIT" "0" with
        directives := [.minMax "0" "LIMIT"] },
      { TraitDefinition.small 2 "Limit" "IS_VARIABLE|LIMIT" "1" with
        directives := [.isVariable "LIMIT"] }],
      .empty⟩
  templates := ⟨[{ TemplateDefinition.small .mortal [1, 2] with traitIds := [1, 2] }]⟩
  paths := .empty

theorem Engine.build_limited : build .limited = .ok .limited := rfl

namespace Character

def limited (strength limit : String) : Character where
  engine := .limited
  id := 0
  templates := [.mortal]
  traits := Engine.limited.traits.definitions.zipWith Trait.mk [strength, limit]
  bindings := .ofList [("LIMIT", 2)]
  groups := .empty

theorem reachable_limited (as : List Action) : Reachable ((limited "0" "1").run as) := by
  have hcreate : create .limited ⟨0, [], [], .empty⟩ = .ok (limited "0" "1", []) := rfl
  exact (Reachable.created Engine.build_limited hcreate).run as

theorem version_limited : Version.of? Engine.limited.ruleset.version =
    some ⟨0, [1, 0], none, none, none, none⟩ := by
  show Version.of? "1.0" = _
  decide +kernel

/-- The bound was raised before the value was, and is not yet raised again when the value is due. -/
theorem load_drops_value : Reachable (limited "5" "5") ∧
    Engine.limited.templates.contains .mortal = true ∧
    (Version.of? Engine.limited.ruleset.version).isSome = true ∧
    (∀ x ∈ (limited "5" "5").granted [.mortal], x ∈ (limited "5" "5").traitIds) ∧
    (∀ t ∈ (limited "5" "5").traits, ∃ v, (limited "5" "5").expandedValue t = .ok v) ∧
    (limited "5" "5").save.values.entries = [(1, "5"), (2, "5")] ∧
    ∃ d, load .limited (limited "5" "5").save.unwritten = .ok (d, []) ∧
      d.save.values.entries = [(1, "0"), (2, "5")] := by
  refine ⟨reachable_limited [.assign 2 (.int 5), .assign 1 (.int 5)], rfl, ?_, fun _ hx => hx, ?_,
    rfl, limited "0" "5", ?_, rfl⟩
  · rw [version_limited]
    rfl
  · intro t ht
    rcases List.mem_cons.mp ht with rfl | ht
    · exact ⟨.int 5, rfl⟩
    · obtain rfl := List.mem_singleton.mp ht
      exact ⟨.int 5, rfl⟩
  · exact (load_form (c := limited "5" "5") List.mem_cons_self version_limited).trans rfl

theorem load_gives_back_iff_limited : ∃ d ws,
    load .limited (limited "0" "5").save.unwritten = .ok (d, ws) ∧
      d.save = (limited "0" "5").save := by
  have hgrants : ∀ x ∈ [(1 : Int), 2], x ∈ [(1 : Int), 2] := fun _ hx => hx
  apply (load_gives_back_iff (reachable_limited [.assign 2 (.int 5)]) rfl version_limited hgrants
    List.mem_cons_self).mpr
  refine ⟨fun _ => rfl, ?_⟩
  intro t ht _
  rcases List.mem_cons.mp ht with rfl | ht
  · exact ⟨.accepted, rfl, .inl rfl⟩
  · obtain rfl := List.mem_singleton.mp ht
    exact ⟨.accepted, rfl, .inl rfl⟩

end Character

end CharacterSheet
