import CharacterSheet.Proofs.Sound
import CharacterSheet.Proofs.Unfolding

/-! Readings after a raw value was set. The character has the same names, groups and rules as before,
and its traits are the same ones up to that raw value. So what it makes out of answers is what it made
before, out of answers about the traits as they are now, and only a reading that comes to the trait
itself can tell the two apart. -/

namespace CharacterSheet

/-! ## Traits -/

theorem Derivation.mem_sources {d : Derivation} {raw text : String} (h : text ∈ d.sources raw)
    (raw' : String) : text = raw ∨ text ∈ d.sources raw' := by
  cases d <;> simp_all [sources]

namespace Trait

theorem mem_sources_revalue {id : Int} {raw text : String} {t : Trait}
    (h : text ∈ (t.revalue id raw).sources) : text = raw ∨ text ∈ t.sources := by
  by_cases hid : t.id = id
  · subst hid
    rw [revalue_self, sources, List.mem_append] at h
    rw [sources, List.mem_append]
    cases h with
    | inl h => exact (Derivation.mem_sources h t.raw).imp_right .inl
    | inr h => exact .inr (.inr h)
  · rw [revalue_of_ne hid] at h
    exact .inr h

end Trait

namespace Character

open Result

/-- The query about the trait as it is then. -/
def Query.revalue (id : Int) (raw : String) : Query → Query
  | .value v => .value v
  | .trait t => .trait (t.revalue id raw)

section

variable (c : Character) (id : Int) (raw : String)

@[simp] theorem setRaw_engine : (c.setRaw id raw).engine = c.engine := rfl

@[simp] theorem setRaw_bindings : (c.setRaw id raw).bindings = c.bindings := rfl

@[simp] theorem setRaw_group (p : Int) : (c.setRaw id raw).group p = c.group p := rfl

theorem present_setRaw (ids : List Int) :
    (c.setRaw id raw).present ids = (c.present ids).map (Trait.revalue id raw) := by
  rw [present, present, List.map_filterMap]
  exact List.filterMap_congr fun x _ => trait?_setRaw c id raw x

theorem named?_setRaw (name : String) :
    (c.setRaw id raw).named? name = (c.named? name).map (Trait.revalue id raw) := by
  rw [named?_eq_head?, named?_eq_head?, setRaw_engine, present_setRaw, List.head?_map]

end

section

variable {c : Character} {t : Trait} {id : Int} {raw : String}

theorem setRaw_setRaw (raw' : String) : (c.setRaw id raw).setRaw id raw' = c.setRaw id raw' := by
  have htraits : ((c.setRaw id raw).setRaw id raw').traits = (c.setRaw id raw').traits := by
    rw [setRaw_traits, setRaw_traits, setRaw_traits, List.map_map]
    exact List.map_congr_left fun t _ => Trait.revalue_revalue id raw t raw'
  exact congrArg (fun traits => { c with traits }) htraits

theorem revalue_of_mem (hasc : Ascending c.traitIds) (ht : t ∈ c.traits) {u : Trait}
    (hu : u ∈ c.traits) : u.revalue t.id t.raw = u := by
  by_cases hid : u.id = t.id
  · obtain rfl := List.inj_on_of_nodup_map hasc.nodup hu ht hid
    rw [Trait.revalue_self]
  · exact Trait.revalue_of_ne hid t.raw

/-- Setting the raw value that a trait has changes nothing. -/
theorem setRaw_self (hasc : Ascending c.traitIds) (ht : t ∈ c.traits) : c.setRaw t.id t.raw = c := by
  have htraits : c.traits.map (Trait.revalue t.id t.raw) = c.traits :=
    (List.map_congr_left fun u hu => revalue_of_mem hasc ht hu).trans (List.map_id c.traits)
  exact congrArg (fun traits => { c with traits }) htraits

theorem mem_setRaw (ht : t ∈ c.traits) (raw : String) :
    { t with raw } ∈ (c.setRaw t.id raw).traits :=
  mem_setRaw_iff.mpr ⟨t, ht, t.revalue_self raw⟩

/-- A query about a character is one about this trait, or it is the same afterwards. -/
theorem Own.eq_or_revalue (hasc : Ascending c.traitIds) (ht : t ∈ c.traits) {q : Query}
    (hq : c.Own q) (raw : String) : q = .trait t ∨ q.revalue t.id raw = q := by
  cases q with
  | value v => exact .inr rfl
  | trait u =>
    by_cases hid : u.id = t.id
    · exact .inl (congrArg Query.trait (List.inj_on_of_nodup_map hasc.nodup hq ht hid))
    · exact .inr (congrArg Query.trait (Trait.revalue_of_ne hid raw))

end

/-! ## What answers are made of -/

section

variable (c : Character) (id : Int) (raw : String)

/-- What is asked about the traits as they are after a raw value was set. -/
def Ask.after (ask : Ask) (id : Int) (raw : String) : Ask :=
  fun busy q => ask busy (q.revalue id raw)

variable (ask : Ask) (busy : List String)

theorem virtuesPenalty_setRaw : (c.setRaw id raw).virtuesPenalty ask busy =
    c.virtuesPenalty (ask.after id raw) busy := by
  rw [virtuesPenalty, virtuesPenalty, named?_setRaw, setRaw_engine]
  cases c.named? c.engine.ruleset.virtuesTrait <;> rfl

theorem pathScore_setRaw : (c.setRaw id raw).pathScore ask busy =
    c.pathScore (ask.after id raw) busy := by
  rw [pathScore, pathScore, named?_setRaw, setRaw_engine]
  cases c.named? c.engine.ruleset.pathScoreTrait <;> rfl

theorem reserved_setRaw (name : String) : (c.setRaw id raw).reserved ask busy name =
    c.reserved (ask.after id raw) busy name := by
  rw [reserved, reserved, effectiveHumanity, effectiveHumanity, pathScore_setRaw,
    virtuesPenalty_setRaw, setRaw_engine]

theorem registered_setRaw (name : String) (owner : Int) :
    (c.setRaw id raw).registered ask busy name owner =
      c.registered (ask.after id raw) busy name owner := by
  rw [registered, registered, trait?_setRaw]
  cases c.trait? owner <;> rfl

theorem expand_setRaw (v : Value) : (c.setRaw id raw).expand ask busy v =
    c.expand (ask.after id raw) busy v := by
  have hreference : ∀ s, (c.setRaw id raw).reference ask busy s =
      c.reference (ask.after id raw) busy s := by
    intro s
    unfold reference
    simp only [reserved_setRaw, registered_setRaw, setRaw_bindings]
  cases v with
  | int n => rfl
  | bool b => rfl
  | text s =>
    unfold expand
    simp only [hreference]

theorem countSelected_revalue (ts : List Trait) : countSelected ask busy
    (ts.map (Trait.revalue id raw)) = countSelected (ask.after id raw) busy ts := by
  induction ts with
  | nil => rfl
  | cons t r ih => rw [List.map_cons, countSelected, countSelected, ih]; rfl

theorem integersOf_revalue (ts : List Trait) : integersOf ask busy
    (ts.map (Trait.revalue id raw)) = integersOf (ask.after id raw) busy ts := by
  induction ts with
  | nil => rfl
  | cons t r ih =>
    rw [List.map_cons, integersOf, integersOf, ih, Trait.revalue_name]
    rfl

theorem expanded_setRaw (t : Trait) : (c.setRaw id raw).expanded ask busy t =
    c.expanded (ask.after id raw) busy t := by
  have hunclamped : (c.setRaw id raw).unclamped ask busy t =
      c.unclamped (ask.after id raw) busy t := by
    rw [unclamped, unclamped, setRaw_group, present_setRaw, countSelected_revalue,
      integersOf_revalue]
    cases t.profile.derivation <;> rfl
  rw [expanded, expanded, hunclamped]
  rfl

/-- The only difference is which traits are asked about. -/
theorem answer_setRaw (q : Query) : (c.setRaw id raw).answer ask busy q =
    c.answer (ask.after id raw) busy q := by
  cases q with
  | value v => exact expand_setRaw c id raw ask busy v
  | trait t => exact expanded_setRaw c id raw ask busy t

end

/-! ## Readings that do not come to the trait -/

section

variable {c : Character} {t : Trait} {busy : List String} {q : Query} {n : Nat}

/-- Where each query that is consulted has no answer yet, or is one that begins at another trait and
consults only such queries in turn, the reading gives the same with any raw value. -/
theorem askWithin_apart {id : Int} {raw : String} {P : Query → Prop}
    (hstep : ∀ busy q busy' q', P q → Consults c busy q busy' q' →
      (∀ m < n, ∀ v, c.askWithin m busy' q' ≠ .ok v) ∨ (P q' ∧ q'.revalue id raw = q'))
    (hq : P q) :
    Gives (c.askWithin n busy q) ((c.setRaw id raw).askWithin n busy q) := by
  induction n generalizing busy q with
  | zero =>
    intro v hv
    cases hv
  | succ n ih =>
    rw [askWithin, askWithin, answer_setRaw]
    refine carried_answer carries_gives fun busy' q' hc => ?_
    cases hstep busy q busy' q' hq hc with
    | inl hunread =>
      intro v hv
      exact absurd hv (hunread n (Nat.lt_succ_self n) v)
    | inr hother =>
      rw [Ask.after, hother.2]
      refine ih (fun b r b' r' hr hc => ?_) hother.1
      exact (hstep b r b' r' hr hc).imp_left fun hunread m hm => hunread m (Nat.lt_succ_of_lt hm)

/-- A reading that is too shallow for the trait to have been read gives the same with any raw value. -/
theorem askWithin_unread (hasc : Ascending c.traitIds) (ht : t ∈ c.traits)
    (hunread : ∀ m < n, ∀ b v, c.askWithin m b (.trait t) ≠ .ok v) (raw : String) :
    Gives (c.askWithin n busy q) ((c.setRaw t.id raw).askWithin n busy q) := by
  refine askWithin_apart (P := fun _ => True) (fun _ q busy' q' _ hc => ?_) trivial
  cases hc.own.eq_or_revalue hasc ht raw with
  | inl he =>
    subst he
    exact .inl fun m hm => hunread m hm busy'
  | inr he => exact .inr ⟨trivial, he⟩

end

end Character

end CharacterSheet
