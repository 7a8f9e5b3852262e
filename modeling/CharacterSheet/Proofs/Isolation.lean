import CharacterSheet.Proofs.Agreement
import CharacterSheet.Proofs.Regaining

/-! What a trait's raw value can have an effect on. A trait is read through a name that it has
registered, as a member of a group, as the main trait of a power, and as the trait behind a reserved
name. If none of these leads to it, then nothing that is offered to it, accepted or not, changes what is
read anywhere else, neither values nor faults. -/

namespace CharacterSheet.Character

/-- Nothing about a character leads to a trait. -/
structure Unreferenced (c : Character) (t : Trait) : Prop where
  unregistered : ∀ name, c.bindings.get? name ≠ some t.id
  ungrouped : ∀ p, t.id ∉ c.group p
  uncalled : ∀ u ∈ c.traits, u.profile.mainTrait ≠ some t.id
  virtues : t.name ≠ c.engine.ruleset.virtuesTrait
  pathScore : t.name ≠ c.engine.ruleset.pathScoreTrait

/-- What is read of a character without beginning at one of its traits is read of another one too. -/
structure SameApart (c d : Character) (id : Int) : Prop where
  traits : ∀ u, u.id ≠ id → (u ∈ d.traits ↔ u ∈ c.traits)
  lookup : ∀ v, d.lookup v = c.lookup v
  expandedValue : ∀ u ∈ c.traits, u.id ≠ id → d.expandedValue u = c.expandedValue u
  minimum : ∀ u ∈ c.traits, u.id ≠ id → d.minimum u = c.minimum u
  maximum : ∀ u ∈ c.traits, u.id ≠ id → d.maximum u = c.maximum u
  display : ∀ u ∈ c.traits, u.id ≠ id → d.display u = c.display u
  visibility : ∀ u ∈ c.traits, u.id ≠ id → d.visibility u = c.visibility u
  isHidden : ∀ u ∈ c.traits, u.id ≠ id → d.isHidden u = c.isHidden u
  weigh : ∀ u ∈ c.traits, u.id ≠ id → ∀ v, d.weigh u v = c.weigh u v

section

variable {c d : Character} {t : Trait}

theorem Agree.sameApart (h : Agree c d) {id : Int}
    (htraits : ∀ u, u.id ≠ id → (u ∈ d.traits ↔ u ∈ c.traits))
    (hmain : ∀ u ∈ c.traits, ∀ p, u.profile.mainTrait = some p → d.trait? p = c.trait? p) :
    SameApart c d id where
  traits := htraits
  lookup := h.lookup
  expandedValue u _ _ := h.expandedValue u
  minimum u _ _ := h.minimum u
  maximum u _ _ := h.maximum u
  display u _ _ := h.display u
  visibility u hu _ := h.visibility (hmain u hu)
  isHidden u _ _ := h.isHidden u
  weigh u _ _ := h.weigh u

theorem SameApart.refl (c : Character) (id : Int) : SameApart c c id :=
  ⟨fun _ _ => Iff.rfl, fun _ => rfl, fun _ _ _ => rfl, fun _ _ _ => rfl, fun _ _ _ => rfl,
    fun _ _ _ => rfl, fun _ _ _ => rfl, fun _ _ _ => rfl, fun _ _ _ _ => rfl⟩

/-! ## Another raw value -/

theorem mem_setRaw_of_ne {u : Trait} {id : Int} (hu : u.id ≠ id) (raw : String) :
    u ∈ (c.setRaw id raw).traits ↔ u ∈ c.traits := by
  rw [mem_setRaw_iff]
  constructor
  · rintro ⟨w, hw, rfl⟩
    rw [Trait.revalue_id] at hu
    rwa [Trait.revalue_of_ne hu]
  · exact fun hm => ⟨u, hm, Trait.revalue_of_ne hu raw⟩

theorem present_setRaw_of_notMem {id : Int} {ids : List Int} (hids : id ∉ ids) (raw : String) :
    (c.setRaw id raw).present ids = c.present ids := by
  apply List.filterMap_congr
  intro x hx
  exact setRaw_trait?_of_ne (ne_of_mem_of_not_mem hx hids) raw

/-- A trait is found by no name but its own. -/
theorem Sound.name_of_mem_idsForName (h : c.Sound) (ht : t ∈ c.traits) {name : String}
    (hid : t.id ∈ c.engine.traits.idsForName name) : t.name = name := by
  obtain ⟨d, hd, hname, hid⟩ := TraitCatalog.mem_idsForName.mp hid
  have hget := h.catalog.get?_of_mem hd
  rw [hid, h.defined t ht] at hget
  obtain rfl := Option.some.inj hget
  exact hname

theorem Sound.named?_setRaw_of_ne (h : c.Sound) (ht : t ∈ c.traits) {name : String}
    (hne : t.name ≠ name) (raw : String) : (c.setRaw t.id raw).named? name = c.named? name := by
  have hids : t.id ∉ c.engine.traits.idsForName name :=
    fun hid => hne (h.name_of_mem_idsForName ht hid)
  rw [named?_eq_head?, named?_eq_head?]
  exact congrArg List.head? (present_setRaw_of_notMem hids raw)

theorem Sound.agree_setRaw (h : c.Sound) (ht : t ∈ c.traits) (hun : c.Unreferenced t)
    (raw : String) : Agree c (c.setRaw t.id raw) where
  engine := rfl
  depth := by
    show _ * (2 * (c.traits.map _).length + 2) = _ * (2 * c.traits.length + 2)
    rw [List.length_map]
    rfl
  bindings _ := rfl
  owners name id hb := by
    have hne : id ≠ t.id := by
      rintro rfl
      exact hun.unregistered name hb
    exact setRaw_trait?_of_ne hne raw
  members p := present_setRaw_of_notMem (hun.ungrouped p) raw
  virtues := h.named?_setRaw_of_ne ht hun.virtues raw
  pathScore := h.named?_setRaw_of_ne ht hun.pathScore raw

/-- Whatever is offered to a trait that nothing leads to, all the rest reads as it did before. -/
theorem unreferenced_isolated (h : Reachable c) (ht : t ∈ c.traits) (hun : c.Unreferenced t)
    (v : Data) : SameApart c (c.perform (.assign t.id v)).after t.id := by
  rw [perform, offer, trait?_of_mem h.sound.ascending ht]
  dsimp only
  split
  · rename_i after _ hassign
    rcases assign_ok hassign with ⟨_, raw, rfl⟩ | rfl
    · have hagree := h.sound.agree_setRaw ht hun raw
      apply hagree.sameApart
      · exact fun u hu => mem_setRaw_of_ne hu _
      · intro u hu p hp
        have hne : p ≠ t.id := by
          rintro rfl
          exact hun.uncalled u hu hp
        exact setRaw_trait?_of_ne hne _
    · exact .refl _ _
  · exact .refl _ _

/-- Strength hangs on the limit, and nothing on Strength. -/
theorem unreferenced_isolated_limited :
    (limited "0" "1").Unreferenced ⟨Engine.limited.traits.definitions.head (by decide), "0"⟩ ∧
    ((limited "0" "1").perform (.assign 1 (.int 1))).after = limited "1" "1" ∧
    SameApart (limited "0" "1") (limited "1" "1") 1 := by
  have hun : (limited "0" "1").Unreferenced
      ⟨Engine.limited.traits.definitions.head (by decide), "0"⟩ := by
    refine ⟨fun name hb => ?_, fun p => List.not_mem_nil, by decide, by decide, by decide⟩
    have hm : (name, (1 : Int)) ∈ [("LIMIT", 2)] := Table.get?_eq_some_iff.mp hb
    cases List.mem_singleton.mp hm
  exact ⟨hun, rfl, unreferenced_isolated (reachable_limited []) List.mem_cons_self hun (.int 1)⟩

end

end CharacterSheet.Character
