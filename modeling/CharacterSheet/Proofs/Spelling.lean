import CharacterSheet.Proofs.Exact
import CharacterSheet.Proofs.Numeral
import CharacterSheet.Proofs.Unfolding

/-! How values are spelled. A text that spells an integer is read as the integer, so what a text stands
for is never such a text. The label of a switched trait may be one, since it is not read once more, but
labels are trimmed with their rules. So of every value that a trait has it can be told if it is an
integer, unless it is a label of too many digits. -/

namespace CharacterSheet

namespace Value

/-- The integer that a value is or spells. -/
def spelled? : Value → Option Int
  | .int n => some n
  | .bool _ => none
  | .text s => Text.plain? s

/-- Whether it can be told if a value is an integer. -/
def Readable (v : Value) : Prop := v.integer? = .ok v.spelled?

/-- Whether a value is the text of an integer of too many digits. -/
def Vast : Value → Prop
  | .text s => Text.Vast s
  | _ => False

instance : DecidablePred Vast
  | .text s => inferInstanceAs (Decidable (Text.Vast s))
  | .int _ => inferInstanceAs (Decidable False)
  | .bool _ => inferInstanceAs (Decidable False)

/-- Whether a value is the text of an integer among information separators. -/
def Separated : Value → Prop
  | .text s => Text.Separated s
  | _ => False

/-- What reading an integer of too many digits fails with. -/
def vastFault (v : Value) : Fault := .value (.tooManyDigits (some (Text.digitCount v.display)))

theorem integer?_text (s : String) : (Value.text s).integer? = integerText? s := by
  show ((Data.text s).shown >>= integerText?) = _
  rw [Data.shown_text]
  rfl

theorem readable_text {s : String} (h : Text.Readable s) : Readable (.text s) := by
  rw [Readable, integer?_text]
  exact Text.readable_iff.mp h

theorem readable_of_not_vast {v : Value} (hs : ¬ v.Separated) (hv : ¬ v.Vast) : v.Readable := by
  cases v with
  | int n => rfl
  | bool b => rfl
  | text s => exact readable_text (Text.readable_of_not_vast hs hv)

theorem integer?_of_vast {v : Value} (hs : ¬ v.Separated) (hv : v.Vast) :
    v.integer? = .error v.vastFault := by
  cases v with
  | int n => cases hv
  | bool b => cases hv
  | text s =>
    rw [integer?_text]
    exact Text.integerText?_of_vast hs hv

/-- A value that is no integer, unless it is one outright. -/
def Reduced : Value → Prop
  | .text s => Text.plain? s = none
  | _ => True

theorem Reduced.readable {v : Value} (h : v.Reduced) : v.Readable := by
  cases v with
  | int n => rfl
  | bool b => rfl
  | text s => exact readable_text (Text.readable_of_plain?_eq_none h)

theorem Reduced.not_separated_display {v : Value} (h : v.Reduced) :
    ¬ Text.Separated v.display := by
  cases v with
  | int n => exact Text.not_separated_toString n
  | bool b => cases b <;> decide
  | text s =>
    have hs : Text.plain? s = none := h
    rintro ⟨hsome, _⟩
    have hsome : (Text.plain? s).isSome = true := hsome
    rw [hs] at hsome
    cases hsome

end Value

namespace Character

section

variable {c : Character} {ask : Ask} {busy : List String} {t : Trait} {v w : Value}

/-! ## What texts stand for -/

theorem negate_reduced {negative : Bool} (h : negate negative v = .ok w) : w.Reduced := by
  obtain ⟨n, hn, h⟩ := Result.bind_ok h
  cases n with
  | some n =>
    obtain rfl := Result.pure_ok h
    trivial
  | none =>
    cases v with
    | int n => cases hn
    | bool b =>
      obtain rfl := Result.pure_ok h
      trivial
    | text s =>
      rw [Value.integer?_text] at hn
      have hs : Text.plain? s = none := Text.integerText?_eq_ok_none_iff.mp hn
      obtain rfl := Result.pure_ok h
      cases negative with
      | true => exact Text.plain?_minus hs
      | false => exact hs

theorem refers_eq_false_iff {s : String} : c.refers s = false ↔
    Ruleset.isReserved (splitSign s).2 = false ∧ c.bindings.get? (splitSign s).2 = none := by
  rw [refers, Bool.or_eq_false_iff, Table.contains, Option.isSome_eq_false_iff,
    Option.isNone_iff_eq_none]

/-- A name stands for an integer or for what is registered, and any other text for itself. -/
theorem reference_ok {s : String} (h : c.reference ask busy s = .ok w) :
    (Ruleset.isReserved (splitSign s).2 = true ∧ ∃ n, w = .int n) ∨
    (∃ id u, c.bindings.get? (splitSign s).2 = some id ∧
      c.registered ask busy (splitSign s).2 id = .ok u ∧ negate (splitSign s).1 u = .ok w) ∨
    (c.refers s = false ∧ w = .text s) := by
  unfold reference at h
  dsimp only at h
  split at h
  · rename_i hreserved
    obtain ⟨n, _, h⟩ := Result.bind_ok h
    obtain rfl := Result.pure_ok h
    exact .inl ⟨hreserved, _, rfl⟩
  · rename_i hreserved
    split at h
    · rename_i id hbound
      obtain ⟨u, hu, h⟩ := Result.bind_ok h
      exact .inr (.inl ⟨id, u, hbound, hu, h⟩)
    · rename_i hfree
      cases h
      exact .inr (.inr ⟨refers_eq_false_iff.mpr ⟨by simpa using hreserved, hfree⟩, rfl⟩)

theorem expand_ok {s : String} (h : c.expand ask busy (.text s) = .ok w) :
    (∃ n, Text.plain? s = some n ∧ w = .int n) ∨ (∃ b, w = .bool b) ∨
    (s = "" ∧ w = .text "") ∨
    (Text.plain? s = none ∧ boolText? s = none ∧ c.reference ask busy s = .ok w) := by
  unfold expand at h
  dsimp only at h
  split at h
  · rename_i he
    obtain rfl := String.isEmpty_iff.mp he
    cases h
    exact .inr (.inr (.inl ⟨rfl, rfl⟩))
  · obtain ⟨n, hn, h⟩ := Result.bind_ok h
    cases n with
    | some n =>
      have hread := Text.readable_iff.mp ⟨some n, hn⟩
      obtain rfl := Result.pure_ok h
      exact .inl ⟨n, Except.ok.inj (hread.symm.trans hn), rfl⟩
    | none =>
      dsimp only at h
      split at h
      · rename_i b _
        obtain rfl := Result.pure_ok h
        exact .inr (.inl ⟨b, rfl⟩)
      · rename_i hb
        exact .inr (.inr (.inr ⟨Text.integerText?_eq_ok_none_iff.mp hn, hb, h⟩))

theorem expand_reduced (h : c.expand ask busy v = .ok w) : w.Reduced := by
  cases v with
  | int n =>
    cases h
    trivial
  | bool b =>
    cases h
    trivial
  | text s =>
    rcases expand_ok h with ⟨n, _, rfl⟩ | ⟨b, rfl⟩ | ⟨_, rfl⟩ | ⟨hs, _, h⟩
    · trivial
    · trivial
    · exact Text.plain?_empty
    · rcases reference_ok h with ⟨_, n, rfl⟩ | ⟨id, u, _, _, hu⟩ | ⟨_, rfl⟩
      · trivial
      · exact negate_reduced hu
      · exact hs

theorem ask_value_reduced (h : c.ask busy (.value v) = .ok w) : w.Reduced := by
  rw [ask_eq, answer] at h
  exact expand_reduced h

/-! ## Values of traits -/

theorem expanded_ok (h : c.expanded ask busy t = .ok v) : ∃ w, c.unclamped ask busy t = .ok w ∧
    ((∃ n b, w = .int n ∧ bounds ask busy t.profile = .ok b ∧ v = .int (clamp n b)) ∨
      ((∀ n, w ≠ .int n) ∧ v = w)) := by
  obtain ⟨w, hw, h⟩ := Result.bind_ok h
  refine ⟨w, hw, ?_⟩
  cases w with
  | int n =>
    obtain ⟨b, hb, h⟩ := Result.bind_ok h
    obtain rfl := Result.pure_ok h
    exact .inl ⟨n, b, rfl, hb, rfl⟩
  | bool b =>
    obtain rfl := Result.pure_ok h
    exact .inr ⟨nofun, rfl⟩
  | text s =>
    obtain rfl := Result.pure_ok h
    exact .inr ⟨nofun, rfl⟩

/-- A value that is no integer is what the raw value stands for, or a label that is put in its place.
-/
theorem unclamped_ok (h : c.unclamped ask busy t = .ok w) : (∃ n, w = .int n) ∨
    ask busy (.value (.text t.raw)) = .ok w ∨
    ∃ labels u, t.profile.derivation = .switched labels ∧
      ask busy (.value (.text t.raw)) = .ok u ∧ u.toData.isWritable = true ∧
      w = .text ((labels.get? u.display).getD u.display) := by
  unfold unclamped at h
  split at h
  · exact .inr (.inl h)
  · exact .inr (.inl h)
  · rename_i labels hd
    obtain ⟨u, hu, h⟩ := Result.bind_ok h
    obtain ⟨s, hs, h⟩ := Result.bind_ok h
    obtain ⟨hwritable, rfl⟩ := Data.shown_ok_iff.mp hs
    obtain rfl := Result.pure_ok h
    exact .inr (.inr ⟨labels, u, hd, hu, hwritable, rfl⟩)
  · obtain ⟨n, _, h⟩ := Result.bind_ok h
    obtain rfl := Result.pure_ok h
    exact .inl ⟨n, rfl⟩
  · obtain ⟨ns, _, h⟩ := Result.bind_ok h
    obtain rfl := Result.pure_ok h
    exact .inl ⟨_, rfl⟩
  · obtain ⟨n, _, h⟩ := Result.bind_ok h
    obtain rfl := Result.pure_ok h
    exact .inl ⟨n, rfl⟩

end

end Character

theorem Profile.apply_switched {name : String} {p : Profile} {x : Directive} {labels : Switch}
    (h : (p.apply name x).derivation = .switched labels) :
    p.derivation = .switched labels ∨ ∃ source, x = .derivedSwitch source labels := by
  cases x with
  | derivedSwitch source switch =>
    cases h
    exact .inr ⟨source, rfl⟩
  | derivedInteger source f => cases h
  | derivedOption dummy name switch => cases h
  | mainTraitMax group => cases h
  | mainTraitCount group => cases h
  | minMax low high => exact .inl h
  | values options => exact .inl h
  | autoHide => exact .inl h
  | isVariable name => exact .inl h
  | subTrait parent => exact .inl h
  | powerLevel level => exact .inl h

theorem Profile.of_switched {d : TraitDefinition} {labels : Switch}
    (h : (Profile.of d).derivation = .switched labels) :
    ∃ source, .derivedSwitch source labels ∈ d.directives := by
  suffices gen : ∀ (xs : List Directive) (p : Profile),
      (xs.foldl (Profile.apply d.name) p).derivation = .switched labels →
      p.derivation = .switched labels ∨ ∃ source, .derivedSwitch source labels ∈ xs by
    exact (gen d.directives (Profile.initial d.standard) h).resolve_left nofun
  intro xs
  induction xs with
  | nil => exact fun p hp => .inl hp
  | cons x r ih =>
    intro p hp
    rcases ih _ hp with hp | ⟨source, hs⟩
    · rcases Profile.apply_switched hp with hp | ⟨source, rfl⟩
      · exact .inl hp
      · exact .inr ⟨source, List.mem_cons_self⟩
    · exact .inr ⟨source, List.mem_cons_of_mem _ hs⟩

namespace Character

variable {c : Character} {t : Trait} {v : Value}

theorem Sound.not_separated_label (h : c.Sound) (ht : t ∈ c.traits) {labels : Switch}
    (hd : t.profile.derivation = .switched labels) {s label : String}
    (hs : labels.get? s = some label) : ¬ Text.Separated label := by
  obtain ⟨source, hx⟩ := Profile.of_switched hd
  have hmem := TraitCatalog.mem_of_get? (h.defined t ht)
  have hlabel : label ∈ labels.values := List.mem_map_of_mem (Table.get?_eq_some_iff.mp hs)
  exact h.catalog.words _ hmem _ hx label hlabel

/-- Only a label of too many digits can not be read. -/
theorem Sound.not_separated (h : c.Sound) (ht : t ∈ c.traits) (hv : c.expandedValue t = .ok v) :
    ¬ v.Separated := by
  have hreduced : v.Reduced → ¬ v.Separated := by
    intro hred
    cases v with
    | text s => exact hred.not_separated_display
    | int n => exact not_false
    | bool b => exact not_false
  rw [expandedValue_eq] at hv
  obtain ⟨w, hw, ⟨n, b, _, _, rfl⟩ | ⟨hno, rfl⟩⟩ := expanded_ok hv
  · exact not_false
  · rcases unclamped_ok hw with ⟨n, rfl⟩ | hraw | ⟨labels, u, hd, hu, _, rfl⟩
    · exact absurd rfl (hno n)
    · exact hreduced (ask_value_reduced hraw)
    · show ¬ Text.Separated _
      cases hl : labels.get? u.display with
      | some label => exact h.not_separated_label ht hd hl
      | none => exact (ask_value_reduced hu).not_separated_display

end Character

end CharacterSheet
