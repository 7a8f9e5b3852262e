import CharacterSheet.Proofs.Clamping
import CharacterSheet.Proofs.Keys
import CharacterSheet.Proofs.SelfReference

/-! What names stand for. A text is read as an integer or a truth value first, then a minus sign is taken
off, and only then is it a name. So a registered name stands for its trait's value, and with a minus
sign for the value negated, unless the name is itself a word for truth or begins with the sign: such a
name can be registered, and a look at it finds something else. -/

namespace CharacterSheet

namespace Character

open Result

/-- What a name stands for that has no sign. One that names nothing stands for itself. -/
def meaning (c : Character) (name : String) : Result Value :=
  if Ruleset.isReserved name then do return .int (← c.reserved c.ask [] name)
  else match c.bindings.get? name with
    | some id => c.registered c.ask [] name id
    | none => .ok (.text name)

section

variable {c : Character} {name s : String} {negative : Bool} {id : Int} {t : Trait} {v w x : Value}

/-! ## Texts and names -/

theorem meaning_of_isReserved (h : Ruleset.isReserved name = true) :
    c.meaning name = (c.reserved c.ask [] name).map .int := by
  rw [meaning, if_pos h]
  cases c.reserved c.ask [] name <;> rfl

theorem meaning_of_get? (h : Ruleset.isReserved name = false)
    (hb : c.bindings.get? name = some id) : c.meaning name = c.registered c.ask [] name id := by
  rw [meaning, h, hb]
  rfl

/-- A text without its sign is a name, and the sign is put back to what the name stands for. -/
theorem reference_eq (hs : splitSign s = (negative, name))
    (hself : s = if negative then "-" ++ name else name) : c.reference c.ask [] s =
      (c.meaning name).map fun v => if negative then v.negated else v := by
  rw [reference, hs]
  dsimp only
  by_cases hr : Ruleset.isReserved name = true
  · rw [if_pos hr, meaning_of_isReserved hr]
    cases c.reserved c.ask [] name with
    | error f => rfl
    | ok n => exact negate_of_reduced (v := .int n) trivial
  · rw [if_neg hr, meaning, if_neg hr]
    cases hb : c.bindings.get? name with
    | none =>
      rw [hself]
      cases negative <;> rfl
    | some id =>
      dsimp only
      cases hu : c.registered c.ask [] name id with
      | error f => rfl
      | ok u =>
        obtain ⟨_, _, _, _, hagain⟩ := registered_ok hu
        exact negate_of_reduced (ask_value_reduced hagain)

theorem value_eq_reference (hne : s ≠ "") (hnumber : Text.plain? s = none)
    (htruth : boolText? s = none) : c.value (.text s) = c.reference c.ask [] s := by
  have hempty : ¬ s.isEmpty = true := fun he => hne (String.isEmpty_iff.mp he)
  rw [value_eq, expand, if_neg hempty, Text.integerText?_eq_ok_none_iff.mpr hnumber, htruth]
  rfl

theorem value_name (hne : name ≠ "") (hnumber : Text.plain? name = none)
    (htruth : boolText? name = none) (hsign : (splitSign name).1 = false) :
    c.value (.text name) = c.meaning name := by
  rw [value_eq_reference hne hnumber htruth, reference_eq (splitSign_unsigned hsign) rfl]
  cases c.meaning name <;> rfl

theorem value_minus (hnumber : Text.plain? ("-" ++ name) = none) :
    c.value (.text ("-" ++ name)) = (c.meaning name).map Value.negated := by
  have hne : "-" ++ name ≠ "" := by
    intro he
    have hchars := congrArg String.toList he
    simp at hchars
  rw [value_eq_reference hne hnumber (boolText?_minus name), reference_eq (splitSign_minus name) rfl]
  rfl

theorem lookup_text (c : Character) (s : String) :
    c.lookup (.text s) = (c.value (.text s)).map Value.toData := by
  show (c.value (.text s) >>= fun v => pure v.toData) = _
  cases c.value (.text s) <;> rfl

theorem lookup_toData (c : Character) (w : Value) :
    c.lookup w.toData = (c.value w).map Value.toData := by
  cases w with
  | int n => rw [value_eq]; rfl
  | bool b => rw [value_eq]; rfl
  | text s => exact lookup_text c s

/-! ## Registered names -/

theorem Reachable.trim_name (h : Reachable c) (hb : c.bindings.get? name = some id) :
    Text.trim name = name := by
  obtain ⟨r, hbuilt⟩ := h.built
  obtain ⟨_, t, ht, _, hx⟩ := h.sound.mem_bindings.mp (Table.get?_eq_some_iff.mp hb)
  have hdefined := TraitCatalog.mem_of_get? (h.sound.defined t ht)
  exact Engine.trimmed hbuilt hdefined hx List.mem_cons_self

theorem boolText?_of_trim (htrim : Text.trim s = s) (hyes : Text.lower s ≠ "true")
    (hno : Text.lower s ≠ "false") : boolText? s = none := by
  rw [boolText?, htrim]
  split
  · exact absurd ‹_› hyes
  · exact absurd ‹_› hno
  · rfl

/-- A name that is no word for truth and has no sign stands for what its trait's value stands for. A
word for truth stands for itself all the same, and a name with a sign for what the rest of it does. -/
theorem registered_name_found (h : Reachable c) (ht : t ∈ c.traits)
    (hb : c.bindings.get? name = some t.id) (hw : c.expandedValue t = .ok w) {d : Data}
    (hd : c.lookup w.toData = .ok d) :
    (boolText? name = none → (splitSign name).1 = false → c.lookup (.text name) = .ok d) ∧
    (∀ b, boolText? name = some b → c.lookup (.text name) = .ok (.bool b)) ∧
    ∀ rest, name = "-" ++ rest →
      c.lookup (.text name) = ((c.meaning rest).map Value.negated).map Value.toData := by
  obtain ⟨⟨hne, hnumber, hfree⟩, _⟩ := h.sound.mem_bindings.mp (Table.get?_eq_some_iff.mp hb)
  refine ⟨?_, ?_, ?_⟩
  · intro htruth hsign
    rw [lookup_toData] at hd
    obtain ⟨x, hx, rfl⟩ := map_ok_iff.mp hd
    have hfound : c.registered c.ask [] name t.id = .ok x :=
      registered_of_value hb (trait?_of_mem h.sound.ascending ht) hw hx
    rw [lookup_text, value_name hne hnumber htruth hsign, meaning_of_get? hfree hb, hfound]
    rfl
  · intro b htruth
    have hempty : ¬ name.isEmpty = true := fun he => hne (String.isEmpty_iff.mp he)
    rw [lookup_text, value_eq, expand, if_neg hempty,
      Text.integerText?_eq_ok_none_iff.mpr hnumber, htruth]
    rfl
  · rintro rest rfl
    rw [lookup_text, value_minus hnumber]

end

end Character

/-- Truth and Night have names that something else is found by, and Day is the opposite of Truth. -/
def Ruleset.shadowed : Ruleset :=
  .small
    [.small 1 "Truth" "IS_VARIABLE|true" "5", .small 2 "Night" "IS_VARIABLE|-NIGHT" "-9",
      .ruled 3 "Day" ["IS_VARIABLE|DAY", "MINMAX|-3|3"] "-true"]
    [.small .mortal [1, 2, 3]]

def Engine.shadowed : Engine where
  ruleset := .shadowed
  traits :=
    ⟨TraitDefinition.finished Ruleset.shadowed.traits
      [([.isVariable "true"], []), ([.isVariable "-NIGHT"], []),
        ([.isVariable "DAY", .minMax "-3" "3"], [])], .empty⟩
  templates := ⟨[{ TemplateDefinition.small .mortal [1, 2, 3] with traitIds := [1, 2, 3] }]⟩
  paths := .empty

theorem Engine.build_shadowed : build .shadowed = .ok .shadowed := (rfl)

namespace Character

def shadowed : Character where
  engine := .shadowed
  id := 0
  templates := [.mortal]
  traits := Engine.shadowed.traits.definitions.map .fresh
  bindings := .ofList [("true", 1), ("-NIGHT", 2), ("DAY", 3)]
  groups := .empty

theorem reachable_shadowed : Reachable shadowed := by
  have hcreate : create .shadowed ⟨0, [], [], .empty⟩ = .ok (shadowed, []) := rfl
  exact .created Engine.build_shadowed hcreate

/-- Two registered names that do not lead to what is registered: one is taken for truth, and the other
one for the opposite of a name that there is not. -/
theorem registered_names_shadowed : Reachable shadowed ∧
    (∃ t ∈ shadowed.traits, shadowed.bindings.get? "true" = some t.id ∧
      shadowed.expandedValue t = .ok (.int 5) ∧ shadowed.lookup (.int 5) = .ok (.int 5) ∧
      shadowed.lookup (.text "true") = .ok (.bool true)) ∧
    ∃ t ∈ shadowed.traits, shadowed.bindings.get? "-NIGHT" = some t.id ∧
      shadowed.expandedValue t = .ok (.int (-9)) ∧ shadowed.lookup (.int (-9)) = .ok (.int (-9)) ∧
      shadowed.lookup (.text "-NIGHT") = .ok (.text "-NIGHT") :=
  ⟨reachable_shadowed, ⟨_, List.mem_cons_self, rfl, rfl, rfl, rfl⟩,
    ⟨_, List.mem_of_getElem? (i := 1) rfl, rfl, rfl, rfl, rfl⟩⟩

theorem registered_name_found_shadowed :
    shadowed.lookup (.text "DAY") = .ok (.int (-3)) ∧
    shadowed.lookup (.text "true") = .ok (.bool true) ∧
    shadowed.lookup (.text "-NIGHT") = .ok (.text "-NIGHT") := by
  refine ⟨?_, ?_, ?_⟩
  · exact (registered_name_found reachable_shadowed (List.mem_of_getElem? (i := 2) rfl) rfl rfl
      rfl).1 rfl rfl
  · exact (registered_name_found reachable_shadowed List.mem_cons_self rfl rfl rfl).2.1 true rfl
  · exact (registered_name_found reachable_shadowed (List.mem_of_getElem? (i := 1) rfl) rfl rfl
      rfl).2.2 "NIGHT" rfl

/-! ## Names with a sign -/

/-- A name with a minus sign before it fails as the name does, and otherwise stands for what the name
stands for, with the other sign. -/
theorem leading_minus_negates {c : Character} {name : String} (h : Reachable c)
    (hname : Ruleset.isReserved name = true ∨ (∃ id, c.bindings.get? name = some id) ∧
      (splitSign name).1 = false ∧ Text.lower name ≠ "true" ∧ Text.lower name ≠ "false") :
    (∀ f, c.lookup (.text ("-" ++ name)) = .error f ↔ c.lookup (.text name) = .error f) ∧
    (∀ n, c.lookup (.text name) = .ok (.int n) →
      c.lookup (.text ("-" ++ name)) = .ok (.int (-n))) ∧
    (∀ s, c.lookup (.text name) = .ok (.text s) →
      c.lookup (.text ("-" ++ name)) = .ok (.text ("-" ++ s))) ∧
    ∀ b, c.lookup (.text name) = .ok (.bool b) →
      c.lookup (.text ("-" ++ name)) = .ok (.bool b) := by
  have hspoken : name ≠ "" ∧ Text.plain? name = none ∧ boolText? name = none ∧
      (splitSign name).1 = false := by
    cases hname with
    | inl hr =>
      refine ⟨?_, ?_, ?_, unsigned_of_isReserved hr⟩
      · exact of_isReserved (P := (· ≠ "")) (by decide) hr
      · exact of_isReserved (P := fun word => Text.plain? word = none) (by decide) hr
      · exact of_isReserved (P := fun word => boolText? word = none) (by decide) hr
    | inr hb =>
      obtain ⟨⟨id, hb⟩, hsign, hyes, hno⟩ := hb
      obtain ⟨⟨hne, hnumber, _⟩, _⟩ := h.sound.mem_bindings.mp (Table.get?_eq_some_iff.mp hb)
      exact ⟨hne, hnumber, boolText?_of_trim (h.trim_name hb) hyes hno, hsign⟩
  obtain ⟨hne, hnumber, htruth, hsign⟩ := hspoken
  rw [lookup_text, lookup_text, value_minus (Text.plain?_minus hnumber),
    value_name hne hnumber htruth hsign]
  cases c.meaning name with
  | error f => simp [Except.map]
  | ok v => cases v <;> simp [Except.map, Value.negated, Value.toData]

/-- Fear stands for a text that has a sign already, and Head leads to itself. -/
theorem leading_minus_negates_entangled :
    boundedKindred.lookup (.text "FEAR") = .ok (.text "-NIGHT") ∧
    boundedKindred.lookup (.text "-FEAR") = .ok (.text "--NIGHT") ∧
    entangled.lookup (.text "-HEAD") = .error (.evaluation (.circular "HEAD")) := by
  have hfear : boundedKindred.lookup (.text "FEAR") = .ok (.text "-NIGHT") := rfl
  have hbound : Ruleset.isReserved "FEAR" = true ∨
      (∃ id, boundedKindred.bindings.get? "FEAR" = some id) ∧ (splitSign "FEAR").1 = false ∧
        Text.lower "FEAR" ≠ "true" ∧ Text.lower "FEAR" ≠ "false" :=
    .inr ⟨⟨6, rfl⟩, rfl, by decide, by decide⟩
  have hlooped : Ruleset.isReserved "HEAD" = true ∨
      (∃ id, entangled.bindings.get? "HEAD" = some id) ∧ (splitSign "HEAD").1 = false ∧
        Text.lower "HEAD" ≠ "true" ∧ Text.lower "HEAD" ≠ "false" :=
    .inr ⟨⟨3, rfl⟩, rfl, by decide, by decide⟩
  refine ⟨hfear, ?_, ?_⟩
  · exact (leading_minus_negates reachable_boundedKindred hbound).2.2.1 "-NIGHT" hfear
  · have hreachable : Reachable entangled := .created Engine.build_entangled create_entangled
    exact ((leading_minus_negates hreachable hlooped).1 _).mpr rfl

end Character

end CharacterSheet
