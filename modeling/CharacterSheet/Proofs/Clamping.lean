import CharacterSheet.Proofs.Spelling

/-! Bounds and readings. An integer is put within its trait's bounds, and a variable passes it on as it
is. A text is not bounded, and a variable reads it once more. What a trait's own text stands for is
read to its end, so this changes nothing, unless minus signs before it add up to a registered name;
but a label that is put in the place of a value may be anything. -/

namespace CharacterSheet

open Result

theorem boolText?_minus (s : String) : boolText? ("-" ++ s) = none := by
  have htrim : Text.trimChars ("-" ++ s).toList = '-' :: Text.dropEnd Text.isBlank s.toList := by
    rw [String.toList_append]
    exact Text.dropEnd_cons_of_neg (by decide)
  have hlower : Text.lower (Text.trim ("-" ++ s)) =
      String.ofList ('-' :: Text.lowerAfter false (Text.dropEnd Text.isBlank s.toList)) := by
    rw [Text.trim, htrim, Text.lower, String.toList_ofList]
    rfl
  have hne : ∀ (r : List Char) (word : String), word.toList.head? ≠ some '-' →
      String.ofList ('-' :: r) ≠ word := by
    rintro r _ hhead rfl
    exact hhead (by rw [String.toList_ofList]; rfl)
  rw [boolText?, hlower]
  split
  · rename_i he
    exact absurd he (hne _ _ (by decide))
  · rename_i he
    exact absurd he (hne _ _ (by decide))
  · rfl

/-- The value with the other sign. A text gets one in front, and truth has none. -/
def Value.negated : Value → Value
  | .int n => .int (-n)
  | .bool b => .bool b
  | .text s => .text ("-" ++ s)

namespace Character

theorem splitSign_minus (s : String) : splitSign ("-" ++ s) = (true, s) := by
  rw [splitSign, String.toList_append]
  show (true, String.ofList s.toList) = _
  rw [String.ofList_toList]

theorem splitSign_unsigned {s : String} (h : (splitSign s).1 = false) :
    splitSign s = (false, s) := by
  unfold splitSign at h ⊢
  split at h
  · cases h
  · rfl

theorem splitSign_signed {s : String} (h : (splitSign s).1 = true) : s = "-" ++ (splitSign s).2 := by
  unfold splitSign at h ⊢
  split at h
  · rename_i r hr
    apply String.toList_injective
    rw [String.toList_append, hr]
    show '-' :: r = '-' :: (String.ofList r).toList
    rw [String.toList_ofList]
  · cases h

/-- A text that is no integer without its sign is none with it. -/
theorem plain?_of_splitSign {s : String} (h : Text.plain? (splitSign s).2 = none) :
    Text.plain? s = none := by
  cases hs : (splitSign s).1 with
  | true =>
    rw [splitSign_signed hs]
    exact Text.plain?_minus h
  | false => rwa [splitSign_unsigned hs] at h

/-- What holds of each reserved name. -/
theorem of_isReserved {P : String → Prop}
    (h : ∀ word ∈ Ruleset.standardReserved.keys ++ Ruleset.computedNames, P word) {name : String}
    (hname : Ruleset.isReserved name = true) : P name := by
  apply h
  rw [Ruleset.isReserved, Bool.or_eq_true] at hname
  rcases hname with hname | hname
  · obtain ⟨n, hn⟩ := Option.isSome_iff_exists.mp hname
    have hkey : name ∈ Ruleset.standardReserved.keys :=
      List.mem_map_of_mem (Table.get?_eq_some_iff.mp hn)
    exact List.mem_append_left _ hkey
  · exact List.mem_append_right _ (by simpa using hname)

/-- No reserved name begins with a minus sign. -/
theorem unsigned_of_isReserved {name : String} (h : Ruleset.isReserved name = true) :
    (splitSign name).1 = false :=
  of_isReserved (P := fun word => (splitSign word).1 = false) (by decide) h

/-- No registered name begins with a minus sign. -/
def Unsigned (c : Character) : Prop :=
  ∀ name id, c.bindings.get? name = some id → (splitSign name).1 = false

theorem Unsigned.of_entries {c : Character}
    (h : ∀ e ∈ c.bindings.entries, (splitSign e.1).1 = false) : c.Unsigned :=
  fun name id hb => h (name, id) (Table.get?_eq_some_iff.mp hb)

/-- A text that spells no value and names nothing. -/
structure Inert (c : Character) (s : String) : Prop where
  number : Text.plain? s = none
  truth : boolText? s = none
  name : c.refers s = false

section

variable {c : Character} {ask : Ask} {busy : List String} {s : String} {v w : Value}

/-! ## Texts that stand for themselves -/

theorem Inert.reference (h : Inert c s) : c.reference ask busy s = .ok (.text s) := by
  obtain ⟨hreserved, hfree⟩ := refers_eq_false_iff.mp h.name
  unfold Character.reference
  dsimp only
  rw [hreserved, hfree]
  rfl

theorem Inert.expand (h : Inert c s) : c.expand ask busy (.text s) = .ok (.text s) := by
  unfold Character.expand
  dsimp only
  split
  · rfl
  · rw [Text.integerText?_eq_ok_none_iff.mpr h.number, h.truth]
    exact h.reference

theorem Inert.value (h : Inert c s) : c.value (.text s) = .ok (.text s) := by
  rw [value_eq, h.expand]

theorem Sound.inert_empty (h : c.Sound) : Inert c "" := by
  refine ⟨Text.plain?_empty, by decide, refers_eq_false_iff.mpr ⟨by decide, ?_⟩⟩
  cases hb : c.bindings.get? (splitSign "").2 with
  | none => rfl
  | some id => exact absurd rfl (h.mem_bindings.mp (Table.get?_eq_some_iff.mp hb)).1.1

theorem Inert.minus (hc : c.Unsigned) (h : Inert c s) : Inert c ("-" ++ s) := by
  refine ⟨Text.plain?_minus h.number, boolText?_minus s, ?_⟩
  rw [refers_eq_false_iff, splitSign_minus]
  cases hs : (splitSign s).1 with
  | false =>
    have hself := refers_eq_false_iff.mp h.name
    rwa [splitSign_unsigned hs] at hself
  | true =>
    -- neither reserved names nor registered ones begin with the sign that is left
    constructor
    · by_contra hr
      rw [unsigned_of_isReserved (eq_true_of_ne_false hr)] at hs
      cases hs
    · by_contra hb
      obtain ⟨id, hid⟩ := Option.ne_none_iff_exists'.mp hb
      rw [hc s id hid] at hs
      cases hs

theorem negate_text {negative : Bool} (h : negate negative v = .ok (.text s)) :
    ∃ r, v = .text r ∧ (s = r ∨ s = "-" ++ r) := by
  obtain ⟨n, hn, h⟩ := Result.bind_ok h
  cases n with
  | some n => cases h
  | none =>
    cases v with
    | int n => cases hn
    | bool b => cases h
    | text r =>
      have he := Value.text.inj (Result.pure_ok h)
      cases negative with
      | true => exact ⟨r, rfl, .inr he.symm⟩
      | false => exact ⟨r, rfl, .inl he.symm⟩

/-- A text that another value stands for stands for itself. -/
theorem Sound.inert (h : c.Sound) (hc : c.Unsigned) {n : Nat}
    (hv : c.askWithin n busy (.value v) = .ok (.text s)) : Inert c s := by
  induction n generalizing busy v s with
  | zero => cases hv
  | succ n ih =>
    rw [askWithin, answer] at hv
    cases v with
    | int k => cases hv
    | bool b => cases hv
    | text r =>
      rcases expand_ok hv with ⟨_, _, hw⟩ | ⟨_, hw⟩ | ⟨_, hw⟩ | ⟨hnumber, htruth, hv⟩
      · cases hw
      · cases hw
      · cases hw
        exact h.inert_empty
      · rcases reference_ok hv with ⟨_, _, hw⟩ | ⟨id, u, _, hu, hneg⟩ | ⟨hname, hw⟩
        · cases hw
        · obtain ⟨x, rfl, hx⟩ := negate_text hneg
          obtain ⟨_, _, _, _, hagain⟩ := registered_ok hu
          have hinert : Inert c x := ih hagain
          rcases hx with rfl | rfl
          · exact hinert
          · exact hinert.minus hc
        · cases hw
          exact ⟨hnumber, htruth, hname⟩

end

/-! ## Bounded readings -/

section

variable {c : Character} {t : Trait} {v w : Value} {name : String} {low high k : Int}

theorem clamp_mem (hle : low ≤ high) (n : Int) :
    low ≤ clamp n (some (low, high)) ∧ clamp n (some (low, high)) ≤ high := by
  show low ≤ max low (min high n) ∧ max low (min high n) ≤ high
  omega

theorem boundsOf_eq_some_iff : c.boundsOf t = .ok (some (low, high)) ↔
    c.minimum t = .ok (some low) ∧ c.maximum t = .ok (some high) := by
  show (c.minimum t >>= fun l => c.maximum t >>= _) = _ ↔ _
  constructor
  · intro h
    obtain ⟨l, hl, h⟩ := Result.bind_ok h
    obtain ⟨u, hu, h⟩ := Result.bind_ok h
    have he := Result.pure_ok h
    split at he
    · cases he
      exact ⟨hl, hu⟩
    · cases he
  · rintro ⟨hlow, hhigh⟩
    rw [hlow, hhigh]
    rfl

theorem expandedValue_mem (hlow : c.minimum t = .ok (some low))
    (hhigh : c.maximum t = .ok (some high)) (hle : low ≤ high)
    (hk : c.expandedValue t = .ok (.int k)) : low ≤ k ∧ k ≤ high := by
  rw [expandedValue_eq] at hk
  obtain ⟨w, _, ⟨n, b, rfl, hb, hn⟩ | ⟨hno, rfl⟩⟩ := expanded_ok hk
  · have hbounds : bounds c.ask [] t.profile = .ok (some (low, high)) :=
      boundsOf_eq_some_iff.mpr ⟨hlow, hhigh⟩
    obtain rfl := Except.ok.inj (hb.symm.trans hbounds)
    obtain rfl := Value.int.inj hn
    exact clamp_mem hle n
  · exact absurd rfl (hno k)

theorem negate_of_reduced {negative : Bool} (h : v.Reduced) :
    negate negative v = .ok (if negative then v.negated else v) := by
  cases v with
  | int n => cases negative <;> rfl
  | bool b => cases negative <;> rfl
  | text s =>
    have hs : (Value.text s).integer? = .ok none := Text.integerText?_eq_ok_none_iff.mpr h
    rw [negate, hs]
    cases negative <;> rfl

/-- A variable gives its trait's value, read once more. -/
theorem Sound.lookup_registered (h : c.Sound) (ht : t ∈ c.traits)
    (hb : c.bindings.get? name = some t.id) (hname : (splitSign name).1 = false)
    (hk : c.lookup (.text name) = .ok (.int k)) :
    ∃ w, c.expandedValue t = .ok w ∧ c.value w = .ok (.int k) := by
  obtain ⟨_, hnumber, hreserved⟩ := (h.mem_bindings.mp (Table.get?_eq_some_iff.mp hb)).1
  have hsplit := splitSign_unsigned hname
  obtain ⟨v, hv, hdata⟩ := Result.bind_ok hk
  obtain rfl : v = .int k := by
    cases v <;> cases Result.pure_ok hdata
    rfl
  rw [value_eq] at hv
  rcases expand_ok hv with ⟨n, hn, _⟩ | ⟨_, hw⟩ | ⟨_, hw⟩ | ⟨_, _, href⟩
  · rw [hnumber] at hn
    cases hn
  · cases hw
  · cases hw
  · rcases reference_ok href with ⟨hr, _⟩ | ⟨id, u, hid, hu, hneg⟩ | ⟨hno, _⟩
    · rw [hsplit, hreserved] at hr
      cases hr
    · rw [hsplit] at hid hu hneg
      obtain rfl := Option.some.inj (hb.symm.trans hid)
      obtain ⟨u', w, hu', hw, hagain⟩ := registered_ok hu
      obtain rfl := Option.some.inj (hu'.symm.trans (trait?_of_mem h.ascending ht))
      rw [negate_of_reduced (ask_value_reduced hagain)] at hneg
      obtain rfl := Except.ok.inj hneg
      exact ⟨w, ask_gives (List.forall_mem_nil _) _ hw, ask_gives (List.forall_mem_nil _) _ hagain⟩
    · rw [refers_eq_false_iff, hsplit, hb] at hno
      cases hno.2

/-- Where both bounds are integers, a trait's value is within them if it is an integer, and so is what
its variable gives, unless the value is a text and the variable gives what the text stands for. This
takes a label, or a registered name with a minus sign before it. -/
theorem bounds_hold (h : Reachable c) (ht : t ∈ c.traits) (hlow : c.minimum t = .ok (some low))
    (hhigh : c.maximum t = .ok (some high)) (hle : low ≤ high) :
    (∀ k, c.expandedValue t = .ok (.int k) → low ≤ k ∧ k ≤ high) ∧
    ∀ name k, c.bindings.get? name = some t.id → (splitSign name).1 = false →
      c.lookup (.text name) = .ok (.int k) →
      low ≤ k ∧ k ≤ high ∨
      ∃ s, c.expandedValue t = .ok (.text s) ∧ c.lookup (.text s) = .ok (.int k) ∧
        ((∃ labels, t.profile.derivation = .switched labels) ∨ ¬ c.Unsigned) := by
  refine ⟨fun k hk => expandedValue_mem hlow hhigh hle hk, fun name k hb hname hk => ?_⟩
  obtain ⟨w, hw, hvalue⟩ := h.sound.lookup_registered ht hb hname hk
  cases w with
  | int n =>
    rw [value_eq] at hvalue
    cases hvalue
    exact .inl (expandedValue_mem hlow hhigh hle hw)
  | bool b =>
    rw [value_eq] at hvalue
    cases hvalue
  | text s =>
    refine .inr ⟨s, hw, ?_, ?_⟩
    · show (c.value (.text s) >>= fun v => pure v.toData) = _
      rw [hvalue]
      rfl
    · by_contra hno
      rw [not_or, not_not] at hno
      obtain ⟨hplain, hc⟩ := hno
      -- then the text comes from the raw value, and stands for itself
      rw [expandedValue_eq] at hw
      obtain ⟨x, hx, ⟨_, _, _, _, he⟩ | ⟨_, rfl⟩⟩ := expanded_ok hw
      · cases he
      · rcases unclamped_ok hx with ⟨_, he⟩ | hraw | ⟨labels, _, hd, _⟩
        · cases he
        · rw [(h.sound.inert hc hraw).value] at hvalue
          cases hvalue
        · exact hplain ⟨labels, hd⟩

end

end Character

/-- Mood shows a label that is beyond its bounds, and Calm has a raw value that is. The minus signs
before what Doubt stands for add up to the name of Night. -/
def Ruleset.bounded : Ruleset :=
  .small
    [.ruled 1 "Mood" ["IS_VARIABLE|MOOD", "MINMAX|0|3", "DERIVED_SWITCH|KIND|A|7"] "",
      .small 2 "Kind" "IS_VARIABLE|KIND" "A",
      .ruled 3 "Calm" ["IS_VARIABLE|CALM", "MINMAX|0|LIMIT"] "9",
      .small 4 "Limit" "IS_VARIABLE|LIMIT" "3",
      .ruled 5 "Doubt" ["IS_VARIABLE|DOUBT", "MINMAX|0|3"] "-FEAR",
      .small 6 "Fear" "IS_VARIABLE|FEAR" "-NIGHT", .small 7 "Night" "IS_VARIABLE|-NIGHT" "-9"]
    [.small .mortal [1, 2, 3, 4], .small .kindred [3, 4, 5, 6, 7]]

def Engine.bounded : Engine where
  ruleset := .bounded
  traits :=
    ⟨TraitDefinition.finished Ruleset.bounded.traits
      [([.isVariable "MOOD", .minMax "0" "3", .derivedSwitch "KIND" (.ofList [("A", "7")])], []),
        ([.isVariable "KIND"], []), ([.isVariable "CALM", .minMax "0" "LIMIT"], []),
        ([.isVariable "LIMIT"], []), ([.isVariable "DOUBT", .minMax "0" "3"], []),
        ([.isVariable "FEAR"], []), ([.isVariable "-NIGHT"], [])],
      .empty⟩
  templates :=
    ⟨[{ TemplateDefinition.small .mortal [1, 2, 3, 4] with traitIds := [1, 2, 3, 4] },
      { TemplateDefinition.small .kindred [3, 4, 5, 6, 7] with traitIds := [3, 4, 5, 6, 7] }]⟩
  paths := .empty

theorem Engine.build_bounded : build .bounded = .ok .bounded := (rfl)

namespace Character

/-- The bounded traits of a template. -/
def bounded (key : TemplateKey) (ids : List Int) (names : List (String × Int)) : Character where
  engine := .bounded
  id := 0
  templates := [key]
  traits := (Engine.bounded.traits.definitions.filter fun d => d.id ∈ ids).map .fresh
  bindings := .ofList names
  groups := .empty

def boundedMortal : Character :=
  bounded .mortal [1, 2, 3, 4] [("MOOD", 1), ("KIND", 2), ("CALM", 3), ("LIMIT", 4)]

def boundedKindred : Character :=
  bounded .kindred [3, 4, 5, 6, 7]
    [("CALM", 3), ("LIMIT", 4), ("DOUBT", 5), ("FEAR", 6), ("-NIGHT", 7)]

theorem reachable_boundedMortal : Reachable boundedMortal := by
  have hcreate : create .bounded ⟨0, [], [], .empty⟩ = .ok (boundedMortal, []) := rfl
  exact .created Engine.build_bounded hcreate

theorem reachable_boundedKindred : Reachable boundedKindred := by
  have hcreate : create .bounded ⟨0, [.kindred], [], .empty⟩ = .ok (boundedKindred, []) := rfl
  exact .created Engine.build_bounded hcreate

/-- A variable reads a label as the integer that it spells, and what minus signs have made a name as
what the name stands for. -/
theorem texts_pass_bounds :
    (∃ t ∈ boundedMortal.traits, Reachable boundedMortal ∧
      boundedMortal.minimum t = .ok (some 0) ∧ boundedMortal.maximum t = .ok (some 3) ∧
      boundedMortal.bindings.get? "MOOD" = some t.id ∧ (splitSign "MOOD").1 = false ∧
      boundedMortal.lookup (.text "MOOD") = .ok (.int 7) ∧ ¬ (7 : Int) ≤ 3) ∧
    ∃ t ∈ boundedKindred.traits, Reachable boundedKindred ∧
      boundedKindred.minimum t = .ok (some 0) ∧ boundedKindred.maximum t = .ok (some 3) ∧
      boundedKindred.bindings.get? "DOUBT" = some t.id ∧ (splitSign "DOUBT").1 = false ∧
      boundedKindred.lookup (.text "DOUBT") = .ok (.int 9) ∧ ¬ (9 : Int) ≤ 3 := by
  constructor
  · exact ⟨_, List.mem_cons_self, reachable_boundedMortal, rfl, rfl, rfl, rfl, rfl, by decide⟩
  · exact ⟨_, List.mem_of_getElem? (i := 2) rfl, reachable_boundedKindred, rfl, rfl, rfl, rfl, rfl,
      by decide⟩

theorem bounds_hold_boundedMortal : ∃ t ∈ boundedMortal.traits, t.raw = "9" ∧
    boundedMortal.minimum t = .ok (some 0) ∧ boundedMortal.maximum t = .ok (some 3) ∧
    (∀ k, boundedMortal.expandedValue t = .ok (.int k) → 0 ≤ k ∧ k ≤ 3) ∧
    ∀ k, boundedMortal.lookup (.text "CALM") = .ok (.int k) → 0 ≤ k ∧ k ≤ 3 ∨
      ∃ s, boundedMortal.expandedValue t = .ok (.text s) ∧
        boundedMortal.lookup (.text s) = .ok (.int k) ∧
        ((∃ labels, t.profile.derivation = .switched labels) ∨ ¬ boundedMortal.Unsigned) := by
  refine ⟨_, List.mem_of_getElem? (i := 2) rfl, rfl, rfl, rfl, ?_⟩
  obtain ⟨hvalue, hvariable⟩ := bounds_hold reachable_boundedMortal
    (List.mem_of_getElem? (i := 2) rfl) rfl rfl (by decide)
  exact ⟨hvalue, fun k => hvariable "CALM" k rfl rfl⟩

end Character

end CharacterSheet
