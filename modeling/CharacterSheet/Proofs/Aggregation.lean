import CharacterSheet.Proofs.Joining
import CharacterSheet.Proofs.Spelling
import Mathlib.Order.Bounds.Basic

/-! What main traits are worth. A main trait reads the members of its group, which are the children
that the catalog knows of it as far as the character has them. It can be told of the value of each if
it is an integer, unless that is a label of too many digits. So the branches that give up on a value are
out of reach, and nothing is left to go wrong but such a label, and a child that is no number where the
greatest number is asked for. -/

namespace CharacterSheet

/-- Whether a child with this value counts: truth, integers above zero, however they are spelled, and
all other texts but the empty one. -/
def Value.Counts : Value → Prop
  | .int n => 0 < n
  | .bool b => b = true
  | .text s => s ≠ "" ∧ ∀ n ∈ Text.plain? s, 0 < n

instance : DecidablePred Value.Counts
  | .int n => inferInstanceAs (Decidable (0 < n))
  | .bool b => inferInstanceAs (Decidable (b = true))
  | .text s => inferInstanceAs (Decidable (s ≠ "" ∧ ∀ n ∈ Text.plain? s, 0 < n))

namespace Value

theorem isSelected_eq {v : Value} (h : v.Readable) : v.isSelected = .ok (decide v.Counts) := by
  cases v with
  | int n => rfl
  | bool b => cases b <;> rfl
  | text s =>
    have hread : integerText? s = .ok (Text.plain? s) := (integer?_text s).symm.trans h
    rw [isSelected, hread]
    cases hs : Text.plain? s with
    | some n =>
      have hne : s ≠ "" := by
        rintro rfl
        exact nomatch Text.plain?_empty.symm.trans hs
      have hcounts : (Value.text s).Counts ↔ 0 < n := by simp [Counts, hs, hne]
      exact congrArg Except.ok (decide_eq_decide.mpr hcounts).symm
    | none =>
      have hcounts : (Value.text s).Counts ↔ s.isEmpty = false := by simp [Counts, hs]
      have hsel : (!s.isEmpty) = decide (Value.text s).Counts := by
        rw [Bool.eq_iff_iff, decide_eq_true_iff, hcounts, Bool.not_eq_true']
      exact congrArg Except.ok hsel

theorem isSelected_of_vast {v : Value} (hs : ¬ v.Separated) (hv : v.Vast) :
    v.isSelected = .error v.vastFault := by
  cases v with
  | int n => cases hv
  | bool b => cases hv
  | text s =>
    have hread := (integer?_text s).symm.trans (integer?_of_vast hs hv)
    rw [isSelected, hread]
    rfl

/-- What was found to be selected or not could be read. -/
theorem isSelected_ok {v : Value} {b : Bool} (h : v.isSelected = .ok b) : b = decide v.Counts := by
  have hread : v.Readable := by
    cases v with
    | int n => rfl
    | bool b => rfl
    | text s =>
      obtain ⟨n, hn, _⟩ := Result.bind_ok h
      exact readable_text ⟨n, hn⟩
  exact Except.ok.inj (h.symm.trans (isSelected_eq hread))

/-- Whether a value stops the search for the greatest number. -/
def Halts (v : Value) : Prop := v.Vast ∨ v.spelled? = none

instance : DecidablePred Halts := fun _ => inferInstanceAs (Decidable (_ ∨ _))

/-- What the search for the greatest number fails with at the value of a trait that stops it. -/
def haltFault (name : String) (v : Value) : Fault :=
  if v.Vast then v.vastFault else .evaluation (.notNumeric name v.toData)

end Value

namespace Character

theorem isGreatest_greatest {ns : List Int} (h : ns ≠ []) :
    IsGreatest {n | n ∈ ns} (greatest ns) := by
  obtain ⟨n, r, rfl⟩ := List.exists_cons_of_ne_nil h
  have hmax : (n :: r).max? = some (greatest (n :: r)) := List.max?_cons'
  obtain ⟨hmem, hle⟩ := List.max?_eq_some_iff.mp hmax
  exact ⟨hmem, fun k hk => hle k hk⟩

section

variable {ask : Ask} {busy : List String} {ts : List Trait} {values : Trait → Value}

/-! ## Reading children -/

/-- The children are read in turn, and the first number of too many digits stops the reading. -/
theorem countSelected_eq (hread : ∀ u ∈ ts, ask busy (.trait u) = .ok (values u))
    (hvalues : ∀ u ∈ ts, ¬ (values u).Separated) :
    countSelected ask busy ts = match ts.find? fun u => (values u).Vast with
      | some u => .error (values u).vastFault
      | none => .ok (ts.countP fun u => (values u).Counts) := by
  induction ts with
  | nil => rfl
  | cons t r ih =>
    have hrest := ih (fun u hu => hread u (List.mem_cons_of_mem _ hu))
      fun u hu => hvalues u (List.mem_cons_of_mem _ hu)
    have hself := hvalues t List.mem_cons_self
    rw [countSelected, hread t List.mem_cons_self]
    show ((values t).isSelected >>= _) = _
    by_cases hv : (values t).Vast
    · rw [Value.isSelected_of_vast hself hv, List.find?_cons_of_pos (by simp [hv])]
      rfl
    · rw [Value.isSelected_eq (Value.readable_of_not_vast hself hv),
        List.find?_cons_of_neg (by simp [hv]), List.countP_cons]
      show (countSelected ask busy r >>= _) = _
      rw [hrest]
      split
      · rfl
      · by_cases hc : (values t).Counts <;> simp [hc, bind, Except.bind, pure, Except.pure]

/-- Here the first that is no number stops the reading too. -/
theorem integersOf_eq (hread : ∀ u ∈ ts, ask busy (.trait u) = .ok (values u))
    (hvalues : ∀ u ∈ ts, ¬ (values u).Separated) :
    integersOf ask busy ts = match ts.find? fun u => (values u).Halts with
      | some u => .error ((values u).haltFault u.name)
      | none => .ok (ts.filterMap fun u => (values u).spelled?) := by
  induction ts with
  | nil => rfl
  | cons t r ih =>
    have hrest := ih (fun u hu => hread u (List.mem_cons_of_mem _ hu))
      fun u hu => hvalues u (List.mem_cons_of_mem _ hu)
    have hself := hvalues t List.mem_cons_self
    rw [integersOf, hread t List.mem_cons_self]
    show ((values t).integer? >>= _) = _
    by_cases hv : (values t).Vast
    · rw [Value.integer?_of_vast hself hv, List.find?_cons_of_pos (by simp [Value.Halts, hv])]
      exact congrArg Except.error (if_pos hv).symm
    · have hint : (values t).integer? = .ok (values t).spelled? :=
        Value.readable_of_not_vast hself hv
      rw [hint]
      cases hs : (values t).spelled? with
      | none =>
        rw [List.find?_cons_of_pos (by simp [Value.Halts, hs])]
        exact congrArg Except.error (if_neg hv).symm
      | some n =>
        rw [List.find?_cons_of_neg (by simp [Value.Halts, hs, hv]), List.filterMap_cons, hs]
        show (integersOf ask busy r >>= _) = _
        rw [hrest]
        split <;> rfl

theorem greatest_spelled (h : ∀ u ∈ ts, (values u).spelled? ≠ none) :
    ts = [] ∧ greatest (ts.filterMap fun u => (values u).spelled?) = 0 ∨
      IsGreatest {k | ∃ u ∈ ts, (values u).spelled? = some k}
        (greatest (ts.filterMap fun u => (values u).spelled?)) := by
  cases ts with
  | nil => exact .inl ⟨rfl, rfl⟩
  | cons t r =>
    right
    obtain ⟨k, hk⟩ := Option.ne_none_iff_exists'.mp (h t List.mem_cons_self)
    have hne : (t :: r).filterMap (fun u => (values u).spelled?) ≠ [] :=
      List.ne_nil_of_mem (List.mem_filterMap.mpr ⟨t, List.mem_cons_self, hk⟩)
    have hgreatest := isGreatest_greatest hne
    simp only [List.mem_filterMap] at hgreatest
    exact hgreatest

end

/-! ## Main traits -/

section

variable {c : Character}

theorem present_filter_has (ids : List Int) : c.present (ids.filter c.has) = c.present ids := by
  rw [present, present, List.filterMap_filter]
  apply List.filterMap_congr
  intro id _
  cases hid : c.trait? id <;> simp [has, hid]

/-- The children of a main trait that are there. -/
def children (c : Character) (m : Trait) : List Trait :=
  c.present (c.engine.traits.childrenIn m.id)

theorem Sound.present_group (h : c.Sound) {m : Trait} (hm : m ∈ c.traits) :
    c.present (c.group m.id) = c.children m := by
  have hd := h.defined m hm
  rw [h.group_eq_subtraits hd, present_filter_has, children, TraitCatalog.childrenIn, hd]
  rfl

/-- A trait's value before its bounds are looked at. -/
def unclampedValue (c : Character) (t : Trait) : Result Value := c.unclamped c.ask [] t

/-- Only integers are bounded. -/
def clamped (c : Character) (t : Trait) : Value → Result Value
  | .int n => do return .int (clamp n (← c.boundsOf t))
  | v => .ok v

theorem expandedValue_eq_clamped (t : Trait) :
    c.expandedValue t = c.unclampedValue t >>= c.clamped t := by
  rw [expandedValue_eq]
  exact Result.carries_eq.bind rfl fun v _ => by cases v <;> rfl

/-- What a main trait makes of its children, which have these values. -/
structure Aggregates (c : Character) (m : Trait) (values : Trait → Value) : Prop where
  tally : m.profile.derivation = .tally →
    c.unclampedValue m = match (c.children m).find? fun u => (values u).Vast with
      | some u => .error (values u).vastFault
      | none => .ok (.int ((c.children m).countP fun u => (values u).Counts))
  highest : m.profile.derivation = .highest → (∀ u ∈ c.children m, ¬ (values u).Halts) →
    ∃ n, c.unclampedValue m = .ok (.int n) ∧
      (c.children m = [] ∧ n = 0 ∨
        IsGreatest {k | ∃ u ∈ c.children m, (values u).spelled? = some k} n)
  fault : m.profile.derivation = .highest → ∀ f, c.unclampedValue m = .error f ↔
    ∃ u, (c.children m).find? (fun u => (values u).Halts) = some u ∧ f = (values u).haltFault u.name
  clamped : c.expandedValue m = c.unclampedValue m >>= c.clamped m

section

variable {m : Trait} {values : Trait → Value} (h : c.Sound) (hm : m ∈ c.traits)
  (hread : ∀ u ∈ c.children m, c.expandedValue u = .ok (values u))

include h hread

theorem Sound.not_separated_children : ∀ u ∈ c.children m, ¬ (values u).Separated :=
  fun u hu => h.not_separated (mem_of_present hu) (hread u hu)

include hm

theorem Sound.unclampedValue_tally (ht : m.profile.derivation = .tally) :
    c.unclampedValue m = match (c.children m).find? fun u => (values u).Vast with
      | some u => .error (values u).vastFault
      | none => .ok (.int ((c.children m).countP fun u => (values u).Counts)) := by
  rw [unclampedValue, unclamped, ht, h.present_group hm]
  show (countSelected c.ask [] (c.children m) >>= _) = _
  rw [countSelected_eq hread (h.not_separated_children hread)]
  split <;> rfl

theorem Sound.unclampedValue_highest (ht : m.profile.derivation = .highest) :
    c.unclampedValue m = match (c.children m).find? fun u => (values u).Halts with
      | some u => .error ((values u).haltFault u.name)
      | none => .ok (.int (greatest ((c.children m).filterMap fun u => (values u).spelled?))) := by
  rw [unclampedValue, unclamped, ht, h.present_group hm]
  show (integersOf c.ask [] (c.children m) >>= _) = _
  rw [integersOf_eq hread (h.not_separated_children hread)]
  split <;> rfl

end

/-- Main traits go by exactly the children that are there. Numbers of too many digits stop them, and
other values stop only those that look for the greatest number. -/
theorem mainTrait_aggregates (h : Reachable c) {m : Trait} (hm : m ∈ c.traits)
    (values : Trait → Value) (hread : ∀ u ∈ c.children m, c.expandedValue u = .ok (values u)) :
    c.Aggregates m values := by
  refine ⟨h.sound.unclampedValue_tally hm hread, fun ht hall => ?_, fun ht f => ?_,
    expandedValue_eq_clamped m⟩
  · have hnone : (c.children m).find? (fun u => (values u).Halts) = none :=
      List.find?_eq_none.mpr fun u hu => by simpa using hall u hu
    refine ⟨_, ?_, greatest_spelled fun u hu hs => hall u hu (.inr hs)⟩
    rw [h.sound.unclampedValue_highest hm hread ht, hnone]
  · rw [h.sound.unclampedValue_highest hm hread ht]
    cases (c.children m).find? fun u => (values u).Halts with
    | none =>
      refine iff_of_false (fun hok => ?_) ?_
      · cases hok
      · rintro ⟨_, hfound, _⟩
        cases hfound
    | some u =>
      constructor
      · intro hfault
        exact ⟨u, rfl, (Except.error.inj hfault).symm⟩
      · rintro ⟨_, hfound, rfl⟩
        cases hfound
        rfl

end

end Character

/-- Three main traits, and children whose values are written in all ways. -/
def Ruleset.numerous : Ruleset :=
  .small
    [.small 1 "Merits" "MAINTRAIT_COUNT" "", .small 2 "Arts" "MAINTRAIT_MAX" "",
      .small 3 "Fates" "MAINTRAIT_MAX" "", .small 4 "Brave" "SUBTRAIT|1" "True",
      .ruled 5 "Lucky" ["SUBTRAIT|1", "SUBTRAIT|3"] "x", .small 6 "Rich" "SUBTRAIT|1" "0",
      .small 7 "Glamour" "SUBTRAIT|2" "2",
      .ruled 8 "Chimera" ["SUBTRAIT|2", "DERIVED_SWITCH|Dragon|Dragon|5"] "",
      .small 9 "Sovereign" "SUBTRAIT|2" "8"]
    [.small .mortal [1, 2, 3]]

def Engine.numerous : Engine where
  ruleset := .numerous
  traits :=
    ⟨TraitDefinition.finished Ruleset.numerous.traits
      [([.mainTraitCount none], [4, 5, 6]), ([.mainTraitMax none], [7, 8, 9]),
        ([.mainTraitMax none], [5]), ([.subTrait (.id 1)], []),
        ([.subTrait (.id 1), .subTrait (.id 3)], []), ([.subTrait (.id 1)], []),
        ([.subTrait (.id 2)], []),
        ([.subTrait (.id 2), .derivedSwitch "Dragon" (.ofList [("Dragon", "5")])], []),
        ([.subTrait (.id 2)], [])],
      .ofList [("Merits", 1), ("Arts", 2), ("Fates", 3)]⟩
  templates :=
    ⟨[{ TemplateDefinition.small .mortal [1, 2, 3] with
        traitIds := [1, 2, 3, 4, 5, 6, 7, 8, 9] }]⟩
  paths := .empty

theorem Engine.build_numerous : build .numerous = .ok .numerous := (rfl)

namespace Character

def numerous : Character where
  engine := .numerous
  id := 0
  templates := [.mortal]
  traits := Engine.numerous.traits.definitions.map .fresh
  bindings := .empty
  groups := .ofList [(1, [4, 5, 6]), (3, [5]), (2, [7, 8, 9])]

theorem create_numerous : create .numerous ⟨0, [], [], .empty⟩ = .ok (numerous, []) := rfl

/-- Sovereign is gone, and with it the greatest number; that of the others is a label. -/
theorem mainTrait_aggregates_numerous : ∃ c values, Reachable c ∧
    c.traitIds = [1, 2, 3, 4, 5, 6, 7, 8] ∧
    (∀ m ∈ c.traits.take 3, c.Aggregates m values) ∧
    (c.traits.take 3).map c.unclampedValue =
      [.ok (.int 2), .ok (.int 5), .error (.evaluation (.notNumeric "Lucky" (.text "x")))] := by
  let values (t : Trait) : Value := match t.id with
    | 4 => .bool true
    | 5 => .text "x"
    | 6 => .int 0
    | 7 => .int 2
    | _ => .text "5"
  have hc : Reachable (numerous.run [.removeTrait 9]) :=
    (Reachable.created Engine.build_numerous create_numerous).run _
  have hall : ((numerous.run [.removeTrait 9]).traits.take 3).Forall fun m =>
      (numerous.run [.removeTrait 9]).Aggregates m values := by
    refine ⟨?_, ?_, ?_⟩
    · exact mainTrait_aggregates hc List.mem_cons_self values
        (List.forall_iff_forall_mem.mp ⟨rfl, rfl, rfl⟩)
    · exact mainTrait_aggregates hc (List.mem_of_getElem? (i := 1) rfl) values
        (List.forall_iff_forall_mem.mp ⟨rfl, rfl⟩)
    · exact mainTrait_aggregates hc (List.mem_of_getElem? (i := 2) rfl) values
        (List.forall_iff_forall_mem.mp rfl)
  exact ⟨_, values, hc, rfl, List.forall_iff_forall_mem.mp hall, rfl⟩

end Character

/-- A child of two main traits, whose label is a number. -/
def TraitDefinition.priced (n : Int) : TraitDefinition :=
  .ruled 3 "Rich" [Text.join "|" ["DERIVED_SWITCH", "A", "A", toString n], "SUBTRAIT|1", "SUBTRAIT|2"]
    ""

theorem TraitCatalog.draft_priced (n : Int) : draft .standard (.priced n) =
    .ok ⟨.priced n, [.derivedSwitch "A" (.ofList [("A", toString n)]), .subTrait (.name "1"),
      .subTrait (.name "2")]⟩ := by
  have hchunk : IsChunk '\n' '|' ["DERIVED_SWITCH", "A", "A"] :=
    ⟨by decide, by decide, by decide, by decide⟩
  exact draft_of_directives (Rule.directives_numeral hchunk rfl rfl)

def Ruleset.priced (n : Int) : Ruleset :=
  .small [.small 1 "Merits" "MAINTRAIT_COUNT" "", .small 2 "Arts" "MAINTRAIT_MAX" "", .priced n]
    [.small .mortal [1, 2]]

def Engine.priced (n : Int) : Engine where
  ruleset := .priced n
  traits :=
    ⟨TraitDefinition.finished (Ruleset.priced n).traits
      [([.mainTraitCount none], [3]), ([.mainTraitMax none], [3]),
        ([.derivedSwitch "A" (.ofList [("A", toString n)]), .subTrait (.id 1), .subTrait (.id 2)],
          [])],
      .ofList [("Merits", 1), ("Arts", 2)]⟩
  templates :=
    ⟨[{ TemplateDefinition.small .mortal [1, 2] with traitIds := [1, 2, 3] }]⟩
  paths := .empty

theorem Engine.build_priced (n : Int) : build (.priced n) = .ok (.priced n) := by
  have hdrafts : (Ruleset.priced n).traits.mapM (TraitCatalog.draft .standard) =
      .ok [⟨.small 1 "Merits" "MAINTRAIT_COUNT" "", [.mainTraitCount none]⟩,
        ⟨.small 2 "Arts" "MAINTRAIT_MAX" "", [.mainTraitMax none]⟩,
        ⟨.priced n, [.derivedSwitch "A" (.ofList [("A", toString n)]), .subTrait (.name "1"),
          .subTrait (.name "2")]⟩] := by
    show [TraitDefinition.small 1 _ _ _, .small 2 _ _ _, .priced n].mapM _ = _
    rw [List.mapM_cons, List.mapM_cons, List.mapM_cons, TraitCatalog.draft_priced]
    rfl
  have htraits : TraitCatalog.build .standard "•" (Ruleset.priced n).traits =
      .ok (Engine.priced n).traits := by
    rw [TraitCatalog.build, hdrafts]
    rfl
  show (TraitCatalog.build .standard "•" (Ruleset.priced n).traits >>= _) = _
  rw [htraits]
  rfl

namespace Character

def priced (n : Int) : Character where
  engine := .priced n
  id := 0
  templates := [.mortal]
  traits := (Engine.priced n).traits.definitions.map .fresh
  bindings := .empty
  groups := .ofList [(1, [3]), (2, [3])]

theorem reachable_priced (n : Int) : Reachable (priced n) := by
  have hcreate : create (.priced n) ⟨0, [], [], .empty⟩ = .ok (priced n, []) := rfl
  exact .created (Engine.build_priced n) hcreate

/-- The child, as the character has it. -/
def pricedChild (n : Int) : Trait :=
  .fresh
    { TraitDefinition.priced n with
      directives := [.derivedSwitch "A" (.ofList [("A", toString n)]), .subTrait (.id 1),
        .subTrait (.id 2)] }

theorem expandedValue_pricedChild (n : Int) :
    (priced n).expandedValue (pricedChild n) = .ok (.text (toString n)) := by
  have hraw : (pricedChild n).raw = "A" := rfl
  have hderivation : (pricedChild n).profile.derivation =
      .switched (.ofList [("A", toString n)]) := rfl
  rw [expandedValue, ask_eq, answer, expanded, unclamped, hderivation, hraw]
  rfl

/-- The child has a value, but neither main trait has one if that is a number of too many digits. -/
theorem mainTrait_escapes : ∃ (c : Character) (values : Trait → Value) (f : Fault), Reachable c ∧
    (∀ m ∈ c.traits, ∀ u ∈ c.children m, c.expandedValue u = .ok (values u)) ∧
    (∃ m ∈ c.traits, m.profile.derivation = .tally ∧ c.unclampedValue m = .error f) ∧
    (∃ m ∈ c.traits, m.profile.derivation = .highest ∧ c.unclampedValue m = .error f) ∧
    ∃ count, f = .value (.tooManyDigits count) := by
  generalize hn : (10 : Int) ^ Text.mostDigits = n
  have hvast : Text.Vast (toString n) := Text.vast_toString_iff.mpr (hn ▸ Text.isWritable_pow)
  have hc := reachable_priced n
  let values (_ : Trait) : Value := .text (toString n)
  have hread : ∀ u ∈ [pricedChild n], (priced n).expandedValue u = .ok (values u) :=
    List.forall_mem_singleton.mpr (expandedValue_pricedChild n)
  have htally : [pricedChild n].find? (fun u => (values u).Vast) = some (pricedChild n) :=
    List.find?_cons_of_pos (decide_eq_true hvast)
  have hhighest : [pricedChild n].find? (fun u => (values u).Halts) = some (pricedChild n) :=
    List.find?_cons_of_pos (decide_eq_true (.inl hvast))
  refine ⟨priced n, values, (values (pricedChild n)).vastFault, hc, ?_, ?_, ?_, _, rfl⟩
  · exact List.forall_mem_cons.mpr ⟨hread, List.forall_mem_cons.mpr ⟨hread,
      List.forall_mem_singleton.mpr (List.forall_mem_nil _)⟩⟩
  · refine ⟨_, List.mem_cons_self, rfl, ?_⟩
    rw [hc.sound.unclampedValue_tally List.mem_cons_self hread rfl]
    show (match [pricedChild n].find? fun u => (values u).Vast with
      | some u => Except.error (values u).vastFault
      | none => _) = _
    rw [htally]
  · refine ⟨_, List.mem_of_getElem? (i := 1) rfl, rfl, ?_⟩
    rw [hc.sound.unclampedValue_highest (List.mem_of_getElem? (i := 1) rfl) hread rfl]
    show (match [pricedChild n].find? fun u => (values u).Halts with
      | some u => Except.error ((values u).haltFault u.name)
      | none => _) = _
    rw [hhighest]
    exact congrArg Except.error (if_pos hvast)

end Character

end CharacterSheet
