import CharacterSheet.Character.View
import CharacterSheet.Proofs.Clamping
import CharacterSheet.Proofs.Keys

/-! Labels of options. What is shown of an option is looked up by the text of its trait's value, and not
by the raw value that was chosen. The two are the same for an option that spells no value and names
nothing; any other one is read first, and what it stands for may be no option or another one. And the
labels of a switched value stand under a key that an option may have as well. -/

namespace CharacterSheet

/-- Where each step either writes what is read of a state or leaves it, the last to write has written
what is read in the end. -/
theorem foldl_last {σ ξ α : Type} {act : σ → ξ → σ} (read : σ → Option α) {write : ξ → Option α}
    (hstep : ∀ s x, read (act s x) = (write x).or (read s)) (xs : List ξ) (s : σ) :
    read (xs.foldl act s) = (xs.reverse.findSome? write).or (read s) := by
  induction xs generalizing s with
  | nil => rfl
  | cons x r ih =>
    have hlast : [x].findSome? write = write x := by cases hx : write x <;> simp [hx]
    rw [List.foldl_cons, ih, hstep, List.reverse_cons, List.findSome?_append, hlast, Option.or_assoc]

theorem findSome?_congr {α β : Type} {f g : α → Option β} {xs : List α}
    (h : ∀ x ∈ xs, f x = g x) : xs.findSome? f = xs.findSome? g := by
  induction xs with
  | nil => rfl
  | cons x r ih =>
    obtain ⟨hx, hr⟩ := List.forall_mem_cons.mp h
    rw [List.findSome?_cons, List.findSome?_cons, hx, ih hr]

/-- What is written under one key is not read under another. -/
theorem Table.get?_insert_or {κ ν : Type} [DecidableEq κ] {t : Table κ ν} {k key : κ} {v : ν} :
    (t.insert k v).get? key = (if k = key then some v else none).or (t.get? key) := by
  rw [Table.get?_insert]
  by_cases hk : k = key
  · simp [hk]
  · simp [hk, Ne.symm hk]

/-! ## Pairs -/

/-- The label of a key, in a list of keys and labels. The last one counts. -/
def lastLabel? (key : String) (args : List String) : Option String :=
  (switchPairs args).reverse.findSome? fun p => if p.1 = key then some p.2 else none

theorem get?_switchOf (key : String) (args : List String) :
    (switchOf args).get? key = lastLabel? key args := by
  have hstep : ∀ (t : Switch) (p : String × String), (t.insert p.1 p.2).get? key =
      (if p.1 = key then some p.2 else none).or (t.get? key) := fun _ _ => Table.get?_insert_or
  rw [switchOf, Table.ofList, foldl_last (fun t : Switch => t.get? key) hstep,
    Table.get?_empty, Option.or_none, lastLabel?]

/-! ## Directives -/

namespace Directive

/-- The variable and the labels that a directive gives an option. -/
def option? (dummy : String) : Directive → Option (String × Switch)
  | .derivedOption d decider switch => if d = dummy then some (decider, switch) else none
  | _ => none

/-- The labels that a directive writes under a key. -/
def labels? (key : String) : Directive → Option Switch
  | .derivedOption d _ switch => if d = key then some switch else none
  | .derivedSwitch _ switch => if Profile.valueKey = key then some switch else none
  | _ => none

theorem option?_eq_some_iff {x : Directive} {dummy decider : String} {switch : Switch} :
    x.option? dummy = some (decider, switch) ↔ x = .derivedOption dummy decider switch := by
  cases x <;> simp [option?]

/-- Nothing but a switched value writes over the labels of an option. -/
theorem labels?_eq {x : Directive} {key : String}
    (h : key = Profile.valueKey → ∀ source labels, x ≠ .derivedSwitch source labels) :
    x.labels? key = (x.option? key).map Prod.snd := by
  cases x with
  | derivedOption d decider switch =>
    rw [labels?, option?]
    split <;> rfl
  | derivedSwitch source labels =>
    rw [labels?, if_neg fun hkey => h hkey.symm source labels rfl]
    rfl
  | _ => rfl

end Directive

namespace TraitDefinition

variable {t : TraitDefinition} {key dummy decider : String} {switch : Switch}

/-- The last directive for an option counts. -/
def option? (t : TraitDefinition) (dummy : String) : Option (String × Switch) :=
  t.directives.reverse.findSome? (Directive.option? dummy)

def labels? (t : TraitDefinition) (key : String) : Option Switch :=
  t.directives.reverse.findSome? (Directive.labels? key)

theorem mem_of_option? (h : t.option? dummy = some (decider, switch)) :
    .derivedOption dummy decider switch ∈ t.directives := by
  obtain ⟨x, hx, hoption⟩ := List.exists_of_findSome?_eq_some h
  rw [← Directive.option?_eq_some_iff.mp hoption]
  exact List.mem_reverse.mp hx

theorem labels?_eq (h : key = Profile.valueKey →
    ∀ source labels, .derivedSwitch source labels ∉ t.directives) :
    t.labels? key = (t.option? key).map Prod.snd := by
  rw [labels?, option?, List.map_findSome?]
  apply findSome?_congr
  intro x hx
  apply Directive.labels?_eq
  intro hkey source labels he
  exact h hkey source labels (he ▸ List.mem_reverse.mp hx)

end TraitDefinition

namespace Profile

variable {t : TraitDefinition} {key : String}

theorem get?_deciders : (of t).deciders.get? key = (t.option? key).map Prod.fst := by
  have hstep : ∀ (p : Profile) (x : Directive), (p.apply t.name x).deciders.get? key =
      ((x.option? key).map Prod.fst).or (p.deciders.get? key) := by
    intro p x
    cases x with
    | derivedOption dummy decider switch =>
      rw [apply, Table.get?_insert_or, Directive.option?]
      split <;> rfl
    | _ => rfl
  rw [of, foldl_last (fun p : Profile => p.deciders.get? key) hstep,
    TraitDefinition.option?, List.map_findSome?]
  exact Option.or_none

theorem get?_labels : (of t).labels.get? key = t.labels? key := by
  have hstep : ∀ (p : Profile) (x : Directive), (p.apply t.name x).labels.get? key =
      (x.labels? key).or (p.labels.get? key) := by
    intro p x
    cases x with
    | derivedOption dummy decider switch => exact Table.get?_insert_or
    | derivedSwitch source switch => exact Table.get?_insert_or
    | _ => rfl
  rw [of, foldl_last (fun p : Profile => p.labels.get? key) hstep]
  exact Option.or_none

end Profile

/-! ## Rules -/

namespace TraitCatalog

/-- Settling a rule changes nothing about its options. -/
theorem settle_option {glyph : String} {mains : Table String Int} {ds : List Draft} {d : Draft}
    {x : Directive} {dummy decider : String} {switch : Switch}
    (h : settle glyph mains ds d x = .ok (.derivedOption dummy decider switch)) :
    x = .derivedOption dummy decider switch := by
  cases x with
  | subTrait parent =>
    obtain ⟨_, _, h⟩ := Result.bind_ok h
    cases Result.pure_ok h
  | powerLevel level => cases level <;> cases h
  | _ => exact Except.ok.inj h

end TraitCatalog

/-- A chunk of a rule in which an option is given its variable and its labels. -/
def Rule.Gives (d : Delimiters) (rule : Rule) (dummy decider : String) (switch : Switch) : Prop :=
  ∃ chunks s args, rule.chunksOf d = .ok chunks ∧ s ∈ chunks ∧
    tokensOf d s = .ok ("DERIVED_OPTION" :: dummy :: decider :: args) ∧
    ∀ key, switch.get? key = lastLabel? key args

theorem Rule.gives_of_mem_directives {d : Delimiters} {rule : Rule} {ds : List Directive}
    (h : rule.directives d = .ok ds) {dummy decider : String} {switch : Switch}
    (hoption : .derivedOption dummy decider switch ∈ ds) : rule.Gives d dummy decider switch := by
  obtain ⟨chunks, hchunks, h⟩ := Result.bind_ok h
  obtain ⟨s, hs, tokens, htokens, hread⟩ := chunk_of_mem_directivesOf h hoption
  obtain ⟨k, args, rfl, hneeded, hmake⟩ := Directive.make_of_ofTokens? hread
  obtain rfl : Keyword.derivedOption = k := Directive.keyword_of_make hmake
  match args, hneeded with
  | first :: second :: rest, _ =>
    cases hmake
    exact ⟨chunks, s, rest, hchunks, hs, htokens, fun key => get?_switchOf key rest⟩

/-! ## What is shown -/

namespace Character

open Result

/-- An option that a trait's raw value is, and what can be read of the trait and of the variable behind
the option. -/
structure Chosen (c : Character) (t : Trait) (decider : String) (switch : Switch) (v x : Value) :
    Prop where
  mem : t ∈ c.traits
  derivation : t.profile.derivation = .options
  option : t.definition.option? t.raw = some (decider, switch)
  value : c.expandedValue t = .ok v
  decided : c.value (.text decider) = .ok x

section

variable {c : Character} {t : Trait} {decider : String} {switch : Switch} {v x : Value}

/-- A value that is the text of no option shows as it is. -/
theorem display_of_option?_none (hv : c.expandedValue t = .ok v)
    (hoption : t.definition.option? v.display = none) : c.display t = v.shown := by
  have hnone : t.profile.deciders.get? v.display = none := by
    rw [Trait.profile, Profile.get?_deciders, hoption]
    rfl
  rw [display, hv]
  show (v.shown >>= _) = _
  cases hs : v.shown with
  | error f => rfl
  | ok s =>
    obtain rfl := (Data.shown_ok_iff.mp hs).2
    dsimp only [bind, Except.bind]
    rw [show t.profile.deciders.get? v.toData.display = none from hnone]
    cases t.profile.derivation <;> rfl

/-- The text of an option is looked up among the labels of its variable's value. -/
theorem display_of_option?_some (hd : t.profile.derivation = .options)
    (hv : c.expandedValue t = .ok v)
    (hoption : t.definition.option? v.display = some (decider, switch)) :
    c.display t = do
      let s ← v.shown
      let chosen ← (← c.value (.text decider)).shown
      return ((t.definition.labels? s).bind fun labels => labels.get? chosen).getD s := by
  have hdecider : t.profile.deciders.get? v.display = some decider := by
    rw [Trait.profile, Profile.get?_deciders, hoption]
    rfl
  have hlabels : ∀ s, t.profile.labels.get? s = t.definition.labels? s :=
    fun _ => Profile.get?_labels
  rw [display, hv]
  show (v.shown >>= _) = _
  refine carries_eq.bind rfl fun s hs => ?_
  obtain rfl := (Data.shown_ok_iff.mp hs).2
  dsimp only
  rw [hd, show t.profile.deciders.get? v.toData.display = some decider from hdecider]
  dsimp only
  rw [hlabels]
  refine carries_eq.bind rfl fun x _ => carries_eq.bind rfl fun chosen _ => ?_
  cases t.definition.labels? v.toData.display <;> rfl

/-- A text that spells no value and names nothing is what the trait's value is. -/
theorem expandedValue_of_inert (hd : t.profile.derivation = .options) (h : Inert c t.raw) :
    c.expandedValue t = .ok (.text t.raw) := by
  have hraw : c.unclamped c.ask [] t = .ok (.text t.raw) := by
    rw [unclamped, hd]
    exact h.value
  rw [expandedValue_eq, expanded, hraw]
  rfl

/-- What is known of an option stands in a chunk of its trait's rule. -/
theorem Reachable.gives (h : Reachable c) (ht : t ∈ c.traits) {dummy : String}
    (hoption : t.definition.option? dummy = some (decider, switch)) :
    t.definition.rule.Gives c.engine.ruleset.delimiters dummy decider switch := by
  obtain ⟨r, hbuilt⟩ := h.built
  have hdefined := TraitCatalog.mem_of_get? (h.sound.defined t ht)
  have hmem := TraitDefinition.mem_of_option? hoption
  obtain ⟨ds, hread, x, hx, _, _, _, hsettle⟩ :=
    TraitCatalog.build_settled (Engine.build_traits hbuilt) hdefined hmem
  obtain rfl := TraitCatalog.settle_option hsettle
  exact Rule.gives_of_mem_directives hread hx

/-- The label of a chosen option is the one that its rule gives for the variable's value, and it is
shown where the option is the text of the trait's value, which it is if it stands for itself, and where
its labels are not written over. Elsewhere the text of the value is looked up in its stead. Values that
have no text are a fault. -/
theorem option_shows_label (h : Reachable c) (hc : c.Chosen t decider switch v x) :
    t.definition.rule.Gives c.engine.ruleset.delimiters t.raw decider switch ∧
    (v.shown = .ok t.raw → t.definition.labels? t.raw = some switch →
      c.display t = x.shown.map fun chosen => (switch.get? chosen).getD t.raw) ∧
    (Inert c t.raw → v.shown = .ok t.raw) ∧
    ((t.raw = Profile.valueKey →
        ∀ source labels, .derivedSwitch source labels ∉ t.definition.directives) →
      t.definition.labels? t.raw = some switch) ∧
    (t.definition.option? v.display = none → c.display t = v.shown) ∧
    ∀ decider' switch', t.definition.option? v.display = some (decider', switch') →
      c.display t = do
        let s ← v.shown
        let chosen ← (← c.value (.text decider')).shown
        return ((t.definition.labels? s).bind fun labels => labels.get? chosen).getD s := by
  refine ⟨h.gives hc.mem hc.option, ?_, ?_, ?_, display_of_option?_none hc.value,
    fun _ _ => display_of_option?_some hc.derivation hc.value⟩
  · intro hsame hlabels
    have hraw : t.raw = v.display := (Data.shown_ok_iff.mp hsame).2
    have hoption := hc.option
    rw [hraw] at hoption
    rw [display_of_option?_some hc.derivation hc.value hoption, hsame, hc.decided]
    show (x.shown >>= _) = _
    rw [hlabels]
    cases x.shown <;> rfl
  · intro hinert
    have hvalue := hc.value
    rw [expandedValue_of_inert hc.derivation hinert] at hvalue
    obtain rfl := Except.ok.inj hvalue
    exact Data.shown_text t.raw
  · intro hkept
    rw [TraitDefinition.labels?_eq hkept, hc.option]
    rfl

end

end Character

/-- The animal has an option that stands for itself. That of the breed is the name of a variable, that
of the shape has its labels written over, and that of the guise leads to another option, whose variable
leads to itself. -/
def Ruleset.labelled : Ruleset :=
  .small
    [.small 1 "Brood" "IS_VARIABLE|BROOD" "Kalebite",
      .small 2 "Animal" "DERIVED_OPTION|[animal]|BROOD|Kalebite|Wolf|Kalebite|Lupus" "[animal]",
      .small 3 "Breed" "DERIVED_OPTION|BROOD|BROOD|Kalebite|Lycanth" "BROOD",
      .ruled 4 "Shape" ["DERIVED_OPTION|Value|BROOD|Kalebite|Crinos",
        "DERIVED_SWITCH|Value|Kalebite|Hispo", "DERIVED_OPTION|other|BROOD"] "",
      .small 5 "Head" "IS_VARIABLE|HEAD" "HEAD",
      .ruled 6 "Guise" ["DERIVED_OPTION|BROOD|BROOD|Kalebite|Mask",
        "DERIVED_OPTION|Kalebite|HEAD"] "BROOD"]
    [.small .mortal [1, 2, 3, 4, 5, 6]]

def Engine.labelled : Engine where
  ruleset := .labelled
  traits :=
    ⟨TraitDefinition.finished Ruleset.labelled.traits
      [([.isVariable "BROOD"], []),
        ([.derivedOption "[animal]" "BROOD" (.ofList [("Kalebite", "Lupus")])], []),
        ([.derivedOption "BROOD" "BROOD" (.ofList [("Kalebite", "Lycanth")])], []),
        ([.derivedOption "Value" "BROOD" (.ofList [("Kalebite", "Crinos")]),
          .derivedSwitch "Value" (.ofList [("Kalebite", "Hispo")]),
          .derivedOption "other" "BROOD" .empty], []),
        ([.isVariable "HEAD"], []),
        ([.derivedOption "BROOD" "BROOD" (.ofList [("Kalebite", "Mask")]),
          .derivedOption "Kalebite" "HEAD" .empty], [])], .empty⟩
  templates :=
    ⟨[{ TemplateDefinition.small .mortal [1, 2, 3, 4, 5, 6] with traitIds := [1, 2, 3, 4, 5, 6] }]⟩
  paths := .empty

theorem Engine.build_labelled : build .labelled = .ok .labelled := (rfl)

namespace Character

def labelled : Character where
  engine := .labelled
  id := 0
  templates := [.mortal]
  traits := Engine.labelled.traits.definitions.map .fresh
  bindings := .ofList [("BROOD", 1), ("HEAD", 5)]
  groups := .empty

theorem reachable_labelled : Reachable labelled := by
  have hcreate : create .labelled ⟨0, [], [], .empty⟩ = .ok (labelled, []) := rfl
  exact .created Engine.build_labelled hcreate

/-- Three options whose labels are not shown: the value is shown instead, or the label of another
switch, or nothing at all. -/
theorem options_miss_labels : Reachable labelled ∧
    (∃ t switch v x, labelled.Chosen t "BROOD" switch v x ∧
      switch.get? x.display = some "Lycanth" ∧ labelled.display t = .ok "Kalebite") ∧
    (∃ t switch v x, labelled.Chosen t "BROOD" switch v x ∧
      switch.get? x.display = some "Crinos" ∧ labelled.display t = .ok "Hispo") ∧
    ∃ t switch v x, labelled.Chosen t "BROOD" switch v x ∧
      switch.get? x.display = some "Mask" ∧
      labelled.display t = .error (.evaluation (.circular "HEAD")) := by
  have hbrood : labelled.value (.text "BROOD") = .ok (.text "Kalebite") := rfl
  refine ⟨reachable_labelled, ?_, ?_, ?_⟩
  · exact ⟨_, _, _, _, ⟨List.mem_of_getElem? (i := 2) rfl, rfl, rfl, rfl, hbrood⟩, rfl, rfl⟩
  · exact ⟨_, _, _, _, ⟨List.mem_of_getElem? (i := 3) rfl, rfl, rfl, rfl, hbrood⟩, rfl, rfl⟩
  · exact ⟨_, _, _, _, ⟨List.mem_of_getElem? (i := 5) rfl, rfl, rfl, rfl, hbrood⟩, rfl, rfl⟩

theorem option_shows_label_labelled :
    ∃ t ∈ labelled.traits, t.raw = "[animal]" ∧ labelled.display t = .ok "Lupus" := by
  have hmem : _ ∈ labelled.traits := List.mem_of_getElem? (i := 1) rfl
  have hinert : Inert labelled "[animal]" := ⟨rfl, rfl, rfl⟩
  obtain ⟨_, hlabel, hself, hkept, _⟩ :=
    option_shows_label reachable_labelled ⟨hmem, rfl, rfl, rfl, rfl⟩
  exact ⟨_, hmem, rfl, hlabel (hself hinert) (hkept nofun)⟩

end Character

end CharacterSheet
