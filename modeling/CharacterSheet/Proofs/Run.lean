import CharacterSheet.Character.Lifecycle
import CharacterSheet.Character.View
import CharacterSheet.Proofs.Result

/-! Runs of a character. An action is what a caller can do with one: change its templates or traits,
offer a value, or read something. Each ends with the character as it leaves it and with its fault, if
it failed. `Reachable` holds of every state that any run leads to, failed actions included, and
`FaultFree` of those that runs without a failed action lead to. -/

namespace CharacterSheet

/-- What can be read of a character. -/
inductive Question where
  | variable (v : Data)
  | value (id : Int)
  | bounds (id : Int)
  | display (id : Int)
  | visibility (id : Int)
  | hiding (id : Int)
  | weighing (id : Int) (v : Data)
  | count (ids : List Int)
  | highest (ids : List Int)
  | selection (f : Character.Filter)
  | name
  | moralPath

inductive Action where
  | addTemplate (key : TemplateKey)
  | removeTemplate (key : TemplateKey)
  | addTrait (id : Int)
  | removeTrait (id : Int)
  | assign (id : Int) (v : Data)
  | ask (q : Question)

namespace Character

def faultOf {α : Type} : Result α → Option Fault
  | .ok _ => none
  | .error f => some f

/-- A reading of a trait; there is nothing to read of one that is not there. -/
def faultAt {α : Type} (c : Character) (id : Int) (read : Trait → Result α) : Option Fault :=
  (c.trait? id).bind fun t => faultOf (read t)

/-- What a reading fails with. It leaves nothing behind. -/
def fault? (c : Character) : Question → Option Fault
  | .variable v => faultOf (c.lookup v)
  | .value id => c.faultAt id c.expandedValue
  | .bounds id => c.faultAt id c.boundsOf
  | .display id => c.faultAt id c.display
  | .visibility id => c.faultAt id c.visibility
  | .hiding id => c.faultAt id c.isHidden
  | .weighing id v => c.faultAt id (c.weigh · v)
  | .count ids => faultOf (c.selectedCount ids)
  | .highest ids => faultOf (c.highestOf ids)
  | .selection f => faultOf (c.select f)
  | .name => faultOf c.name
  | .moralPath => faultOf c.moralPath

/-- Offering a value to a trait. -/
def offer (c : Character) (id : Int) (v : Data) : Change :=
  match c.trait? id with
  | none => .done c
  | some t => match c.assign t v with
    | .ok (after, _) => .done after
    | .error f => .failed c f

def perform (c : Character) : Action → Change
  | .addTemplate key => c.addTemplate key
  | .removeTemplate key => c.removeTemplate key
  | .addTrait id => c.addTrait id
  | .removeTrait id => .done (c.removeTrait id)
  | .assign id v => c.offer id v
  | .ask q => ⟨c, c.fault? q⟩

/-- The states that runs from a new character lead to. -/
inductive Reachable : Character → Prop where
  | created {r : Ruleset} {e : Engine} {b : Blueprint} {c : Character} {ws : List Warning} :
      Engine.build r = .ok e → create e b = .ok (c, ws) → Reachable c
  | acted {c : Character} (a : Action) : Reachable c → Reachable (c.perform a).after

/-- The states that runs in which no action fails lead to. -/
inductive FaultFree : Character → Prop where
  | created {r : Ruleset} {e : Engine} {b : Blueprint} {c : Character} {ws : List Warning} :
      Engine.build r = .ok e → create e b = .ok (c, ws) → FaultFree c
  | acted {c : Character} (a : Action) :
      FaultFree c → (c.perform a).fault = none → FaultFree (c.perform a).after

theorem FaultFree.reachable {c : Character} (h : FaultFree c) : Reachable c := by
  induction h with
  | created hb hc => exact .created hb hc
  | acted a _ _ ih => exact .acted a ih

/-- A loaded character is a new one, made of what was saved. -/
theorem FaultFree.loaded {r : Ruleset} {e : Engine} {saved : Data} {c : Character}
    {ws : List Warning} (hb : Engine.build r = .ok e) (h : load e saved = .ok (c, ws)) :
    FaultFree c := by
  obtain ⟨_, _, h⟩ := Result.bind_ok h
  obtain ⟨s, _, h⟩ := Result.bind_ok h
  exact .created hb h

/-- The state that some actions leave behind, whether they fail or not. -/
def run (c : Character) (as : List Action) : Character :=
  as.foldl (fun c a => (c.perform a).after) c

theorem Reachable.run {c : Character} (h : Reachable c) (as : List Action) :
    Reachable (c.run as) := by
  induction as generalizing c with
  | nil => exact h
  | cons a r ih => exact ih (h.acted a)

end Character

/-- A ruleset with nothing but some traits and templates. -/
def Ruleset.small (traits : List TraitDefinition) (templates : List TemplateDefinition) :
    Ruleset where
  id := "small"
  name := "Small"
  version := "1.0"
  chunkDelimiter := "\n"
  tokenDelimiter := "|"
  levelGlyph := "•"
  reserved := standardReserved
  nameTrait := "Name"
  virtuesTrait := "Virtues"
  pathScoreTrait := "Path Score"
  pathNameTrait := "Path Name"
  titles := standardTitles
  standardTitle := everythingTitle
  traits := traits
  templates := templates
  rows := []
  paths := []
  defects := []

def TraitDefinition.small (id : Int) (name rule standard : String) : TraitDefinition :=
  ⟨none, id, name, .freeText, .topText, .none, .chunks [rule], standard, [], []⟩

/-- A trait with a rule of several chunks. -/
def TraitDefinition.ruled (id : Int) (name : String) (chunks : List String) (standard : String) :
    TraitDefinition :=
  { TraitDefinition.small id name "" standard with rule := .chunks chunks }

/-- Definitions as a catalog holds them, with their directives and their children. -/
def TraitDefinition.finished (ts : List TraitDefinition)
    (parts : List (List Directive × List Int)) : List TraitDefinition :=
  ts.zipWith (fun t part => { t with directives := part.1, subtraits := part.2 }) parts

def TemplateDefinition.small (key : TemplateKey) (ids : List Int) : TemplateDefinition :=
  ⟨none, key, key.properName, ids.map .id, []⟩

/-- The last trait of its second template wants a name that the first template has given away. -/
def Ruleset.clashing : Ruleset :=
  .small
    [.small 1 "Alpha" "IS_VARIABLE|X" "", .small 2 "Beta" "MAINTRAIT_COUNT" "",
      .small 3 "Gamma" "SUBTRAIT|2" "", .small 4 "Delta" "IS_VARIABLE|X" ""]
    [.small .mortal [1], .small .kindred [2, 4]]

def Engine.clashing : Engine where
  ruleset := .clashing
  traits :=
    ⟨[{ TraitDefinition.small 1 "Alpha" "IS_VARIABLE|X" "" with directives := [.isVariable "X"] },
      { TraitDefinition.small 2 "Beta" "MAINTRAIT_COUNT" "" with
        subtraits := [3], directives := [.mainTraitCount none] },
      { TraitDefinition.small 3 "Gamma" "SUBTRAIT|2" "" with directives := [.subTrait (.id 2)] },
      { TraitDefinition.small 4 "Delta" "IS_VARIABLE|X" "" with
        directives := [.isVariable "X"] }],
      .ofList [("Beta", 2)]⟩
  templates :=
    ⟨[{ TemplateDefinition.small .mortal [1] with traitIds := [1] },
      { TemplateDefinition.small .kindred [2, 4] with traitIds := [2, 3, 4] }]⟩
  paths := .empty

theorem Engine.build_clashing : build .clashing = .ok .clashing := rfl

/-- The traits of a mortal want the same name, so nobody can become one. -/
def Ruleset.mortalClash : Ruleset :=
  .small [.small 1 "Alpha" "IS_VARIABLE|X" "", .small 2 "Beta" "IS_VARIABLE|X" ""]
    [.small .mortal [1, 2], .small .kindred [1]]

def Engine.mortalClash : Engine where
  ruleset := .mortalClash
  traits :=
    ⟨[{ TraitDefinition.small 1 "Alpha" "IS_VARIABLE|X" "" with directives := [.isVariable "X"] },
      { TraitDefinition.small 2 "Beta" "IS_VARIABLE|X" "" with directives := [.isVariable "X"] }],
      .empty⟩
  templates :=
    ⟨[{ TemplateDefinition.small .mortal [1, 2] with traitIds := [1, 2] },
      { TemplateDefinition.small .kindred [1] with traitIds := [1] }]⟩
  paths := .empty

theorem Engine.build_mortalClash : build .mortalClash = .ok .mortalClash := rfl

/-! ## Several actions in a row -/

namespace Change

variable {α : Type} {f : Character → α → Change}

theorem andThen_of_fault {a : Change} {g : Character → Change} {x : Fault} (h : a.fault = some x) :
    a.andThen g = a := by rw [andThen, h]

theorem andThen_of_none {a : Change} {g : Character → Change} (h : a.fault = none) :
    a.andThen g = g a.after := by rw [andThen, h]

/-- What can not fail itself leaves the fault as it is. -/
theorem andThen_done_fault {a : Change} {g : Character → Character} :
    (a.andThen fun c => done (g c)).fault = a.fault := by
  cases h : a.fault with
  | some x => rw [andThen_of_fault h, h]
  | none => rw [andThen_of_none h]; rfl

/-- A sequence goes as far as it comes without a fault, and leaves off where it failed. -/
theorem each_fault {l : List α} {c : Character} {x : Fault} (h : (each f l c).fault = some x) :
    ∃ pre y post, l = pre ++ y :: post ∧ (each f pre c).fault = none ∧
      (f (each f pre c).after y).fault = some x ∧
      (each f l c).after = (f (each f pre c).after y).after := by
  induction l generalizing c with
  | nil => cases h
  | cons y r ih =>
    rw [each] at h ⊢
    cases hy : (f c y).fault with
    | some z =>
      rw [andThen_of_fault hy] at h ⊢
      exact ⟨[], y, r, rfl, rfl, h, rfl⟩
    | none =>
      rw [andThen_of_none hy] at h ⊢
      obtain ⟨pre, z, post, rfl, hpre, hz, ha⟩ := ih h
      have hcons : each f (y :: pre) c = each f pre (f c y).after := by
        rw [each, andThen_of_none hy]
      exact ⟨y :: pre, z, post, rfl, by rw [hcons]; exact hpre, by rw [hcons]; exact hz,
        by rw [hcons]; exact ha⟩

theorem each_cons_ok {y : α} {r : List α} {c : Character}
    (h : (each f (y :: r) c).fault = none) :
    (f c y).fault = none ∧ (each f r (f c y).after).fault = none ∧
      each f (y :: r) c = each f r (f c y).after := by
  rw [each] at h ⊢
  cases hy : (f c y).fault with
  | some z => rw [andThen_of_fault hy, hy] at h; cases h
  | none =>
    rw [andThen_of_none hy] at h ⊢
    exact ⟨rfl, h, rfl⟩

/-- What each action keeps, the sequence keeps, wherever it leaves off. -/
theorem each_keeps {P : Character → Prop} (hf : ∀ c y, P c → P (f c y).after) {l : List α}
    {c : Character} (hc : P c) : P (each f l c).after := by
  induction l generalizing c with
  | nil => exact hc
  | cons y r ih =>
    unfold each
    cases hy : (f c y).fault with
    | some z => rw [andThen_of_fault hy]; exact hf c y hc
    | none => rw [andThen_of_none hy]; exact ih (hf c y hc)

/-- What each action keeps that does not fail, a sequence without a fault keeps. -/
theorem each_keeps_ok {P : Character → Prop} {l : List α}
    (hf : ∀ c, ∀ y ∈ l, P c → (f c y).fault = none → P (f c y).after) {c : Character} (hc : P c)
    (h : (each f l c).fault = none) : P (each f l c).after := by
  induction l generalizing c with
  | nil => exact hc
  | cons y r ih =>
    obtain ⟨hy, hr, he⟩ := each_cons_ok h
    rw [he]
    exact ih (fun c z hz => hf c z (List.mem_cons_of_mem _ hz)) (hf c y List.mem_cons_self hc hy) hr

theorem andThen_keeps {P : Character → Prop} {a : Change} {g : Character → Change}
    (ha : P a.after) (hg : ∀ c, P c → P (g c).after) : P (a.andThen g).after := by
  cases h : a.fault with
  | some x => rw [andThen_of_fault h]; exact ha
  | none => rw [andThen_of_none h]; exact hg _ ha

end Change

theorem Character.FaultFree.each {c : Character} (h : FaultFree c) {as : List Action}
    (hok : (Change.each perform as c).fault = none) : FaultFree (Change.each perform as c).after :=
  Change.each_keeps_ok (fun _ a _ hd hda => hd.acted a hda) h hok

end CharacterSheet
