import CharacterSheet.Proofs.Rebuilding
import CharacterSheet.Proofs.SnapshotRecord

/-! Loading what was saved. An engine accepts what was saved of its own characters, since no version
comes before itself, and the loaded character has the keys, the traits, the variables and the groups
of the saved one. Assigning the saved values afterwards changes raw values only. -/

namespace CharacterSheet

namespace Version

theorem compareLists_self {α : Type} {cmp : α → α → Ordering} (h : ∀ a, cmp a a = .eq)
    (as : List α) : compareLists cmp as as = .eq := by
  induction as with
  | nil => rfl
  | cons a r ih => rw [compareLists, h, ih]; rfl

theorem Bounded.compare_self {α : Type} {cmp : α → α → Ordering} (h : ∀ a, cmp a a = .eq) :
    ∀ a : Bounded α, a.compare cmp a = .eq
  | .least => rfl
  | .some a => h a
  | .greatest => rfl

theorem compare_nat_self (n : Nat) : compare n n = .eq := Std.ReflCmp.compare_self

theorem compare_text_self (s : String) : compare s s = .eq := Std.ReflCmp.compare_self

theorem comparePre_self (p : PreRelease × Nat) : comparePre p p = .eq := by
  rw [comparePre, compare_nat_self, compare_nat_self]
  rfl

theorem comparePart_self : ∀ p, comparePart p p = .eq
  | .word s => compare_text_self s
  | .number n => compare_nat_self n

theorem before_self (v : Version) : v.before v = false := by
  rw [before, order, compare_nat_self, compareLists_self compare_nat_self,
    Bounded.compare_self comparePre_self, Bounded.compare_self compare_nat_self,
    Bounded.compare_self compare_nat_self,
    Bounded.compare_self (compareLists_self comparePart_self)]
  rfl

end Version

namespace Character

section

variable {c c' : Character} {saved : Data} {ws : List Warning}

theorem checkSaved_form (hs : saved ∈ c.save.forms) {v : Version}
    (hv : Version.of? c.engine.ruleset.version = some v) :
    Engine.checkSaved c.engine.ruleset saved = .ok () := by
  obtain ⟨key, rfl, _⟩ := Snapshot.mem_forms hs
  obtain ⟨_, hruleset, hversion, _⟩ := c.save.field?_fieldsOf key
  have hread : Version.read (.text c.engine.ruleset.version) = .ok v := by
    rw [Version.read, hv]
  have hsame : (Data.text c.save.ruleset != .text c.engine.ruleset.id) = false := by
    rw [bne, Data.text_beq]
    exact bne_self_eq_false _
  rw [Engine.checkSaved, Engine.entry, Engine.entry, hruleset, hversion]
  show (if (Data.text c.save.ruleset != .text c.engine.ruleset.id) = true then _ else _) = _
  rw [hsame]
  show (do
    let own ← Version.read (.text c.engine.ruleset.version)
    let version ← Version.read (.text c.save.version)
    if own.before version then _ else pure ()) = _
  show (Version.read (.text c.engine.ruleset.version) >>= fun own =>
    Version.read (.text c.engine.ruleset.version) >>= fun version =>
      if own.before version = true then _ else _) = _
  rw [hread]
  show (if v.before v = true then _ else _) = _
  rw [Version.before_self]
  rfl

theorem load_form (hs : saved ∈ c.save.forms) {v : Version}
    (hv : Version.of? c.engine.ruleset.version = some v) :
    load c.engine saved = ofSnapshot c.engine c.save := by
  rw [load, checkSaved_form hs hv, Snapshot.read_form hs]
  rfl

theorem ofSnapshot_of_load (hs : saved ∈ c.save.forms) (h : load c.engine saved = .ok (c', ws)) :
    ofSnapshot c.engine c.save = .ok (c', ws) := by
  obtain ⟨_, _, h⟩ := Result.bind_ok h
  obtain ⟨s, hr, h⟩ := Result.bind_ok h
  rw [Snapshot.read_form hs] at hr
  cases hr
  exact h

/-! ## The structure -/

/-- What was saved of a character comes back with its structure: its templates, its traits, its
variables and its groups. -/
theorem load_keeps_structure (h : FaultFree c) (hne : c.templates ≠ [])
    (hgrants : ∀ x ∈ c.granted c.templates, x ∈ c.traitIds) (hs : saved ∈ c.save.forms)
    (hload : load c.engine saved = .ok (c', ws)) :
    c'.templates = c.templates ∧ c'.traitIds = c.traitIds ∧
      (∀ name, c'.bindings.get? name = c.bindings.get? name) ∧
      ∀ p, c'.groups.get? p = c.groups.get? p := by
  have hc := h.reachable.sound
  obtain ⟨_, hp, hkeys, hids⟩ := rebuild hc hne h.alone hgrants
    (c.save.values.mapValues fun _ v => .text v)
  obtain ⟨_, hvalues⟩ := create_ok (ofSnapshot_of_load hs hload)
  have hframed := assignListed_framed hvalues
  have hids' : c'.traitIds = c.traitIds := (assignListed_ids hvalues).trans hids
  have hengine : c'.engine = c.engine := hframed.engine.trans hp.engine
  exact ⟨hframed.templates.trans hkeys, hids',
    hc.registrations_ext (hp.sound.assignListed hvalues) hengine hids'⟩

/-- A mortal with two more traits, the later one added first. -/
def mortalOfThree : Character where
  engine := .clashing
  id := 7
  templates := [.mortal]
  traits := (Engine.clashing.traits.definitions.take 3).map .fresh
  bindings := .ofList [("X", 1)]
  groups := .ofList [(2, [3])]

theorem faultFree_mortalOfThree : FaultFree mortalOfThree := by
  have hnew := FaultFree.created (b := ⟨7, [], [], .empty⟩) Engine.build_clashing rfl
  exact hnew.each (show (Change.each perform [.addTrait 3, .addTrait 2] _).fault = none from rfl)

theorem load_keeps_structure_clashing : ∃ d ws,
    load .clashing mortalOfThree.save.unwritten = .ok (d, ws) ∧
    d.templates = [.mortal] ∧ d.traitIds = [1, 2, 3] ∧
    d.bindings.get? "X" = some 1 ∧ d.groups.get? 2 = some [3] := by
  have hversion : Version.of? "1.0" = some ⟨0, [1, 0], none, none, none, none⟩ := by
    decide +kernel
  have hload : load .clashing mortalOfThree.save.unwritten = .ok (mortalOfThree, []) :=
    (load_form (c := mortalOfThree) List.mem_cons_self hversion).trans rfl
  have hgrants : ∀ x ∈ [(1 : Int)], x ∈ [(1 : Int), 2, 3] := by decide
  obtain ⟨hkeys, hids, hbindings, hgroups⟩ := load_keeps_structure faultFree_mortalOfThree
    (List.cons_ne_nil _ _) hgrants List.mem_cons_self hload
  exact ⟨_, _, hload, hkeys, hids, hbindings "X", hgroups 2⟩

end

end Character

end CharacterSheet
