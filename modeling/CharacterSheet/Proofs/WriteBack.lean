import CharacterSheet.Proofs.Assigned

/-! Writing back what was read. The text of a value stands for the value, whatever is asked: an integer
and a truth value are read from it, and a text that a raw value stands for has been read to its end, so
it stands for itself. With this text as its raw value a trait therefore has the value that it had, and a
reading that came to the trait goes on as it did. So nothing that could be read reads otherwise. Only an
integer of too many digits has no text to write back. -/

namespace CharacterSheet.Character

open Result

/-- A value that its own text stands for, if it has one. -/
def Stays (c : Character) : Value → Prop
  | .text s => c.Inert s
  | _ => True

section

variable {c : Character} {ask : Ask} {busy : List String} {t : Trait} {q : Query} {v w : Value}
variable {n : Nat} {b : Option (Int × Int)}

/-! ## Texts of values -/

theorem Stays.expand (h : c.Stays w) (hwritable : w.toData.isWritable = true) :
    c.expand ask busy (.text w.display) = .ok w := by
  cases w with
  | int k => exact expand_of_integerText? (Text.integerText?_toString hwritable)
  | bool b => cases b <;> rfl
  | text s => exact Inert.expand h

theorem Stays.integer?_eq_none (h : c.Stays w) (hw : ∀ k, w ≠ .int k) : w.integer? = .ok none := by
  cases w with
  | int k => exact absurd rfl (hw k)
  | bool b => rfl
  | text s => exact (Value.integer?_text s).trans (Text.integerText?_of_none h.number)

theorem Sound.stays (h : c.Sound) (hc : c.Unsigned) (hv : c.ask busy (.value v) = .ok w) :
    c.Stays w := by
  cases w with
  | int k => trivial
  | bool b => trivial
  | text s => exact h.inert hc hv

/-! ## Bounds -/

/-- What has been put within the bounds is left where it is. -/
theorem clamp_clamp (h : ∀ low high, b = some (low, high) → low ≤ high) (k : Int) :
    clamp (clamp k b) b = clamp k b := by
  cases b with
  | none => rfl
  | some b =>
    have hle := h b.1 b.2 rfl
    show max b.1 (min b.2 (max b.1 (min b.2 k))) = max b.1 (min b.2 k)
    omega

/-! ## Readings afterwards -/

/-- A trait whose raw value is the text of its value has that value, as far as its bounds read the same.
-/
theorem expanded_display {ask' : Ask} {busy' : List String}
    (ha : t.profile.derivation.isAssignable = true) (hw : c.expanded ask busy t = .ok w)
    (hraw : ask' busy' (.value (.text w.display)) = .ok w)
    (hgives : ∀ s, Gives (ask busy (.value (.text s))) (ask' busy' (.value (.text s))))
    (hle : ∀ k low high, w = .int k →
      bounds ask busy t.profile = .ok (some (low, high)) → low ≤ high) :
    c.expanded ask' busy' { t with raw := w.display } = .ok w := by
  refine expanded_of_raw (t := { t with raw := w.display }) ha hraw fun k hk => ?_
  obtain ⟨x, _, hcases⟩ := expanded_ok hw
  cases hcases with
  | inl hint =>
    obtain ⟨m, b, _, hb, hclamp⟩ := hint
    rw [hk] at hclamp
    obtain rfl := Value.int.inj hclamp
    refine ⟨b, carried_bounds carries_gives (fun s _ => hgives s) b hb, clamp_clamp ?_ m⟩
    intro low high hsome
    exact hle _ low high hk (hsome ▸ hb)
  | inr hother => exact absurd (hother.2.symm.trans hk) (hother.1 k)

/-- What could be read at some depth can be read once a trait has its value as its raw value. -/
theorem Sound.askWithin_writeBack (h : c.Sound) (ht : t ∈ c.traits)
    (ha : t.profile.derivation.isAssignable = true) (hstays : c.Stays w)
    (hwritable : w.toData.isWritable = true) (hw : c.expandedValue t = .ok w)
    (hle : ∀ k low high, w = .int k → c.boundsOf t = .ok (some (low, high)) → low ≤ high)
    (hq : c.Own q) :
    Gives (c.askWithin n busy q) ((c.setRaw t.id w.display).ask busy (q.revalue t.id w.display)) := by
  induction n generalizing busy q with
  | zero =>
    intro v hv
    cases hv
  | succ n ih =>
    rw [ask_eq, answer_setRaw]
    cases hq.eq_or_revalue h.ascending ht w.display with
    | inl he =>
      subst he
      intro v hv
      have hsame : Except.ok w = .ok v := hw.symm.trans (ask_of_askWithin hq hv)
      obtain rfl := Except.ok.inj hsame
      rw [askWithin, answer] at hv
      rw [Query.revalue, Trait.revalue_self, answer]
      apply expanded_display ha hv
      · show (c.setRaw t.id w.display).ask busy (.value (.text w.display)) = _
        rw [ask_eq, answer_setRaw, answer, hstays.expand hwritable]
      · exact fun s => ih (q := .value (.text s)) trivial
      · intro k low high hk hb
        refine hle k low high hk (carried_bounds carries_gives (fun s _ => ?_) _ hb)
        exact fun x hx => ask_of_askWithin (q := .value _) trivial hx
    | inr he =>
      rw [he, askWithin]
      exact carried_answer carries_gives fun _ _ hc => ih hc.own

/-! ## Writing back -/

theorem Sound.stays_of_expandedValue (h : c.Sound) (hc : c.Unsigned)
    (ha : t.profile.derivation.isAssignable = true) (hw : c.expandedValue t = .ok w) :
    c.Stays w := by
  rw [expandedValue_eq] at hw
  obtain ⟨x, hx, hcases⟩ := expanded_ok hw
  rw [unclamped_of_isAssignable ha] at hx
  cases hcases with
  | inl hint =>
    obtain ⟨_, _, _, _, rfl⟩ := hint
    trivial
  | inr hother =>
    obtain rfl := hother.2
    exact h.stays hc hx

/-- The value of a trait is within its bounds, so the trait takes it. -/
theorem weighBounds_of_expandedValue (hstays : c.Stays w) (hw : c.expandedValue t = .ok w)
    (hle : ∀ k low high, w = .int k → c.boundsOf t = .ok (some (low, high)) → low ≤ high) :
    c.weighBounds t w.toData = .ok none := by
  rw [expandedValue_eq] at hw
  obtain ⟨x, _, hcases⟩ := expanded_ok hw
  rw [weighBounds_eq_none_iff]
  cases hcases with
  | inl hint =>
    obtain ⟨m, b, _, hb, rfl⟩ := hint
    refine .inr ⟨clamp m b, b, rfl, hb, fun low high hsome => ?_⟩
    subst hsome
    exact clamp_mem (hle _ low high rfl hb) m
  | inr hother =>
    obtain ⟨hno, rfl⟩ := hother
    exact .inl (hstays.integer?_eq_none hno)

theorem lookup_gives {d : Character} (hrefers : ∀ s, d.refers s = c.refers s)
    (hvalue : ∀ v, Gives (c.value v) (d.value v)) (v : Data) : Gives (c.lookup v) (d.lookup v) := by
  have htext : ∀ s, Gives (c.value (.text s) >>= fun x => pure x.toData)
      (d.value (.text s) >>= fun x => pure x.toData) :=
    fun s => carries_gives.bind (hvalue (.text s)) fun x _ => carries_gives.ok x.toData
  unfold lookup
  split
  · exact carries_gives.ok _
  · exact carries_gives.ok _
  · exact carries_gives.ok _
  · exact htext _
  · refine carries_gives.bind (carries_gives.ends v.ends_shown) fun s _ => ?_
    rw [hrefers]
    split
    · exact htext _
    · exact carries_gives.ok _

/-- A trait that is given the value that it has takes it and has it still, and so has everything else
that had one. An integer that can not be written is a fault. -/
theorem write_back (h : Reachable c) (hc : c.Unsigned) (ht : t ∈ c.traits)
    (hd : t.profile.derivation = .standard) (hp : t.profile.possible = [])
    (hw : c.expandedValue t = .ok w)
    (hle : ∀ k low high, w = .int k → c.minimum t = .ok (some low) →
      c.maximum t = .ok (some high) → low ≤ high) :
    (w.toData.isWritable = true →
      ∃ d u, c.assign t w.toData = .ok (d, true) ∧ d.trait? t.id = some u ∧
        d.expandedValue u = .ok w ∧ (∀ v x, c.lookup v = .ok x → d.lookup v = .ok x) ∧
        ∀ y ∈ c.traits, ∀ x, c.expandedValue y = .ok x →
          ∃ z, d.trait? y.id = some z ∧ d.expandedValue z = .ok x) ∧
    (w.toData.isWritable = false →
      c.assign t w.toData = .error (.value (.tooManyDigits none))) := by
  have ha : t.profile.derivation.isAssignable = true := hd ▸ rfl
  have hbounds : ∀ k low high, w = .int k → c.boundsOf t = .ok (some (low, high)) → low ≤ high :=
    fun k low high hk hb => (boundsOf_eq_some_iff.mp hb).elim (hle k low high hk)
  have hstays := h.sound.stays_of_expandedValue hc ha hw
  have hweigh := weighBounds_of_expandedValue hstays hw hbounds
  refine ⟨fun hwritable => ?_, fun hwritable => ?_⟩
  · have hgives : ∀ q, c.Own q →
        Gives (c.ask [] q) ((c.setRaw t.id w.display).ask [] (q.revalue t.id w.display)) :=
      fun q hq => h.sound.askWithin_writeBack ht ha hstays hwritable hw hbounds hq
    have htrait : ∀ y ∈ c.traits, ∀ x, c.expandedValue y = .ok x →
        ∃ z, (c.setRaw t.id w.display).trait? y.id = some z ∧
          (c.setRaw t.id w.display).expandedValue z = .ok x := by
      intro y hy x hx
      refine ⟨y.revalue t.id w.display, ?_, hgives (.trait y) hy x hx⟩
      rw [trait?_setRaw, trait?_of_mem h.sound.ascending hy]
      rfl
    obtain ⟨u, hu, hread⟩ := htrait t ht w hw
    have htext : w.toData.textOf? = .ok (some w.display) := by
      have hmap := congrArg (Except.map some) (Data.shown_of_writable hwritable)
      cases w <;> exact hmap
    refine ⟨_, u, assign_taken_iff.mpr ⟨ha, hweigh, w.display, htext, .inl hp, rfl⟩, hu, hread, ?_,
      htrait⟩
    exact lookup_gives (fun _ => rfl) fun v => hgives (.value v) trivial
  · have hfault := weigh_eq_error_iff.mpr
      ⟨ha, .inr ⟨hweigh, Data.textOf?_eq_error_iff.mpr ⟨hwritable, rfl⟩⟩⟩
    rw [assign, hfault]
    rfl

end

theorem unsigned_boundedMortal : boundedMortal.Unsigned := .of_entries (by decide)

/-- Calm has a raw value beyond its bounds, and a variable leads to Kind. -/
theorem write_back_boundedMortal :
    (∃ t ∈ boundedMortal.traits, t.raw = "9" ∧ boundedMortal.expandedValue t = .ok (.int 3) ∧
      ∃ d u, boundedMortal.assign t (.int 3) = .ok (d, true) ∧ d.trait? t.id = some u ∧
        d.expandedValue u = .ok (.int 3)) ∧
    ∃ t ∈ boundedMortal.traits, t.name = "Kind" ∧ boundedMortal.expandedValue t = .ok (.text "A") ∧
      ∃ d, boundedMortal.assign t (.text "A") = .ok (d, true) ∧
        d.lookup (.text "KIND") = .ok (.text "A") := by
  constructor
  · have hle : ∀ k low high, Value.int 3 = .int k →
        boundedMortal.minimum (boundedMortal.traits.get ⟨2, by decide⟩) = .ok (some low) →
        boundedMortal.maximum (boundedMortal.traits.get ⟨2, by decide⟩) = .ok (some high) →
        low ≤ high := by
      intro k low high _ hlow hhigh
      obtain rfl : 0 = low := Option.some.inj (Except.ok.inj hlow)
      obtain rfl : 3 = high := Option.some.inj (Except.ok.inj hhigh)
      decide
    obtain ⟨d, u, htaken, hu, hread, _⟩ := (write_back reachable_boundedMortal
      unsigned_boundedMortal (List.mem_of_getElem? (i := 2) rfl) rfl rfl rfl hle).1 rfl
    exact ⟨_, List.mem_of_getElem? (i := 2) rfl, rfl, rfl, d, u, htaken, hu, hread⟩
  · obtain ⟨d, _, htaken, _, _, hlookup, _⟩ := (write_back reachable_boundedMortal
      unsigned_boundedMortal (List.mem_of_getElem? (i := 1) rfl) rfl rfl (w := .text "A") rfl nofun).1
      rfl
    exact ⟨_, List.mem_of_getElem? (i := 1) rfl, rfl, rfl, d, htaken,
      hlookup (.text "KIND") (.text "A") rfl⟩

end CharacterSheet.Character

namespace CharacterSheet

/-- A name times itself, some times over. -/
def Formula.power (name : String) : Nat → Formula
  | 0 => .operand name
  | n + 1 => .operation .mul (power name n) (.operand name)

/-- Each trait that has a name is a power of the one before it. -/
def Ruleset.boundless : Ruleset :=
  .small
    [.small 1 "Deep" "IS_VARIABLE|A" "1000000000000000000000000000000000000000000000000000000000000",
      .ruled 2 "Deeper" ["IS_VARIABLE|B", "DERIVED_INTEGER|A|A|*|A|*|A|*|A|*|A|*|A|*|A|*|A|*"] "",
      .ruled 3 "Deepest" ["IS_VARIABLE|C", "DERIVED_INTEGER|B|B|*|B|*|B|*|B|*|B|*|B|*|B|*"] "",
      .small 4 "Depth" "" "C"]
    [.small .mortal [1, 2, 3, 4]]

def Engine.boundless : Engine where
  ruleset := .boundless
  traits :=
    ⟨TraitDefinition.finished Ruleset.boundless.traits
      [([.isVariable "A"], []),
        ([.isVariable "B", .derivedInteger "A|A|*|A|*|A|*|A|*|A|*|A|*|A|*|A|*" (.power "A" 8)], []),
        ([.isVariable "C", .derivedInteger "B|B|*|B|*|B|*|B|*|B|*|B|*|B|*" (.power "B" 7)], []),
        ([], [])], .empty⟩
  templates :=
    ⟨[{ TemplateDefinition.small .mortal [1, 2, 3, 4] with traitIds := [1, 2, 3, 4] }]⟩
  paths := .empty

theorem Engine.build_boundless : build .boundless = .ok .boundless := (rfl)

/-- Whether a value is an integer that can not be written. -/
def Result.isVast : Result Value → Bool
  | .ok (.int n) => decide (10 ^ Text.mostDigits ≤ n.natAbs)
  | _ => false

theorem Result.vast_of_isVast {x : Result Value} (h : x.isVast = true) :
    ∃ n, x = .ok (.int n) ∧ Text.isWritable n = false := by
  unfold isVast at h
  split at h
  · rename_i n
    have hle := Nat.not_lt.mpr (of_decide_eq_true h)
    exact ⟨n, rfl, Bool.eq_false_iff.mpr fun hw => hle (Text.isWritable_iff.mp hw)⟩
  · cases h

namespace Character

def boundless : Character where
  engine := .boundless
  id := 0
  templates := [.mortal]
  traits := Engine.boundless.traits.definitions.map .fresh
  bindings := .ofList [("A", 1), ("B", 2), ("C", 3)]
  groups := .empty

theorem reachable_boundless : Reachable boundless := by
  have hcreate : create .boundless ⟨0, [], [], .empty⟩ = .ok (boundless, []) := rfl
  exact .created Engine.build_boundless hcreate

/-- All readings end and nothing bounds the trait, yet it can not be given the value that it has. -/
theorem write_back_escapes : Reachable boundless ∧ Ranked boundless Trait.id ∧ boundless.Unsigned ∧
    ∃ t ∈ boundless.traits, t.profile.derivation = .standard ∧ t.profile.possible = [] ∧
      boundless.boundsOf t = .ok none ∧
      ∃ w, boundless.expandedValue t = .ok w ∧
        boundless.assign t w.toData = .error (.value (.tooManyDigits none)) := by
  let t : Trait := .fresh { TraitDefinition.small 4 "Depth" "" "C" with directives := [] }
  have hread : (boundless.expandedValue t).isVast = true := by decide +kernel
  obtain ⟨n, hn, hvast⟩ := Result.vast_of_isVast hread
  refine ⟨reachable_boundless, ⟨by decide +kernel, by decide +kernel, by decide +kernel⟩,
    .of_entries (by decide), t, List.mem_of_getElem? (i := 3) rfl, rfl, rfl, rfl, _, hn, ?_⟩
  have hbounds : boundless.weighBounds t (.int n) = .ok none :=
    weighBounds_eq_none_iff.mpr (.inr ⟨n, none, rfl, rfl, nofun⟩)
  have hfault : boundless.weigh t (.int n) = .error (.value (.tooManyDigits none)) :=
    weigh_eq_error_iff.mpr ⟨rfl, .inr ⟨hbounds, Data.textOf?_eq_error_iff.mpr ⟨hvast, rfl⟩⟩⟩
  show boundless.assign t (.int n) = _
  rw [assign, hfault]
  rfl

end Character

end CharacterSheet
