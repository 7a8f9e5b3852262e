import CharacterSheet.Proofs.Ranked
import CharacterSheet.Proofs.IntegerText

/-! Where weighing a value fails. A value is read as an integer before anything is known of it, and
both bounds are worked out before it is compared with either. So a value that no trait could refuse for
its size stops the weighing where it passes for a number and can not be read as one, and one that is
an integer where a bound has no value. The rest are integers that can not be written, be it a bound in
a refusal or the value itself. An assignment fails where weighing does, and where it has refused a value
that can not be written. -/

namespace CharacterSheet

namespace Data

/-- Whether a value is read by the text that it shows as. -/
def isSpelled : Data → Bool
  | .null | .bool _ | .real _ | .undefined | .broken _ | .int _ => false
  | _ => true

theorem integer?_of_isSpelled {v : Data} (h : v.isSpelled = true) :
    v.integer? = v.shown >>= integerText? := by
  cases v
  case null | bool | real | undefined | broken | int => cases h
  all_goals rfl

theorem integer?_eq_error_iff {v : Data} {f : Fault} : v.integer? = .error f ↔
    v.isSpelled = true ∧ (v.isWritable = false ∧ f = .value (.tooManyDigits none) ∨
      v.isWritable = true ∧ Text.Unread v.display f) := by
  cases hs : v.isSpelled with
  | false =>
    cases v
    case null | bool | real | undefined | broken | int => simp [integer?]
    all_goals cases hs
  | true =>
    rw [integer?_of_isSpelled hs, Result.bind_error_iff, shown_error_iff]
    simp only [shown_ok_iff, and_assoc, exists_and_left, exists_eq_left,
      Text.integerText?_eq_error_iff, true_and]

theorem textOf?_eq_error_iff {v : Data} {f : Fault} : v.textOf? = .error f ↔
    v.isWritable = false ∧ f = .value (.tooManyDigits none) := by
  have hshown : v.shown.map some = .error f ↔ v.shown = .error f := by
    cases v.shown <;> simp [Except.map]
  rw [← shown_error_iff, ← hshown]
  cases v
  case null => exact iff_of_false nofun nofun
  all_goals rfl

end Data

namespace Character

variable {c : Character} {t : Trait} {v : Data} {f : Fault}

/-- Why a value that is offered to a trait can not be weighed. -/
inductive Unweighed (c : Character) (t : Trait) : Data → Fault → Prop where
  | unwritten {v : Data} (hv : v.isSpelled = true) (hw : v.isWritable = false) :
    Unweighed c t v (.value (.tooManyDigits none))
  | unread {v : Data} {f : Fault} (hv : v.isSpelled = true) (hw : v.isWritable = true)
    (hf : Text.Unread v.display f) : Unweighed c t v f
  | minimum {v : Data} {n : Int} {f : Fault} (hn : v.integer? = .ok (some n))
    (h : c.minimum t = .error f) : Unweighed c t v f
  | maximum {v : Data} {n : Int} {low : Option Int} {f : Fault} (hn : v.integer? = .ok (some n))
    (hlow : c.minimum t = .ok low) (h : c.maximum t = .error f) : Unweighed c t v f
  | bounds {v : Data} {n low high : Int} (hn : v.integer? = .ok (some n))
    (hb : c.boundsOf t = .ok (some (low, high))) (hout : ¬ (low ≤ n ∧ n ≤ high))
    (hw : ¬ (Text.isWritable low = true ∧ Text.isWritable high = true)) :
    Unweighed c t v (.value (.tooManyDigits none))
  | integer {n : Int} {b : Option (Int × Int)} (hb : c.boundsOf t = .ok b)
    (hin : ∀ low high, b = some (low, high) → low ≤ n ∧ n ≤ high) (hw : Text.isWritable n = false) :
    Unweighed c t (.int n) (.value (.tooManyDigits none))

theorem boundsOf_eq_error_iff : c.boundsOf t = .error f ↔
    c.minimum t = .error f ∨ (∃ low, c.minimum t = .ok low) ∧ c.maximum t = .error f := by
  show (c.minimum t >>= fun low => c.maximum t >>= fun high => _) = _ ↔ _
  rw [Result.bind_error_iff, ← exists_and_right]
  refine or_congr_right (exists_congr fun low => and_congr_right fun _ => ?_)
  rw [Result.bind_error_iff]
  apply or_iff_left
  rintro ⟨_, _, h⟩
  cases h

theorem outOfBounds_eq_error_iff {low high : Int} : outOfBounds t low high = .error f ↔
    ¬ (Text.isWritable low = true ∧ Text.isWritable high = true) ∧
      f = .value (.tooManyDigits none) := by
  have hshown : ∀ n : Int, (Data.int n).shown =
      if Text.isWritable n then .ok (Data.int n).display else .error (.value (.tooManyDigits none)) :=
    fun _ => rfl
  rw [outOfBounds, hshown, hshown]
  cases Text.isWritable low <;> cases Text.isWritable high <;>
    simp [bind, Except.bind, pure, Except.pure, eq_comm]

/-- What bounds say of an integer once they are worked out. -/
def held (t : Trait) (n : Int) : Option (Int × Int) → Result (Option Decision)
  | none => .ok none
  | some (low, high) =>
    if low ≤ n ∧ n ≤ high then .ok none else (outOfBounds t low high).map some

theorem held_eq_error_iff {n : Int} {b : Option (Int × Int)} : held t n b = .error f ↔
    ∃ low high, b = some (low, high) ∧ ¬ (low ≤ n ∧ n ≤ high) ∧
      outOfBounds t low high = .error f := by
  cases b with
  | none => simp [held]
  | some l =>
    obtain ⟨low, high⟩ := l
    rw [held]
    by_cases hin : low ≤ n ∧ n ≤ high
    · rw [if_pos hin]
      refine iff_of_false nofun ?_
      rintro ⟨_, _, ⟨⟩, hout, _⟩
      exact hout hin
    · rw [if_neg hin]
      have hmap : (outOfBounds t low high).map some = .error f ↔
          outOfBounds t low high = .error f := by
        cases outOfBounds t low high <;> simp [Except.map]
      rw [hmap]
      refine ⟨fun h => ⟨low, high, rfl, hin, h⟩, ?_⟩
      rintro ⟨_, _, ⟨⟩, _, h⟩
      exact h

theorem held_ok {n : Int} {b : Option (Int × Int)} {refusal : Option Decision}
    (h : held t n b = .ok refusal) :
    refusal = none ∧ (∀ low high, b = some (low, high) → low ≤ n ∧ n ≤ high) ∨
      ∃ d, refusal = some d ∧ d.success = false ∧
        ∃ low high, b = some (low, high) ∧ ¬ (low ≤ n ∧ n ≤ high) := by
  cases b with
  | none =>
    cases h
    exact .inl ⟨rfl, nofun⟩
  | some l =>
    obtain ⟨low, high⟩ := l
    rw [held] at h
    split at h
    · rename_i hin
      cases h
      refine .inl ⟨rfl, ?_⟩
      rintro _ _ ⟨⟩
      exact hin
    · rename_i hout
      obtain ⟨d, hd, rfl⟩ := Result.map_ok_iff.mp h
      obtain ⟨_, _, hd⟩ := Result.bind_ok hd
      obtain ⟨_, _, hd⟩ := Result.bind_ok hd
      obtain rfl := Result.pure_ok hd
      exact .inr ⟨_, rfl, rfl, low, high, rfl, hout⟩

/-- The bounds are asked for nothing but integers. -/
theorem weighBounds_of_integer {n : Int} (hn : v.integer? = .ok (some n)) :
    c.weighBounds t v = c.boundsOf t >>= held t n := by
  rw [weighBounds, hn]
  show (c.boundsOf t >>= _) = _
  refine Result.carries_eq.bind rfl fun b _ => ?_
  cases b with
  | none => rfl
  | some l =>
    obtain ⟨low, high⟩ := l
    show (if (decide (low ≤ n) && decide (n ≤ high)) = true then _ else _) = _
    rw [held]
    by_cases hin : low ≤ n ∧ n ≤ high
    · rw [if_pos hin, if_pos (by simpa using hin)]
      rfl
    · rw [if_neg hin, if_neg (by simpa using hin)]
      cases outOfBounds t low high <;> rfl

theorem weighBounds_eq_error_iff : c.weighBounds t v = .error f ↔ v.integer? = .error f ∨
    ∃ n, v.integer? = .ok (some n) ∧ (c.boundsOf t = .error f ∨
      ∃ low high, c.boundsOf t = .ok (some (low, high)) ∧ ¬ (low ≤ n ∧ n ≤ high) ∧
        outOfBounds t low high = .error f) := by
  cases hn : v.integer? with
  | error g => simp [weighBounds, hn, bind, Except.bind]
  | ok n =>
    cases n with
    | none => simp [weighBounds, hn, bind, Except.bind, pure, Except.pure]
    | some n =>
      rw [weighBounds_of_integer hn, Result.bind_error_iff]
      simp only [held_eq_error_iff, reduceCtorEq, false_or, Except.ok.injEq, Option.some.injEq,
        exists_eq_left']
      refine or_congr_right ⟨?_, ?_⟩
      · rintro ⟨_, hb, low, high, rfl, h⟩
        exact ⟨low, high, hb, h⟩
      · rintro ⟨low, high, hb, h⟩
        exact ⟨_, hb, low, high, rfl, h⟩

/-- What weighing an integer by its bounds has come to. -/
theorem weighBounds_ok {refusal : Option Decision} (h : c.weighBounds t v = .ok refusal) :
    refusal = none ∧ (v.integer? = .ok none ∨ ∃ n b, v.integer? = .ok (some n) ∧
        c.boundsOf t = .ok b ∧ ∀ low high, b = some (low, high) → low ≤ n ∧ n ≤ high) ∨
      ∃ d, refusal = some d ∧ d.success = false ∧ ∃ n low high, v.integer? = .ok (some n) ∧
        c.boundsOf t = .ok (some (low, high)) ∧ ¬ (low ≤ n ∧ n ≤ high) := by
  obtain ⟨n, hn, h'⟩ := Result.bind_ok h
  cases n with
  | none =>
    obtain rfl := Result.pure_ok h'
    exact .inl ⟨rfl, .inl hn⟩
  | some n =>
    rw [weighBounds_of_integer hn] at h
    obtain ⟨b, hb, h⟩ := Result.bind_ok h
    rcases held_ok h with ⟨rfl, hin⟩ | ⟨d, rfl, hd, low, high, rfl, hout⟩
    · exact .inl ⟨rfl, .inr ⟨n, b, hn, hb, hin⟩⟩
    · exact .inr ⟨d, rfl, hd, n, low, high, hn, hb, hout⟩

/-- The bounds are not asked, or do not both resolve, or hold the integer between them. -/
theorem weighBounds_eq_none_iff : c.weighBounds t v = .ok none ↔ v.integer? = .ok none ∨
    ∃ n b, v.integer? = .ok (some n) ∧ c.boundsOf t = .ok b ∧
      ∀ low high, b = some (low, high) → low ≤ n ∧ n ≤ high := by
  constructor
  · intro h
    rcases weighBounds_ok h with ⟨_, hnone⟩ | ⟨d, hd, _⟩
    · exact hnone
    · cases hd
  · rintro (hn | ⟨n, b, hn, hb, hin⟩)
    · rw [weighBounds, hn]
      rfl
    · rw [weighBounds_of_integer hn, hb]
      cases b with
      | none => rfl
      | some l => exact if_pos (hin l.1 l.2 rfl)

theorem weigh_eq_error_iff : c.weigh t v = .error f ↔
    t.profile.derivation.isAssignable = true ∧ (c.weighBounds t v = .error f ∨
      c.weighBounds t v = .ok none ∧ v.textOf? = .error f) := by
  rw [weigh]
  by_cases ha : t.profile.derivation.isAssignable = true
  · simp only [ha, Bool.not_true, Bool.false_eq_true, if_false, true_and]
    rw [Result.bind_error_iff]
    refine or_congr_right ⟨?_, fun ⟨hb, h⟩ => ⟨none, hb, ?_⟩⟩
    · rintro ⟨refusal, hb, h⟩
      cases refusal with
      | some d => cases h
      | none =>
        refine ⟨hb, ?_⟩
        rcases Result.bind_error_iff.mp h with h | ⟨s, _, h⟩
        · exact h
        · cases s <;> cases h
    · exact Result.bind_error_iff.mpr (.inl h)
  · simp [ha, pure, Except.pure]

/-- An integer is all that can be told to be one, or not, and yet not be written. -/
theorem eq_int_of_not_writable {n : Option Int} (hw : v.isWritable = false)
    (hn : v.integer? = .ok n) : ∃ k, v = .int k ∧ n = some k := by
  cases hs : v.isSpelled with
  | true =>
    have herror := Data.integer?_eq_error_iff.mpr ⟨hs, .inl ⟨hw, rfl⟩⟩
    rw [hn] at herror
    cases herror
  | false =>
    cases v
    case int k => exact ⟨k, rfl, (Except.ok.inj hn).symm⟩
    case null | bool | real | undefined | broken => cases hw
    all_goals cases hs

theorem unweighed_of_weighBounds (h : c.weighBounds t v = .error f) : c.Unweighed t v f := by
  rcases weighBounds_eq_error_iff.mp h with hn | ⟨n, hn, hb | ⟨low, high, hb, hout, h⟩⟩
  · obtain ⟨hs, ⟨hw, rfl⟩ | ⟨hw, hf⟩⟩ := Data.integer?_eq_error_iff.mp hn
    · exact .unwritten hs hw
    · exact .unread hs hw hf
  · rcases boundsOf_eq_error_iff.mp hb with h | ⟨⟨low, hlow⟩, h⟩
    · exact .minimum hn h
    · exact .maximum hn hlow h
  · obtain ⟨hw, rfl⟩ := outOfBounds_eq_error_iff.mp h
    exact .bounds hn hb hout hw

theorem unweighed_iff : c.Unweighed t v f ↔
    c.weighBounds t v = .error f ∨ c.weighBounds t v = .ok none ∧ v.textOf? = .error f := by
  constructor
  · intro h
    rw [weighBounds_eq_error_iff, weighBounds_eq_none_iff]
    cases h with
    | unwritten hs hw => exact .inl (.inl (Data.integer?_eq_error_iff.mpr ⟨hs, .inl ⟨hw, rfl⟩⟩))
    | unread hs hw hf => exact .inl (.inl (Data.integer?_eq_error_iff.mpr ⟨hs, .inr ⟨hw, hf⟩⟩))
    | minimum hn h => exact .inl (.inr ⟨_, hn, .inl (boundsOf_eq_error_iff.mpr (.inl h))⟩)
    | maximum hn hlow h =>
      exact .inl (.inr ⟨_, hn, .inl (boundsOf_eq_error_iff.mpr (.inr ⟨⟨_, hlow⟩, h⟩))⟩)
    | bounds hn hb hout hw =>
      exact .inl (.inr ⟨_, hn, .inr ⟨_, _, hb, hout, outOfBounds_eq_error_iff.mpr ⟨hw, rfl⟩⟩⟩)
    | integer hb hin hw =>
      exact .inr ⟨.inr ⟨_, _, rfl, hb, hin⟩, Data.textOf?_eq_error_iff.mpr ⟨hw, rfl⟩⟩
  · rintro (h | ⟨hnone, h⟩)
    · exact unweighed_of_weighBounds h
    · obtain ⟨hw, rfl⟩ := Data.textOf?_eq_error_iff.mp h
      rcases weighBounds_eq_none_iff.mp hnone with hn | ⟨n, b, hn, hb, hin⟩
      · obtain ⟨k, _, hk⟩ := eq_int_of_not_writable hw hn
        cases hk
      · obtain ⟨k, rfl, hk⟩ := eq_int_of_not_writable hw hn
        cases hk
        exact .integer hb hin hw

/-- What is accepted has a text. -/
theorem exists_textOf? {d : Decision} (h : c.weigh t v = .ok d) (hd : d.success = true) :
    ∃ s, v.textOf? = .ok s := by
  rw [weigh] at h
  split at h
  · cases h
    cases hd
  · obtain ⟨refusal, hr, h⟩ := Result.bind_ok h
    cases refusal with
    | some r =>
      cases h
      rcases weighBounds_ok hr with ⟨hnone, _⟩ | ⟨_, he, hfails, _⟩
      · cases hnone
      · cases he
        rw [hfails] at hd
        cases hd
    | none =>
      obtain ⟨s, hs, _⟩ := Result.bind_ok h
      exact ⟨s, hs⟩

/-- Weighing fails for the given reasons and no others. Assigning fails where weighing does, and with
the same fault, and where a value is refused that can not be written. -/
theorem validation_fails_iff (c : Character) (t : Trait) (v : Data) (f : Fault) :
    (c.weigh t v = .error f ↔
      t.profile.derivation.isAssignable = true ∧ c.Unweighed t v f) ∧
    (c.assign t v = .error f ↔ c.weigh t v = .error f ∨
      (∃ d, c.weigh t v = .ok d ∧ d.success = false) ∧ v.isWritable = false ∧
        f = .value (.tooManyDigits none)) := by
  constructor
  · rw [weigh_eq_error_iff, unweighed_iff]
  · rw [assign, Result.bind_error_iff]
    refine or_congr_right ⟨?_, ?_⟩
    · rintro ⟨d, hd, h⟩
      split at h
      · rename_i hs
        obtain ⟨s, hs⟩ := exists_textOf? hd hs
        rw [hs] at h
        cases h
      · rename_i hs
        rcases Result.bind_error_iff.mp h with h | ⟨_, _, h⟩
        · exact ⟨⟨d, hd, Bool.eq_false_iff.mpr hs⟩, Data.shown_error_iff.mp h⟩
        · cases h
    · rintro ⟨⟨d, hd, hs⟩, hw⟩
      refine ⟨d, hd, ?_⟩
      rw [hs, if_neg Bool.false_ne_true]
      exact Result.bind_error_iff.mpr (.inl (Data.shown_error_iff.mpr hw))

end Character

/-- The bound of Head is Head itself. -/
def Ruleset.selfBound : Ruleset :=
  .small
    [.ruled 1 "Head" ["IS_VARIABLE|HEAD", "MINMAX|0|HEAD"] "HEAD", .small 2 "Name" "" ""]
    [.small .mortal [1, 2]]

def Engine.selfBound : Engine where
  ruleset := .selfBound
  traits :=
    ⟨TraitDefinition.finished Ruleset.selfBound.traits
      [([.isVariable "HEAD", .minMax "0" "HEAD"], []), ([], [])], .empty⟩
  templates := ⟨[{ TemplateDefinition.small .mortal [1, 2] with traitIds := [1, 2] }]⟩
  paths := .empty

theorem Engine.build_selfBound : build .selfBound = .ok .selfBound := rfl

namespace Character

def selfBound : Character where
  engine := .selfBound
  id := 0
  templates := [.mortal]
  traits := Engine.selfBound.traits.definitions.map .fresh
  bindings := .ofList [("HEAD", 1)]
  groups := .empty

theorem reachable_selfBound : Reachable selfBound := by
  have hcreate : create .selfBound ⟨0, [], [], .empty⟩ = .ok (selfBound, []) := rfl
  exact .created Engine.build_selfBound hcreate

/-- All its readings end, yet one trait can not be offered a text and the other one no integer. -/
theorem validation_raises : Reachable selfBound ∧ Ranked selfBound Trait.id ∧
    (∃ t ∈ selfBound.traits, t.name = "Name" ∧
      selfBound.weigh t (.text "\x1c5") =
        .error (.value (.unreadableInteger 10 (Text.codes "\x1c5"))) ∧
      selfBound.assign t (.text "\x1c5") =
        .error (.value (.unreadableInteger 10 (Text.codes "\x1c5")))) ∧
    ∃ t ∈ selfBound.traits, t.name = "Head" ∧
      selfBound.weigh t (.int 3) = .error (.evaluation (.circular "HEAD")) ∧
      selfBound.assign t (.int 3) = .error (.evaluation (.circular "HEAD")) := by
  refine ⟨reachable_selfBound, ?_, ?_, ?_⟩
  · exact ⟨by decide +kernel, by decide +kernel, by decide +kernel⟩
  · exact ⟨_, List.mem_of_getElem? (i := 1) rfl, rfl, rfl, rfl⟩
  · exact ⟨_, List.mem_cons_self, rfl, rfl, rfl⟩

end Character

end CharacterSheet
