import CharacterSheet.Proofs.Doubles
import CharacterSheet.Proofs.Reckoning
import CharacterSheet.Proofs.Result

/-! Arithmetic beyond the range of the doubles. Names stand for integers of any size, and integers stay
exact until they meet a double or are divided; then one that no double is next to, or a quotient of
two, is a fault, and so is a final double that is no number. Only powers turn such faults into
those of a formula that has no value. -/

namespace CharacterSheet

namespace Number

variable {a b : Number} {cause : ArithmeticFault}

/-- An integer with no double next to it meets a double. -/
inductive Clash : Number → Number → Prop where
  | left {n : Int} {x : Float} : overflow ≤ n.natAbs → Clash (.int n) (.real x)
  | right {n : Int} {x : Float} : overflow ≤ n.natAbs → Clash (.real x) (.int n)

/-- A double that is no number, and the fault of rounding it. -/
inductive Unroundable : Number → ArithmeticFault → Prop where
  | infinite {x : Float} {negative : Bool} : shape x = .infinite negative →
      Unroundable (.real x) .roundInfinity
  | undefined {x : Float} : shape x = .undefined → Unroundable (.real x) .roundUndefined

/-! What follows opens the conversions with the nearest double as a parameter, since to reduce it for
an unknown integer leads nowhere. -/

def toRealBy (double? : Int → Option Float) : Number → Result Float
  | .int n => match double? n with
    | some x => .ok x
    | none => .error .intTooLarge
  | .real x => .ok x

theorem toReal_eq : toReal = toRealBy ofInt? := rfl

theorem toReal_real (x : Float) : (real x).toReal = .ok x := rfl

theorem toReal_int_error_iff {n : Int} :
    (int n).toReal = .error cause ↔ overflow ≤ n.natAbs ∧ cause = .intTooLarge := by
  rw [← ofInt?_eq_none_iff, toReal_eq]
  generalize ofInt? = double?
  rw [toRealBy]
  cases double? n with
  | none => simp [eq_comm]
  | some x => simp

/-- An operation on doubles. -/
def inReals (toReal : Number → Result Float) (f : Float → Float → Float) (a b : Number) :
    Result Number := do
  return .real (f (← toReal a) (← toReal b))

theorem inReals_error_iff {f : Float → Float → Float} (h : ∀ m n, a = .int m → b ≠ .int n) :
    inReals toReal f a b = .error cause ↔ Clash a b ∧ cause = .intTooLarge := by
  cases a with
  | int m =>
    cases b with
    | int n => exact absurd rfl (h m n rfl)
    | real y =>
      have hclash : Clash (.int m) (.real y) ↔ overflow ≤ m.natAbs :=
        ⟨fun h => by cases h; assumption, .left⟩
      have hy := toReal_real y
      rw [hclash, ← toReal_int_error_iff]
      generalize toReal = read at hy ⊢
      rw [inReals, hy]
      cases read (.int m) <;> simp [bind, Except.bind, pure, Except.pure]
  | real x =>
    have hx := toReal_real x
    cases b with
    | int n =>
      have hclash : Clash (.real x) (.int n) ↔ overflow ≤ n.natAbs :=
        ⟨fun h => by cases h; assumption, .right⟩
      rw [hclash, ← toReal_int_error_iff]
      generalize toReal = read at hx ⊢
      rw [inReals, hx]
      cases read (.int n) <;> simp [bind, Except.bind, pure, Except.pure]
    | real y =>
      constructor
      · intro h
        cases h
      · intro ⟨h, _⟩
        cases h

theorem mixed_eq {exact : Int → Int → Int} {f : Float → Float → Float}
    (h : ∀ m n, a = .int m → b ≠ .int n) : mixed exact f a b = inReals toReal f a b := by
  delta mixed
  generalize toReal = read
  cases a with
  | int m =>
    cases b with
    | int n => exact absurd rfl (h m n rfl)
    | real y => rfl
  | real x => rfl

theorem mixed_error_iff {exact : Int → Int → Int} {f : Float → Float → Float} :
    mixed exact f a b = .error cause ↔ Clash a b ∧ cause = .intTooLarge := by
  by_cases h : ∀ m n, a = .int m → b ≠ .int n
  · rw [mixed_eq h, inReals_error_iff h]
  · simp only [not_forall, not_not] at h
    obtain ⟨m, n, rfl, rfl⟩ := h
    constructor
    · intro h
      cases h
    · intro ⟨h, _⟩
      cases h

def divBy (nearest? : Bool → Nat → Nat → Option Float) (toReal : Number → Result Float) :
    Number → Number → Result Number
  | .int a, .int b =>
    match nearest? (decide (a < 0) != decide (b < 0)) a.natAbs b.natAbs with
    | some x => .ok (.real x)
    | none => .error .quotientTooLarge
  | a, b => inReals toReal (· / ·) a b

theorem div_eq : div = divBy nearest? toReal := rfl

theorem div_int_error_iff {m n : Int} (hn : n ≠ 0) : (int m).div (.int n) = .error cause ↔
    n.natAbs * overflow ≤ m.natAbs ∧ cause = .quotientTooLarge := by
  rw [← nearest?_eq_none_iff (decide (m < 0) != decide (n < 0)) (by omega), div_eq]
  generalize nearest? = double?
  rw [divBy]
  cases double? (decide (m < 0) != decide (n < 0)) m.natAbs n.natAbs with
  | none => simp [eq_comm]
  | some x => simp

theorem div_error_iff (hb : b.isZero = false) : a.div b = .error cause ↔
    Clash a b ∧ cause = .intTooLarge ∨
      ∃ m n, a = .int m ∧ b = .int n ∧ n.natAbs * overflow ≤ m.natAbs ∧
        cause = .quotientTooLarge := by
  by_cases h : ∀ m n, a = .int m → b ≠ .int n
  · have hdiv : a.div b = inReals toReal (· / ·) a b := by
      rw [div_eq]
      generalize toReal = read
      cases a with
      | int m =>
        cases b with
        | int n => exact absurd rfl (h m n rfl)
        | real y => rfl
      | real x => rfl
    rw [hdiv, inReals_error_iff h]
    constructor
    · exact .inl
    · intro hcases
      rcases hcases with hclash | ⟨m, n, rfl, rfl, _⟩
      · exact hclash
      · exact absurd rfl (h m n rfl)
  · simp only [not_forall, not_not] at h
    obtain ⟨m, n, rfl, rfl⟩ := h
    have hn : n ≠ 0 := by simpa [isZero] using hb
    rw [div_int_error_iff hn]
    constructor
    · intro hlarge
      exact .inr ⟨m, n, rfl, rfl, hlarge⟩
    · intro hcases
      rcases hcases with ⟨hclash, _⟩ | ⟨m', n', hm, hn', hlarge⟩
      · cases hclash
      · cases hm
        cases hn'
        exact hlarge

theorem round_error_iff : a.round = .error cause ↔ a.Unroundable cause := by
  constructor
  · intro h
    cases a with
    | int n => cases h
    | real x =>
      rw [round] at h
      cases hx : shape x with
      | finite negative m e =>
        rw [hx] at h
        cases h
      | infinite negative =>
        rw [hx] at h
        cases h
        exact .infinite hx
      | undefined =>
        rw [hx] at h
        cases h
        exact .undefined hx
  · intro h
    cases h with
    | infinite hx => rw [round, hx]
    | undefined hx => rw [round, hx]

end Number

namespace Result

variable {α : Type} {x : Number.Result α} {cause : ArithmeticFault} {e : Fault}

theorem mapError_arithmetic_iff :
    (x.mapError .arithmetic : Result α) = .error (.arithmetic cause) ↔ x = .error cause := by
  cases x <;> simp [Except.mapError]

theorem mapError_arithmetic
    (h : (x.mapError .arithmetic : Result α) = .error e) : ∃ cause, e = .arithmetic cause := by
  cases x with
  | error cause => exact ⟨cause, (Except.error.inj h).symm⟩
  | ok a => cases h

end Result

namespace Operator

/-- Two numbers that an operation other than a power has no result for in doubles. -/
inductive Overflows : Operator → Number → Number → ArithmeticFault → Prop where
  | clash {op : Operator} {a b : Number} : op ≠ .pow → (op = .div → b.isZero = false) →
      Number.Clash a b → Overflows op a b .intTooLarge
  | quotient {m n : Int} : n ≠ 0 → n.natAbs * Number.overflow ≤ m.natAbs →
      Overflows .div (.int m) (.int n) .quotientTooLarge

variable {op : Operator} {quoted : String} {a b : Number} {cause : ArithmeticFault} {e : Fault}

theorem overflows_iff (hdiv : op ≠ .div) (hpow : op ≠ .pow) :
    op.Overflows a b cause ↔ Number.Clash a b ∧ cause = .intTooLarge := by
  constructor
  · intro h
    cases h with
    | clash _ _ h => exact ⟨h, rfl⟩
    | quotient => exact absurd rfl hdiv
  · intro ⟨h, hcause⟩
    rw [hcause]
    exact .clash hpow (fun he => absurd he hdiv) h

theorem overflows_div_iff : Overflows .div a b cause ↔
    b.isZero = false ∧ (Number.Clash a b ∧ cause = .intTooLarge ∨
      ∃ m n, a = .int m ∧ b = .int n ∧ n.natAbs * Number.overflow ≤ m.natAbs ∧
        cause = .quotientTooLarge) := by
  constructor
  · intro h
    cases h with
    | clash _ hb h => exact ⟨hb rfl, .inl ⟨h, rfl⟩⟩
    | @quotient m n hn h =>
      exact ⟨by simpa [Number.isZero] using hn, .inr ⟨m, n, rfl, rfl, h, rfl⟩⟩
  · intro ⟨hb, h⟩
    rcases h with ⟨h, hcause⟩ | ⟨m, n, hm, hn, h, hcause⟩
    · rw [hcause]
      exact .clash (by simp) (fun _ => hb) h
    · rw [hn] at hb
      rw [hm, hn, hcause]
      exact .quotient (by simpa [Number.isZero] using hb) h

theorem compute_arithmetic_iff :
    op.compute quoted a b = .error (.arithmetic cause) ↔ op.Overflows a b cause := by
  unfold compute applyNumbers
  cases op with
  | add | sub | mul =>
    rw [overflows_iff (by decide) (by decide), ← Number.mixed_error_iff]
    exact Result.mapError_arithmetic_iff
  | div =>
    rw [overflows_div_iff]
    dsimp only
    by_cases hb : b.isZero = true
    · simp [hb]
    · rw [Bool.not_eq_true] at hb
      rw [if_neg (by simp [hb]), Result.mapError_arithmetic_iff, Number.div_error_iff hb]
      exact (and_iff_right hb).symm
  | pow =>
    constructor
    · intro h
      dsimp only at h
      cases hpow : a.pow b with
      | error cause =>
        rw [hpow] at h
        cases h
      | ok x =>
        rw [hpow] at h
        cases h
    · intro h
      cases h with
      | clash hop => exact absurd rfl hop

/-- There is no third kind of faults. -/
theorem compute_error (h : op.compute quoted a b = .error e) :
    (∃ cause, e = .evaluation cause) ∨ ∃ cause, e = .arithmetic cause := by
  unfold compute applyNumbers at h
  cases op with
  | add | sub | mul => exact .inr (Result.mapError_arithmetic h)
  | div =>
    dsimp only at h
    split at h
    · cases h
      exact .inl ⟨_, rfl⟩
    · exact .inr (Result.mapError_arithmetic h)
  | pow =>
    dsimp only at h
    cases hpow : a.pow b with
    | error cause =>
      rw [hpow] at h
      cases h
      exact .inl ⟨_, rfl⟩
    | ok x =>
      rw [hpow] at h
      cases h

end Operator

namespace Formula

/-- Names that stand for integers or for nothing, and never for a fault. -/
def answering (value : String → Option Int) : Integers := fun name => .ok (value name)

/-- Somewhere in a formula, as the first fault from the left, an operation overflows. -/
inductive Overflows (resolve : Integers) : Formula → ArithmeticFault → Prop where
  | left {op : Operator} {l r : Formula} {cause : ArithmeticFault} :
      l.Overflows resolve cause → Overflows resolve (.operation op l r) cause
  | right {op : Operator} {l r : Formula} {a : Number} {cause : ArithmeticFault} :
      l.number resolve = .ok a → r.Overflows resolve cause →
      Overflows resolve (.operation op l r) cause
  | here {op : Operator} {l r : Formula} {a b : Number} {cause : ArithmeticFault} :
      l.number resolve = .ok a → r.number resolve = .ok b → op.Overflows a b cause →
      Overflows resolve (.operation op l r) cause

variable {value : String → Option Int} {f : Formula} {cause : ArithmeticFault} {e : Fault}

theorem lookUp_error {name : String} (h : lookUp (answering value) name = .error e) :
    e = .evaluation (.noValue name) := by
  have hread : answering value name = .ok (value name) := rfl
  rw [lookUp, hread] at h
  cases hvalue : value name with
  | none =>
    rw [hvalue] at h
    cases h
    rfl
  | some n =>
    rw [hvalue] at h
    cases h

theorem number_operation_error_iff {resolve : Integers} {op : Operator} {l r : Formula} :
    (operation op l r).number resolve = .error e ↔
      l.number resolve = .error e ∨
      ∃ a, l.number resolve = .ok a ∧
        (r.number resolve = .error e ∨
          ∃ b, r.number resolve = .ok b ∧
            op.compute (text (.operation op l r)) a b = .error e) := by
  rw [number, Result.bind_error_iff]
  simp only [Result.bind_error_iff]

/-- Looking up and reckoning have two kinds of faults. -/
theorem number_error (h : f.number (answering value) = .error e) :
    (∃ cause, e = .evaluation cause) ∨ ∃ cause, e = .arithmetic cause := by
  induction f with
  | operand name => exact .inl ⟨_, lookUp_error h⟩
  | operation op l r ihl ihr =>
    rcases number_operation_error_iff.mp h with hl | ⟨a, _, hr | ⟨b, _, hop⟩⟩
    · exact ihl hl
    · exact ihr hr
    · exact op.compute_error hop

theorem number_arithmetic_iff :
    f.number (answering value) = .error (.arithmetic cause) ↔
      f.Overflows (answering value) cause := by
  induction f with
  | operand name =>
    constructor
    · intro h
      cases lookUp_error h
    · intro h
      cases h
  | operation op l r ihl ihr =>
    rw [number_operation_error_iff, ihl, ihr]
    simp only [Operator.compute_arithmetic_iff]
    constructor
    · intro h
      rcases h with hl | ⟨a, ha, hr | ⟨b, hb, hop⟩⟩
      · exact .left hl
      · exact .right ha hr
      · exact .here ha hb hop
    · intro h
      cases h with
      | left hl => exact .inl hl
      | right ha hr => exact .inr ⟨_, ha, .inl hr⟩
      | here ha hb hop => exact .inr ⟨_, ha, .inr ⟨_, hb, hop⟩⟩

/-- Where a formula fails that has values for all that it needs: on the way, or at the end. -/
def Escapes (resolve : Integers) (f : Formula) (cause : ArithmeticFault) : Prop :=
  f.Overflows resolve cause ∨ ∃ x, f.number resolve = .ok x ∧ x.Unroundable cause

/-- What has a value in the integers never leaves them. -/
theorem number_integer (value : String → Option Int) {size : String → Int} {n : Int}
    (h : f.inIntegers? size = some n) :
    (∃ m, f.number (answering value) = .ok (.int m)) ∨
      ∃ cause, f.number (answering value) = .error (.evaluation cause) := by
  induction f generalizing n with
  | operand name =>
    cases hread : lookUp (answering value) name with
    | error e => exact .inr ⟨_, by rw [number, hread, lookUp_error hread]⟩
    | ok x =>
      obtain ⟨m, _, rfl⟩ := lookUp_ok hread
      exact .inl ⟨m, hread⟩
  | operation op l r ihl ihr =>
    obtain ⟨combine, a, b, hop, ha, hb, _⟩ := inIntegers?_operation_iff.mp h
    rcases ihl ha with ⟨m, hl⟩ | ⟨cause, hl⟩
    · rcases ihr hb with ⟨n, hr⟩ | ⟨cause, hr⟩
      · refine .inl ⟨combine m n, ?_⟩
        rw [number, hl, hr]
        exact Operator.compute_int hop _ m n
      · refine .inr ⟨cause, ?_⟩
        rw [number, hl, hr]
        rfl
    · refine .inr ⟨cause, ?_⟩
      rw [number, hl]
      rfl

theorem evaluate_error_iff :
    f.evaluate (answering value).resolver = .error e ↔ f.number (answering value) = .error e ∨
      ∃ x, f.number (answering value) = .ok x ∧ x.round.mapError Fault.arithmetic = .error e := by
  rw [evaluate_resolver, Result.bind_error_iff]

theorem evaluate_arithmetic_iff :
    f.evaluate (answering value).resolver = .error (.arithmetic cause) ↔
      f.Escapes (answering value) cause := by
  rw [evaluate_error_iff, number_arithmetic_iff]
  simp only [Result.mapError_arithmetic_iff, Number.round_error_iff, Escapes]

/-- A formula gives an integer, or has no value, or its arithmetic goes beyond the doubles; and that is
exactly where an operation overflows, or where the double at the end is no number. It can not happen
without a quotient or a power. -/
theorem evaluation_fails_iff (value : String → Option Int) (f : Formula) :
    ((∃ n, f.evaluate (answering value).resolver = .ok n) ∨
      (∃ cause, f.evaluate (answering value).resolver = .error (.evaluation cause)) ∨
      ∃ cause, f.evaluate (answering value).resolver = .error (.arithmetic cause)) ∧
    (∀ cause, f.evaluate (answering value).resolver = .error (.arithmetic cause) ↔
      f.Escapes (answering value) cause) ∧
    ((∃ size n, f.inIntegers? size = some n) → ∀ cause, ¬ f.Escapes (answering value) cause) := by
  refine ⟨?_, fun cause => evaluate_arithmetic_iff, ?_⟩
  · cases h : f.evaluate (answering value).resolver with
    | ok n => exact .inl ⟨n, rfl⟩
    | error e =>
      have hkind : (∃ cause, e = .evaluation cause) ∨ ∃ cause, e = .arithmetic cause := by
        rcases evaluate_error_iff.mp h with hnumber | ⟨x, _, hround⟩
        · exact number_error hnumber
        · exact .inr (Result.mapError_arithmetic hround)
      rcases hkind with ⟨cause, rfl⟩ | ⟨cause, rfl⟩
      · exact .inr (.inl ⟨cause, rfl⟩)
      · exact .inr (.inr ⟨cause, rfl⟩)
  · intro ⟨size, n, hn⟩ cause hescapes
    have hnumber := number_integer value hn
    rcases hescapes with hover | ⟨x, hx, hround⟩
    · rw [number_arithmetic_iff.mpr hover] at hnumber
      simp at hnumber
    · rw [hx] at hnumber
      cases hround <;> simp at hnumber

/-- Sums of integers are safe, and quotients are not. -/
theorem evaluation_fails_iff_vast :
    ¬ (operation .add (.operand "A") (.operand "B")).Escapes
      (answering fun _ => some (10 ^ 400)) .roundInfinity ∧
    (operation .div (.operand "A") (.operand "B")).Escapes
      (answering fun name => if name = "A" then some (10 ^ 400) else some 1) .quotientTooLarge := by
  constructor
  · exact (evaluation_fails_iff _ _).2.2 ⟨fun _ => 0, 0, rfl⟩ _
  · exact .inl (.here rfl rfl (.quotient (by decide) (by decide +kernel)))

/-- An integer of four hundred and one digits is divided by one. -/
theorem quotient_escapes :
    (operation .div (.operand "A") (.operand "B")).evaluate
      (answering fun name => if name = "A" then some (10 ^ 400) else some 1).resolver =
      .error (.arithmetic .quotientTooLarge) := by
  rw [evaluate_arithmetic_iff]
  exact .inl (.here rfl rfl (.quotient (by decide) (by decide +kernel)))

end Formula

end CharacterSheet
