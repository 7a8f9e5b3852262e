import CharacterSheet.Formula.Evaluation
import CharacterSheet.Proofs.Settled

/-! Formulas over integers. Where each name stands for an integer or for nothing, no operation meets
anything but numbers, so a formula is reckoned in numbers throughout and rounded at the end. Days, spans
of time and texts do not come in. Without a quotient or a power the numbers stay integers, and nothing
is rounded. -/

namespace CharacterSheet

namespace Operator

/-- An operation on two numbers, with the text that its faults quote. -/
def compute (op : Operator) (quoted : String) (a b : Number) : Result Number :=
  op.applyNumbers (.operand quoted) a b

/-- A fault quotes no more of a formula than its text. -/
theorem applyNumbers_eq_compute (op : Operator) (f : Formula) :
    op.applyNumbers f = op.compute f.text := by
  cases op <;> rfl

theorem apply_ofNumber (op : Operator) (f : Formula) (a b : Number) :
    op.apply f (.ofNumber a) (.ofNumber b) = (op.compute f.text a b).map .ofNumber := by
  have hnumber (n : Number) : (Operand.ofNumber n).number? = some n := by
    cases n <;> rfl
  rw [apply, hnumber, hnumber]
  show (op.applyNumbers f a b >>= fun n => .ok (Operand.ofNumber n)) = _
  rw [applyNumbers_eq_compute]
  cases op.compute f.text a b <;> rfl

/-- What integers give where nothing is divided and no power taken. -/
def inIntegers? : Operator → Option (Int → Int → Int)
  | .add => some (· + ·)
  | .sub => some (· - ·)
  | .mul => some (· * ·)
  | .div | .pow => none

theorem compute_int {op : Operator} {combine : Int → Int → Int}
    (h : op.inIntegers? = some combine) (quoted : String) (m n : Int) :
    op.compute quoted (.int m) (.int n) = .ok (.int (combine m n)) := by
  cases op <;> cases h <;> rfl

end Operator

namespace Formula

/-- What names stand for where it is integers. -/
abbrev Integers := String → Result (Option Int)

def Integers.resolver (resolve : Integers) : Resolver := fun name => do
  return (← resolve name).map .int

/-- An operand as a number. -/
def lookUp (resolve : Integers) (name : String) : Result Number := do
  match ← resolve name with
  | some n => return .int n
  | none => .error (.evaluation (.noValue name))

def number (resolve : Integers) : Formula → Result Number
  | .operand name => lookUp resolve name
  | .operation op l r => do
    let a ← l.number resolve
    let b ← r.number resolve
    op.compute (text (.operation op l r)) a b

variable {resolve : Integers}

theorem operandValue_resolver (name : String) :
    operandValue resolve.resolver name = (lookUp resolve name).map .ofNumber := by
  unfold operandValue lookUp Integers.resolver
  cases resolve name with
  | error e => rfl
  | ok v => cases v <;> rfl

theorem value_resolver (f : Formula) :
    f.value resolve.resolver = (f.number resolve).map .ofNumber := by
  induction f with
  | operand name =>
    rw [value, operandValue_resolver, number]
    cases hread : lookUp resolve name with
    | error e => rfl
    | ok n => cases n <;> rfl
  | operation op l r ihl ihr =>
    rw [value, ihl, ihr, number]
    cases l.number resolve with
    | error e => rfl
    | ok a =>
      cases r.number resolve with
      | error e => rfl
      | ok b => exact op.apply_ofNumber _ a b

theorem lookUp_ok {name : String} {x : Number} (h : lookUp resolve name = .ok x) :
    ∃ n, resolve name = .ok (some n) ∧ x = .int n := by
  unfold lookUp at h
  cases hread : resolve name with
  | error e =>
    rw [hread] at h
    cases h
  | ok v =>
    rw [hread] at h
    cases v with
    | none => cases h
    | some n =>
      cases h
      exact ⟨n, rfl, rfl⟩

/-- The number that a formula gives is rounded, also where it is a lone operand: an integer has
nothing behind its point to cut off. -/
theorem evaluate_resolver (f : Formula) :
    f.evaluate resolve.resolver =
      f.number resolve >>= fun n => n.round.mapError .arithmetic := by
  cases f with
  | operand name =>
    rw [evaluate, operandValue_resolver, number]
    cases hread : lookUp resolve name with
    | error e => rfl
    | ok x =>
      obtain ⟨n, _, rfl⟩ := lookUp_ok hread
      rfl
  | operation op l r =>
    show ((operation op l r).value resolve.resolver >>= rounded) = _
    rw [value_resolver]
    cases (operation op l r).number resolve with
    | error e => rfl
    | ok x => cases x <;> rfl

/-- The value of a formula in the integers, if there is nothing in it that leads out of them. -/
def inIntegers? (value : String → Int) : Formula → Option Int
  | .operand name => some (value name)
  | .operation op l r => do
    return (← op.inIntegers?) (← l.inIntegers? value) (← r.inIntegers? value)

variable {value : String → Int} {f l r : Formula} {op : Operator} {n : Int}

theorem inIntegers?_operation_iff : (operation op l r).inIntegers? value = some n ↔
    ∃ combine a b, op.inIntegers? = some combine ∧ l.inIntegers? value = some a ∧
      r.inIntegers? value = some b ∧ n = combine a b := by
  rw [inIntegers?]
  cases op.inIntegers? <;> cases l.inIntegers? value <;> cases r.inIntegers? value <;>
    simp [eq_comm]

theorem exists_inIntegers? (value : String → Int)
    (h : ∀ t ∈ f.tokens, t ≠ "/" ∧ t ≠ "^") : ∃ n, f.inIntegers? value = some n := by
  induction f with
  | operand name => exact ⟨value name, rfl⟩
  | operation op l r ihl ihr =>
    simp only [tokens, List.mem_append, List.mem_singleton] at h
    obtain ⟨a, ha⟩ := ihl fun t ht => h t (.inl (.inl ht))
    obtain ⟨b, hb⟩ := ihr fun t ht => h t (.inl (.inr ht))
    have hop := h op.symbol (.inr rfl)
    obtain ⟨combine, he⟩ : ∃ combine, op.inIntegers? = some combine := by
      cases op with
      | div => exact absurd rfl hop.1
      | pow => exact absurd rfl hop.2
      | _ => exact ⟨_, rfl⟩
    exact ⟨combine a b, inIntegers?_operation_iff.mpr ⟨combine, a, b, he, ha, hb, rfl⟩⟩

/-- Integers of any size are reckoned exactly. -/
theorem number_of_inIntegers?
    (hresolve : ∀ name ∈ f.operands, resolve name = .ok (some (value name)))
    (h : f.inIntegers? value = some n) : f.number resolve = .ok (.int n) := by
  induction f generalizing n with
  | operand name =>
    cases h
    rw [number, lookUp, hresolve name List.mem_cons_self]
    rfl
  | operation op l r ihl ihr =>
    obtain ⟨combine, a, b, hop, ha, hb, rfl⟩ := inIntegers?_operation_iff.mp h
    rw [number, ihl (fun name hname => hresolve name (List.mem_append_left _ hname)) ha,
      ihr (fun name hname => hresolve name (List.mem_append_right _ hname)) hb]
    exact Operator.compute_int hop _ a b

end Formula

end CharacterSheet
