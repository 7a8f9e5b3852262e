import CharacterSheet.Proofs.Postfix
import CharacterSheet.Proofs.Reckoning
import CharacterSheet.Proofs.Result

/-! Formulas as programs. A machine reads the tokens from left to right and keeps numbers on a stack: an
operand is looked up and put on top, and an operator takes the two numbers on top and puts back what it
makes of them. The tokens of one formula leave its value on top of the stack as it was before, and fail
where the value fails; so a formula is evaluated as its tokens are run. -/

namespace CharacterSheet.Formula

/-- What the machine has on its stack: a number, and the tokens it came from, for the faults to
quote. -/
structure Entry where
  source : List String
  value : Number

namespace Machine

def compute (op : Operator) (left right : Entry) : Result Entry :=
  let source := left.source ++ right.source ++ [op.symbol]
  (op.compute (Text.join "|" source) left.value right.value).map (Entry.mk source)

/-- The number on top is the right one. -/
def step (resolve : Integers) (stack : List Entry) (token : String) : Result (List Entry) :=
  match Operator.ofSymbol? token with
  | some op => match stack with
    | right :: left :: rest => do return (← compute op left right) :: rest
    | _ => .error .outOfRange
  | none => do return ⟨[token], ← lookUp resolve token⟩ :: stack

def steps (resolve : Integers) (stack : List Entry) (ts : List String) : Result (List Entry) :=
  ts.foldlM (step resolve) stack

/-- One number is left in the end, and it is rounded. -/
def run (resolve : Integers) (ts : List String) : Result Int := do
  match ← steps resolve [] ts with
  | [e] => e.value.round.mapError .arithmetic
  | _ => .error .outOfRange

/-- Why a token can not be run: what it names can not be looked up or has no value, or its operation
fails on the two numbers on top. -/
inductive Stops (resolve : Integers) (stack : List Entry) : String → Fault → Prop where
  | unread {name : String} {e : Fault} : isOperator name = false → resolve name = .error e →
      Stops resolve stack name e
  | unresolved {name : String} : isOperator name = false → resolve name = .ok none →
      Stops resolve stack name (.evaluation (.noValue name))
  | failed {op : Operator} {left right : Entry} {rest : List Entry} {e : Fault} :
      stack = right :: left :: rest → compute op left right = .error e →
      Stops resolve stack op.symbol e

/-- Why a program fails: the tokens before one of them can be run and that one can not, or all of them
can and the number that is left can not be rounded. -/
inductive Fails (resolve : Integers) (ts : List String) (e : Fault) : Prop where
  | early (before : List String) (token : String) (after : List String) (stack : List Entry) :
      ts = before ++ token :: after → steps resolve [] before = .ok stack →
      Stops resolve stack token e → Fails resolve ts e
  | late (entry : Entry) (cause : ArithmeticFault) : steps resolve [] ts = .ok [entry] →
      entry.value.round = .error cause → e = .arithmetic cause → Fails resolve ts e

section

variable {resolve : Integers} {stack stack' : List Entry} {token : String} {ts : List String}
  {e : Fault}

theorem step_operand (h : isOperator token = false) :
    step resolve stack token = do return ⟨[token], ← lookUp resolve token⟩ :: stack := by
  unfold step
  cases ht : Operator.ofSymbol? token with
  | some op => simp [isOperator, ht] at h
  | none => rfl

theorem step_operator (op : Operator) (left right : Entry) :
    step resolve (right :: left :: stack) op.symbol = do
      return (← compute op left right) :: stack := by
  unfold step
  rw [Operator.ofSymbol?_symbol]

theorem steps_append (before after : List String) :
    steps resolve stack (before ++ after) =
      steps resolve stack before >>= fun mid => steps resolve mid after :=
  List.foldlM_append

/-- What the machine quotes of an operation is the text of its formula. -/
theorem compute_tokens (op : Operator) (l r : Formula) (a b : Number) :
    compute op ⟨l.tokens, a⟩ ⟨r.tokens, b⟩ =
      (op.compute (text (operation op l r)) a b).map (Entry.mk (tokens (operation op l r))) := by
  rw [text_eq_join]
  rfl

/-- The tokens of a formula put its value on the stack, whatever is run after them. -/
theorem steps_tokens {f : Formula} (h : f.WellNamed) (stack : List Entry) (rest : List String) :
    steps resolve stack (f.tokens ++ rest) =
      f.number resolve >>= fun v => steps resolve (⟨f.tokens, v⟩ :: stack) rest := by
  induction f generalizing stack rest with
  | operand name =>
    have hname := (h name List.mem_cons_self).operand
    show (step resolve stack name >>= fun mid => steps resolve mid rest) = _
    rw [step_operand hname, number]
    cases lookUp resolve name <;> rfl
  | operation op l r ihl ihr =>
    have hl : l.WellNamed := fun s hs => h s (List.mem_append_left _ hs)
    have hr : r.WellNamed := fun s hs => h s (List.mem_append_right _ hs)
    rw [number, tokens, List.append_assoc, List.append_assoc, ihl hl]
    cases l.number resolve with
    | error e => rfl
    | ok a =>
      -- the left value waits below while the tokens of the right formula are run
      show steps resolve (⟨l.tokens, a⟩ :: stack) (r.tokens ++ ([op.symbol] ++ rest)) = _
      rw [ihr hr]
      cases r.number resolve with
      | error e => rfl
      | ok b =>
        show (step resolve (⟨r.tokens, b⟩ :: ⟨l.tokens, a⟩ :: stack) op.symbol >>=
          fun mid => steps resolve mid rest) = _
        rw [step_operator, compute_tokens]
        show _ = op.compute (text (operation op l r)) a b >>= _
        cases op.compute (text (operation op l r)) a b <;> rfl

theorem run_tokens {f : Formula} (h : f.WellNamed) :
    run resolve f.tokens = f.evaluate resolve.resolver := by
  have hsteps : steps resolve [] (f.tokens ++ []) = _ := steps_tokens h [] []
  rw [List.append_nil] at hsteps
  rw [run, hsteps, evaluate_resolver]
  cases f.number resolve <;> rfl

/-! ## Where a program fails -/

theorem length_of_step (h : step resolve stack token = .ok stack') :
    (isOperator token = true → 2 ≤ stack.length) ∧
      stack'.length = heightAfter stack.length token := by
  cases ht : Operator.ofSymbol? token with
  | none =>
    have hop : isOperator token = false := by simp [isOperator, ht]
    rw [step_operand hop] at h
    obtain ⟨v, _, h⟩ := Result.bind_ok h
    cases h
    simp [hop, heightAfter]
  | some op =>
    have hop : isOperator token = true := by simp [isOperator, ht]
    unfold step at h
    simp only [ht] at h
    split at h
    · obtain ⟨entry, _, h⟩ := Result.bind_ok h
      cases h
      simp [hop, heightAfter]
    · cases h

theorem length_of_steps (h : steps resolve stack ts = .ok stack') :
    stack'.length + operatorCount ts = stack.length + operandCount ts := by
  induction ts generalizing stack with
  | nil =>
    cases h
    simp [operatorCount, operandCount]
  | cons t ts ih =>
    obtain ⟨mid, hstep, hsteps⟩ := Result.bind_ok h
    obtain ⟨hheight, hlength⟩ := length_of_step hstep
    have := height_cons hheight ts
    have := ih hsteps
    omega

/-- With two numbers for every operator the machine never lacks any. -/
theorem step_error_iff (hheight : isOperator token = true → 2 ≤ stack.length) :
    step resolve stack token = .error e ↔ Stops resolve stack token e := by
  cases ht : Operator.ofSymbol? token with
  | none =>
    have hop : isOperator token = false := by simp [isOperator, ht]
    rw [step_operand hop, lookUp]
    constructor
    · intro h
      cases hread : resolve token with
      | error e' =>
        rw [hread] at h
        cases h
        exact .unread hop hread
      | ok v =>
        rw [hread] at h
        cases v with
        | none =>
          cases h
          exact .unresolved hop hread
        | some n => cases h
    · intro h
      cases h with
      | unread _ hread =>
        rw [hread]
        rfl
      | unresolved _ hread =>
        rw [hread]
        rfl
      | failed => rw [isOperator_symbol] at hop; cases hop
  | some op =>
    have hop : isOperator token = true := by simp [isOperator, ht]
    obtain rfl := symbol_of_ofSymbol? ht
    obtain ⟨right, left, rest, rfl⟩ := exists_of_two_le_length (hheight hop)
    rw [step_operator]
    constructor
    · intro h
      rcases Result.bind_error_iff.mp h with h | ⟨entry, _, h⟩
      · exact .failed rfl h
      · cases h
    · intro h
      generalize hsymbol : op.symbol = token at h
      cases h with
      | unread hname =>
        rw [hsymbol, hname] at hop
        cases hop
      | unresolved hname =>
        rw [hsymbol, hname] at hop
        cases hop
      | @failed op' left' right' rest' e' hstack hfail =>
        obtain rfl : op = op' := by
          have hboth := congrArg Operator.ofSymbol? hsymbol
          simpa [Operator.ofSymbol?_symbol] using hboth
        cases hstack
        rw [hfail]
        rfl

theorem steps_error_iff : steps resolve stack ts = .error e ↔
    ∃ before token after mid, ts = before ++ token :: after ∧
      steps resolve stack before = .ok mid ∧ step resolve mid token = .error e := by
  constructor
  · intro h
    induction ts generalizing stack with
    | nil => cases h
    | cons t ts ih =>
      rcases Result.bind_error_iff.mp h with hstep | ⟨mid, hstep, hsteps⟩
      · exact ⟨[], t, ts, stack, rfl, rfl, hstep⟩
      · obtain ⟨before, token, after, last, rfl, hbefore, hlast⟩ := ih hsteps
        refine ⟨t :: before, token, after, last, rfl, ?_, hlast⟩
        show (step resolve stack t >>= fun mid => steps resolve mid before) = _
        rw [hstep]
        exact hbefore
  · intro ⟨before, token, after, mid, he, hbefore, hstep⟩
    rw [he, steps_append, hbefore]
    show (step resolve mid token >>= fun mid => steps resolve mid after) = _
    rw [hstep]
    rfl

theorem run_error_iff (h : IsPostfix ts) : run resolve ts = .error e ↔ Fails resolve ts e := by
  -- the stack is as high as the counts of the tokens before tell, so no operator lacks numbers
  have hheight {before after : List String} {token : String} {mid : List Entry}
      (he : ts = before ++ token :: after) (hmid : steps resolve [] before = .ok mid)
      (hop : isOperator token = true) : 2 ≤ mid.length := by
    have := h.supplied before token after he hop
    have hlength := length_of_steps hmid
    rw [List.length_nil] at hlength
    omega
  rw [run, Result.bind_error_iff]
  constructor
  · intro hrun
    rcases hrun with hsteps | ⟨stack, hsteps, hround⟩
    · obtain ⟨before, token, after, mid, he, hmid, hstep⟩ := steps_error_iff.mp hsteps
      exact .early before token after mid he hmid ((step_error_iff (hheight he hmid)).mp hstep)
    · obtain ⟨entry, rfl⟩ : ∃ entry, stack = [entry] := by
        have hlength := length_of_steps hsteps
        have := h.single
        rw [List.length_nil] at hlength
        rw [← List.length_eq_one_iff]
        omega
      cases hvalue : entry.value.round with
      | error cause =>
        simp only [hvalue] at hround
        cases hround
        exact .late entry cause hsteps hvalue rfl
      | ok n =>
        simp only [hvalue] at hround
        cases hround
  · intro hfails
    cases hfails with
    | early before token after mid he hmid hstops =>
      refine .inl (steps_error_iff.mpr ⟨before, token, after, mid, he, hmid, ?_⟩)
      exact (step_error_iff (hheight he hmid)).mpr hstops
    | late entry cause hsteps hround he =>
      refine .inr ⟨[entry], hsteps, ?_⟩
      dsimp only
      rw [hround, he]
      rfl

end

end Machine

/-- A formula is evaluated as the machine runs the tokens that it was read from: both give the same
integer, and evaluating fails where the machine stops. Where nothing is divided and no power taken, it
is the value in the integers. -/
theorem evaluation_runs_tokens {ts : List String} {f : Formula} (h : ofTokens? ts = .ok f)
    (resolve : Integers) :
    f.evaluate resolve.resolver = Machine.run resolve (ts.map Text.trim) ∧
    (∀ e, f.evaluate resolve.resolver = .error e ↔ Machine.Fails resolve (ts.map Text.trim) e) ∧
    ((∀ t ∈ ts, Text.trim t ≠ "/" ∧ Text.trim t ≠ "^") → ∀ value : String → Int,
      (∀ name ∈ f.operands, resolve name = .ok (some (value name))) →
      ∃ n, f.inIntegers? value = some n ∧ f.evaluate resolve.resolver = .ok n) := by
  obtain ⟨hnamed, htokens⟩ := ofTokens?_ok_iff.mp h
  have hpostfix : IsPostfix f.tokens := by
    rw [htokens]
    exact exists_ofTokens?_iff.mp ⟨f, h⟩
  rw [← htokens]
  refine ⟨(Machine.run_tokens hnamed).symm, ?_, ?_⟩
  · intro e
    rw [← Machine.run_tokens hnamed]
    exact Machine.run_error_iff hpostfix
  · intro hops value hvalue
    obtain ⟨n, hn⟩ : ∃ n, f.inIntegers? value = some n := by
      apply exists_inIntegers?
      intro t ht
      rw [htokens, List.mem_map] at ht
      obtain ⟨s, hs, rfl⟩ := ht
      exact hops s hs
    refine ⟨n, hn, ?_⟩
    rw [evaluate_resolver, number_of_inIntegers? hvalue hn]
    rfl

/-- An integer of a thousand digits. -/
def vastSize : Int := Int.pow 10 1000

/-- Names for two integers. -/
def vast : Integers
  | "A" => .ok (some vastSize)
  | "B" => .ok (some (-7))
  | _ => .ok none

theorem evaluation_runs_tokens_vast :
    (∃ f, ofTokens? ["B", " A ", "-", "B", "*"] = .ok f ∧
      Machine.run vast ["B", "A", "-", "B", "*"] = .ok ((-7 - vastSize) * -7) ∧
      f.evaluate vast.resolver = .ok ((-7 - vastSize) * -7)) ∧
    ∃ f, ofTokens? ["A", "C", "B", "0", "/", "-", "*"] = .ok f ∧
      f.evaluate vast.resolver = .error (.evaluation (.noValue "C")) := by
  constructor
  · have hread : ofTokens? ["B", " A ", "-", "B", "*"] =
        .ok (.operation .mul (.operation .sub (.operand "B") (.operand "A")) (.operand "B")) := rfl
    obtain ⟨hrun, _, hexact⟩ := evaluation_runs_tokens hread vast
    obtain ⟨n, hn, hvalue⟩ := hexact (by decide)
      (fun name => if name = "A" then vastSize else -7) (by simp [operands, vast])
    obtain rfl : (-7 - vastSize) * -7 = n := Option.some.inj hn
    exact ⟨_, hread, hrun ▸ hvalue, hvalue⟩
  · have hread : ofTokens? ["A", "C", "B", "0", "/", "-", "*"] =
        .ok (.operation .mul (.operand "A") (.operation .sub (.operand "C")
          (.operation .div (.operand "B") (.operand "0")))) := rfl
    have hfails : Machine.Fails vast ["A", "C", "B", "0", "/", "-", "*"]
        (.evaluation (.noValue "C")) :=
      .early ["A"] "C" _ _ rfl rfl (.unresolved rfl rfl)
    exact ⟨_, hread, ((evaluation_runs_tokens hread vast).2.1 _).mpr hfails⟩

end CharacterSheet.Formula
