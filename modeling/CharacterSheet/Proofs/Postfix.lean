import CharacterSheet.Proofs.IntegerText
import CharacterSheet.Proofs.Settled

/-! Formulas and their tokens. Reading puts an operand on the stack and takes two formulas off it for an
operator, so counting operands and operators tells how high the stack is, and whether the tokens can be
read. Written from the bottom up, the formulas on the stack are the tokens that were read, and a formula
whose tokens are read ends up on top of the stack as it was before. So reading and writing are inverse
to each other. -/

namespace CharacterSheet.Formula

def isOperator (token : String) : Bool := (Operator.ofSymbol? token).isSome

def operatorCount (ts : List String) : Nat := ts.countP isOperator

def operandCount (ts : List String) : Nat := ts.countP fun t => !isOperator t

/-- The tokens of one formula: each operator comes after two operands that no operator before it has
taken, and one value is left in the end. -/
structure IsPostfix (ts : List String) : Prop where
  unblank : ∀ t ∈ ts, t ≠ ""
  supplied : ∀ before op after, ts = before ++ op :: after → isOperator op = true →
    operatorCount before + 2 ≤ operandCount before
  single : operandCount ts = operatorCount ts + 1

/-- A text that is read as an operand, and as it is. -/
structure IsName (s : String) : Prop where
  unblank : s ≠ ""
  trimmed : Text.trim s = s
  operand : isOperator s = false

def WellNamed (f : Formula) : Prop := ∀ s ∈ f.operands, IsName s

theorem isOperator_symbol (op : Operator) : isOperator op.symbol = true := by
  rw [isOperator, Operator.ofSymbol?_symbol]
  rfl

theorem symbol_of_ofSymbol? {s : String} {op : Operator} (h : Operator.ofSymbol? s = some op) :
    op.symbol = s := by
  have hfound := List.find?_some h
  simpa using hfound

/-! ## Reading -/

/-- Tokens that can be read onto a stack of this height. -/
structure Readable (height : Nat) (ts : List String) : Prop where
  unblank : ∀ t ∈ ts, t ≠ ""
  supplied : ∀ before op after, ts = before ++ op :: after → isOperator op = true →
    operatorCount before + 2 ≤ height + operandCount before

theorem readable_nil (height : Nat) : Readable height [] where
  unblank := by simp
  supplied := by simp

/-- The height of the stack after a token. -/
def heightAfter (height : Nat) (token : String) : Nat :=
  if isOperator token then height - 1 else height + 1

/-- Where operators have their operands, the height is what the counts tell. -/
theorem height_cons {height : Nat} {t : String} (h : isOperator t = true → 2 ≤ height)
    (ts : List String) :
    height + operandCount (t :: ts) + operatorCount ts =
      heightAfter height t + operandCount ts + operatorCount (t :: ts) := by
  by_cases ht : isOperator t = true
  · have := h ht
    simp [operatorCount, operandCount, heightAfter, ht]
    omega
  · simp [operatorCount, operandCount, heightAfter, ht]
    omega

theorem readable_cons_iff {height : Nat} {t : String} {r : List String} :
    Readable height (t :: r) ↔
      t ≠ "" ∧ (isOperator t = true → 2 ≤ height) ∧ Readable (heightAfter height t) r := by
  constructor
  · intro h
    have hfirst : isOperator t = true → 2 ≤ height := by
      intro ht
      simpa [operatorCount, operandCount] using h.supplied [] t r rfl ht
    refine ⟨h.unblank t (by simp), hfirst, fun s hs => h.unblank s (by simp [hs]), ?_⟩
    intro before op after he hop
    have hsupplied := h.supplied (t :: before) op after (by simp [he]) hop
    have := height_cons hfirst before
    omega
  · intro ⟨hblank, hfirst, h⟩
    refine ⟨by simpa [hblank] using h.unblank, ?_⟩
    intro before op after he hop
    cases before with
    | nil =>
      obtain ⟨rfl, _⟩ := List.cons.inj he
      simpa [operatorCount, operandCount] using hfirst hop
    | cons s before =>
      obtain ⟨rfl, hr⟩ := List.cons.inj he
      have hsupplied := h.supplied before op after hr hop
      have := height_cons hfirst before
      omega

section Pushing

variable {whole ts : List String} {stack stack' : List Formula} {t : String}

/-- What one token does to the stack. -/
theorem push_ok_iff : push whole stack t = .ok stack' ↔
    (∃ op l r rest, t = op.symbol ∧ stack = r :: l :: rest ∧
      stack' = .operation op l r :: rest) ∨
    (isOperator t = false ∧ t ≠ "" ∧ stack' = .operand t :: stack) := by
  unfold push
  cases ht : Operator.ofSymbol? t with
  | some op =>
    have hsymbol := symbol_of_ofSymbol? ht
    have hop : isOperator t = true := by simp [isOperator, ht]
    constructor
    · intro h
      dsimp only at h
      split at h
      · rename_i r l rest
        cases h
        exact .inl ⟨op, l, r, rest, hsymbol.symm, rfl, rfl⟩
      · cases h
    · intro h
      rcases h with ⟨op', l, r, rest, rfl, rfl, rfl⟩ | ⟨hno, _⟩
      · rw [Operator.ofSymbol?_symbol] at ht
        cases ht
        rfl
      · rw [hop] at hno
        cases hno
  | none =>
    have hop : isOperator t = false := by simp [isOperator, ht]
    constructor
    · intro h
      dsimp only at h
      split at h
      · cases h
      · rename_i hblank
        cases h
        exact .inr ⟨hop, by simpa using hblank, rfl⟩
    · intro h
      rcases h with ⟨op', l, r, rest, rfl, rfl, rfl⟩ | ⟨_, hblank, rfl⟩
      · rw [isOperator_symbol] at hop
        cases hop
      · simp [hblank]

theorem exists_of_two_le_length {α : Type} {xs : List α} (h : 2 ≤ xs.length) :
    ∃ x y r, xs = x :: y :: r := by
  cases xs with
  | nil => simp at h
  | cons x xs =>
    cases xs with
    | nil => simp at h
    | cons y r => exact ⟨x, y, r, rfl⟩

theorem exists_push_iff : (∃ stack', push whole stack t = .ok stack') ↔
    t ≠ "" ∧ (isOperator t = true → 2 ≤ stack.length) := by
  simp only [push_ok_iff]
  constructor
  · intro ⟨stack', h⟩
    rcases h with ⟨op, l, r, rest, rfl, rfl, rfl⟩ | ⟨hop, hblank, rfl⟩
    · exact ⟨by cases op <;> decide, fun _ => by simp⟩
    · exact ⟨hblank, by simp [hop]⟩
  · intro ⟨hblank, hheight⟩
    cases ht : Operator.ofSymbol? t with
    | some op =>
      have hop : isOperator t = true := by simp [isOperator, ht]
      obtain ⟨r, l, rest, rfl⟩ := exists_of_two_le_length (hheight hop)
      exact ⟨_, .inl ⟨op, l, r, rest, (symbol_of_ofSymbol? ht).symm, rfl, rfl⟩⟩
    | none => exact ⟨_, .inr ⟨by simp [isOperator, ht], hblank, rfl⟩⟩

theorem length_of_push (h : push whole stack t = .ok stack') :
    stack'.length = heightAfter stack.length t := by
  rcases push_ok_iff.mp h with ⟨op, l, r, rest, rfl, rfl, rfl⟩ | ⟨hop, _, rfl⟩
  · simp [heightAfter, isOperator_symbol]
  · simp [heightAfter, hop]

/-- The tokens of the formulas on a stack, the lowest one first. -/
def stacked (stack : List Formula) : List String := stack.reverse.flatMap tokens

theorem stacked_of_push (h : push whole stack t = .ok stack') :
    stacked stack' = stacked stack ++ [t] := by
  rcases push_ok_iff.mp h with ⟨op, l, r, rest, rfl, rfl, rfl⟩ | ⟨_, _, rfl⟩
  · simp [stacked, tokens]
  · simp [stacked, tokens]

theorem named_of_push (h : push whole stack t = .ok stack') (ht : Text.trim t = t)
    (hstack : ∀ f ∈ stack, f.WellNamed) : ∀ f ∈ stack', f.WellNamed := by
  rcases push_ok_iff.mp h with ⟨op, l, r, rest, rfl, rfl, rfl⟩ | ⟨hop, hblank, rfl⟩
  · simp only [List.forall_mem_cons] at hstack ⊢
    obtain ⟨hr, hl, hrest⟩ := hstack
    refine ⟨?_, hrest⟩
    intro s hs
    rcases List.mem_append.mp hs with hs | hs
    · exact hl s hs
    · exact hr s hs
  · simp only [List.forall_mem_cons]
    refine ⟨?_, hstack⟩
    intro s hs
    obtain rfl := List.mem_singleton.mp hs
    exact ⟨hblank, ht, hop⟩

theorem pushAll_cons_ok_iff : pushAll whole stack (t :: ts) = .ok stack' ↔
    ∃ mid, push whole stack t = .ok mid ∧ pushAll whole mid ts = .ok stack' := by
  show (push whole stack t >>= fun mid => pushAll whole mid ts) = _ ↔ _
  cases push whole stack t with
  | error e => simp [bind, Except.bind]
  | ok mid => simp [bind, Except.bind]

/-- Whether tokens can be read depends on the height of the stack alone. -/
theorem exists_pushAll_iff :
    (∃ stack', pushAll whole stack ts = .ok stack') ↔ Readable stack.length ts := by
  induction ts generalizing stack with
  | nil => exact iff_of_true ⟨stack, rfl⟩ (readable_nil _)
  | cons t ts ih =>
    rw [readable_cons_iff, ← and_assoc, ← @exists_push_iff whole]
    simp only [pushAll_cons_ok_iff]
    constructor
    · intro ⟨stack', mid, hpush, hall⟩
      refine ⟨⟨mid, hpush⟩, ?_⟩
      rw [← length_of_push hpush]
      exact ih.mp ⟨stack', hall⟩
    · intro ⟨⟨mid, hpush⟩, hreadable⟩
      rw [← length_of_push hpush] at hreadable
      obtain ⟨stack', hall⟩ := ih.mpr hreadable
      exact ⟨stack', mid, hpush, hall⟩

/-- What reading leaves on the stack: as many formulas as the counts tell, their tokens being all that
was read, and nothing but names in them. -/
theorem pushAll_ok (h : pushAll whole stack ts = .ok stack') :
    stack'.length + operatorCount ts = stack.length + operandCount ts ∧
      stacked stack' = stacked stack ++ ts ∧
      ((∀ t ∈ ts, Text.trim t = t) → (∀ f ∈ stack, f.WellNamed) → ∀ f ∈ stack', f.WellNamed) := by
  induction ts generalizing stack with
  | nil =>
    cases h
    simp [operatorCount, operandCount]
  | cons t ts ih =>
    obtain ⟨mid, hpush, hall⟩ := pushAll_cons_ok_iff.mp h
    obtain ⟨hlength, hstacked, hnamed⟩ := ih hall
    refine ⟨?_, ?_, ?_⟩
    · rw [length_of_push hpush] at hlength
      have := height_cons (exists_push_iff.mp ⟨mid, hpush⟩).2 ts
      omega
    · rw [hstacked, stacked_of_push hpush, List.append_assoc, List.singleton_append]
    · intro htrim hstack
      rw [List.forall_mem_cons] at htrim
      exact hnamed htrim.2 (named_of_push hpush htrim.1 hstack)

/-! ## Reading what was written -/

/-- The tokens of a formula are read to that formula, whatever stack it comes on. -/
theorem pushAll_tokens {f : Formula} (h : f.WellNamed) (whole rest : List String)
    (stack : List Formula) :
    pushAll whole stack (f.tokens ++ rest) = pushAll whole (f :: stack) rest := by
  induction f generalizing stack rest with
  | operand s =>
    obtain ⟨hblank, _, hop⟩ := h s (by simp [operands])
    have hpush : push whole stack s = .ok (.operand s :: stack) :=
      push_ok_iff.mpr (.inr ⟨hop, hblank, rfl⟩)
    show (push whole stack s >>= fun mid => pushAll whole mid rest) = _
    rw [hpush]
    rfl
  | operation op l r ihl ihr =>
    have hl : l.WellNamed := fun s hs => h s (by simp [operands, hs])
    have hr : r.WellNamed := fun s hs => h s (by simp [operands, hs])
    have hpush : push whole (r :: l :: stack) op.symbol = .ok (.operation op l r :: stack) :=
      push_ok_iff.mpr (.inl ⟨op, l, r, stack, rfl, rfl, rfl⟩)
    rw [tokens, List.append_assoc, List.append_assoc, ihl hl, ihr hr]
    show (push whole (r :: l :: stack) op.symbol >>= fun mid => pushAll whole mid rest) = _
    rw [hpush]
    rfl

end Pushing

theorem tokens_ne_nil (f : Formula) : f.tokens ≠ [] := by
  cases f <;> simp [tokens]

/-- The notation of a formula is its tokens with bars between them. -/
theorem text_eq_join (f : Formula) : f.text = Text.join "|" f.tokens := by
  induction f with
  | operand s => simp [text, tokens, Text.join]
  | operation op l r ihl ihr =>
    rw [text, tokens, ihl, ihr]
    simp only [Text.join]
    rw [String.intercalate_append_of_ne_nil (by simp [tokens_ne_nil]) (by simp),
      String.intercalate_append_of_ne_nil l.tokens_ne_nil r.tokens_ne_nil,
      String.intercalate_singleton]

theorem mem_tokens {f : Formula} {s : String} (h : s ∈ f.tokens) :
    s ∈ f.operands ∨ ∃ op : Operator, s = op.symbol := by
  induction f with
  | operand name => exact .inl h
  | operation op l r ihl ihr =>
    simp only [tokens, operands, List.mem_append, List.mem_singleton] at h ⊢
    rcases h with (h | h) | h
    · exact (ihl h).imp_left .inl
    · exact (ihr h).imp_left .inr
    · exact .inr ⟨op, h⟩

theorem WellNamed.trimmed {f : Formula} (h : f.WellNamed) : ∀ t ∈ f.tokens, Text.trim t = t := by
  intro t ht
  rcases mem_tokens ht with hs | ⟨op, rfl⟩
  · exact (h t hs).trimmed
  · cases op <;> decide

theorem WellNamed.unblank {f : Formula} (h : f.WellNamed) : ∀ t ∈ f.tokens, t ≠ "" := by
  intro t ht
  rcases mem_tokens ht with hs | ⟨op, rfl⟩
  · exact (h t hs).unblank
  · cases op <;> decide

/-! ## Whole formulas -/

theorem ofTrimmed?_ok_iff {ts : List String} {f : Formula} :
    ofTrimmed? ts = .ok f ↔ ¬ ts.all String.isEmpty = true ∧ pushAll ts [] ts = .ok [f] := by
  unfold ofTrimmed?
  split
  · rename_i hblank
    simp [hblank]
  · rename_i hblank
    show (pushAll ts [] ts >>= fun stack => _) = _ ↔ _
    cases pushAll ts [] ts with
    | error e => simp [bind, Except.bind]
    | ok stack =>
      match stack with
      | [] => simp [bind, Except.bind]
      | [g] => simp [bind, Except.bind, pure, Except.pure, hblank]
      | _ :: _ :: _ => simp [bind, Except.bind]

/-- Reading undoes writing, and nothing else can be read. -/
theorem ofTokens?_ok_iff {ts : List String} {f : Formula} :
    ofTokens? ts = .ok f ↔ f.WellNamed ∧ f.tokens = ts.map Text.trim := by
  rw [ofTokens?, ofTrimmed?_ok_iff]
  constructor
  · intro ⟨_, h⟩
    obtain ⟨_, hstacked, hnamed⟩ := pushAll_ok h
    have htrim : ∀ t ∈ ts.map Text.trim, Text.trim t = t := by
      intro t ht
      obtain ⟨s, _, rfl⟩ := List.mem_map.mp ht
      exact Text.trim_trim s
    refine ⟨hnamed htrim (by simp) f (by simp), ?_⟩
    simpa [stacked] using hstacked
  · intro ⟨hnamed, he⟩
    rw [← he]
    refine ⟨?_, ?_⟩
    · obtain ⟨t, ht⟩ := List.exists_mem_of_ne_nil _ f.tokens_ne_nil
      intro hall
      exact hnamed.unblank t ht (by simpa using List.all_eq_true.mp hall t ht)
    · have hpush := pushAll_tokens hnamed f.tokens [] []
      rwa [List.append_nil] at hpush

theorem ofTokens?_tokens {f : Formula} (h : f.WellNamed) : ofTokens? f.tokens = .ok f := by
  rw [ofTokens?_ok_iff, List.map_congr_left h.trimmed, List.map_id']
  exact ⟨h, rfl⟩

theorem exists_ofTokens?_iff {ts : List String} :
    (∃ f, ofTokens? ts = .ok f) ↔ IsPostfix (ts.map Text.trim) := by
  simp only [ofTokens?, ofTrimmed?_ok_iff]
  generalize ts.map Text.trim = us
  constructor
  · intro ⟨f, _, h⟩
    have hreadable := exists_pushAll_iff.mp ⟨_, h⟩
    have hlength := (pushAll_ok h).1
    refine ⟨hreadable.unblank, ?_, ?_⟩
    · simpa using hreadable.supplied
    · simp at hlength
      omega
  · intro h
    have hreadable : Readable ([] : List Formula).length us :=
      ⟨h.unblank, by simpa using h.supplied⟩
    obtain ⟨stack, hstack⟩ : ∃ stack, pushAll us [] us = .ok stack :=
      exists_pushAll_iff.mpr hreadable
    have hlength := (pushAll_ok hstack).1
    have hsingle := h.single
    obtain ⟨f, rfl⟩ : ∃ f, stack = [f] := by
      rw [← List.length_eq_one_iff]
      simp at hlength
      omega
    refine ⟨f, ?_, hstack⟩
    intro hall
    cases us with
    | nil => simp [operandCount, operatorCount] at hsingle
    | cons t us =>
      exact h.unblank t (by simp) (by simpa using List.all_eq_true.mp hall t (by simp))

/-- Tokens can be read exactly if they are the postfix notation of one formula; the formula is then
written with the tokens that were read, and every formula is read from its own tokens. -/
theorem reading_inverts_writing (ts : List String) :
    ((∃ f, ofTokens? ts = .ok f) ∧ IsPostfix (ts.map Text.trim) ∨
      (∃ cause : RuleFault, ofTokens? ts = .error cause) ∧ ¬ IsPostfix (ts.map Text.trim)) ∧
    (∀ f, ofTokens? ts = .ok f →
      f.tokens = ts.map Text.trim ∧ f.text = Text.join "|" (ts.map Text.trim)) ∧
    ∀ f : Formula, f.WellNamed → ofTokens? f.tokens = .ok f := by
  refine ⟨?_, ?_, fun f => ofTokens?_tokens⟩
  · cases h : ofTokens? ts with
    | ok f => exact .inl ⟨⟨f, rfl⟩, exists_ofTokens?_iff.mp ⟨f, h⟩⟩
    | error cause =>
      refine .inr ⟨⟨cause, rfl⟩, fun hpostfix => ?_⟩
      obtain ⟨f, hf⟩ := exists_ofTokens?_iff.mpr hpostfix
      rw [h] at hf
      cases hf
  · intro f hf
    obtain ⟨_, htokens⟩ := ofTokens?_ok_iff.mp hf
    exact ⟨htokens, by rw [text_eq_join, htokens]⟩

/-- A product of a sum, its operands written with blanks around them. -/
theorem reading_inverts_writing_product :
    ∃ f, ofTokens? [" A ", "-B", "+", "2", "*\t"] = .ok f ∧ IsPostfix ["A", "-B", "+", "2", "*"] ∧
      f.text = "A|-B|+|2|*" ∧ ofTokens? f.tokens = .ok f := by
  have hread : ofTokens? [" A ", "-B", "+", "2", "*\t"] =
      .ok (.operation .mul (.operation .add (.operand "A") (.operand "-B")) (.operand "2")) := by
    rfl
  have htrim : [" A ", "-B", "+", "2", "*\t"].map Text.trim = ["A", "-B", "+", "2", "*"] := by
    decide
  obtain ⟨haccept, hwritten, hback⟩ := reading_inverts_writing [" A ", "-B", "+", "2", "*\t"]
  rw [htrim] at haccept hwritten
  refine ⟨_, hread, ?_, (hwritten _ hread).2, hback _ (ofTokens?_ok_iff.mp hread).1⟩
  rcases haccept with ⟨_, hpostfix⟩ | ⟨⟨cause, herror⟩, _⟩
  · exact hpostfix
  · rw [hread] at herror
    cases herror

end CharacterSheet.Formula
