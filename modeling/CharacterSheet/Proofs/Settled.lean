import CharacterSheet.Character.Resolve
import CharacterSheet.Proofs.Result

/-! Results that are not cut off, and relations between two results of one computation. Reading a value
goes down from query to query as far as it is allowed to, and is cut off with `endless` where it would
have to go further. A result is settled once it is not that and going further gives the same. This
passes from the parts of a computation to the whole, and so do other relations between what is read
now and what is read deeper down or under fewer guards: `Carries` is all that their proofs need. What
only reckons with values that have been read is never cut off, so there each of them holds. -/

namespace CharacterSheet

namespace Result

variable {α β : Type}

def Ends (x : Result α) : Prop := x ≠ .error .endless

/-- `x` is not cut off, and `y`, which may go further, is the same. -/
structure Settled (x y : Result α) : Prop where
  ends : Ends x
  same : y = x

theorem ends_ok (a : α) : Ends (.ok a : Result α) := nofun

theorem ends_error {f : Fault} (h : f ≠ .endless) : Ends (.error f : Result α) :=
  fun he => h (Except.error.inj he)

theorem Ends.bind {x : Result α} {f : α → Result β} (hx : Ends x)
    (hf : ∀ a, x = .ok a → Ends (f a)) : Ends (x >>= f) := by
  cases x with
  | error e => exact ends_error fun he => hx (congrArg _ he)
  | ok a => exact hf a rfl

/-- Faults of arithmetic are never those of going in circles. -/
theorem ends_mapError {ε : Type} (x : Except ε α) {f : ε → Fault} (h : ∀ e, f e ≠ .endless) :
    Ends (x.mapError f) := by
  cases x with
  | error e => exact ends_error (h e)
  | ok a => exact ends_ok a

/-- Unless it is cut off, `x` is what `y` is. -/
def Extends (x y : Result α) : Prop := Ends x → y = x

/-- If `x` gives a value, `y` gives the same one. -/
def Gives (x y : Result α) : Prop := ∀ a, x = .ok a → y = .ok a

/-- A relation that holds of a computation where it holds of what is read on the way. -/
structure Carries (R : ∀ α : Type, Result α → Result α → Prop) : Prop where
  ends : ∀ {α : Type} {x : Result α}, Ends x → R α x x
  bind : ∀ {α β : Type} {x y : Result α} {f g : α → Result β}, R α x y →
    (∀ a, x = .ok a → R β (f a) (g a)) → R β (x >>= f) (y >>= g)

section

variable {R : ∀ α : Type, Result α → Result α → Prop}

theorem Carries.ok (hR : Carries R) (a : α) : R α (.ok a) (.ok a) := hR.ends (ends_ok a)

theorem Carries.error (hR : Carries R) {f : Fault} (h : f ≠ .endless) :
    R α (.error f) (.error f) := hR.ends (ends_error h)

end

theorem carries_settled : Carries @Settled where
  ends hx := ⟨hx, rfl⟩
  bind := by
    rintro α β x y f g ⟨hx, rfl⟩ hf
    cases y with
    | error e => exact ⟨ends_error fun he => hx (congrArg _ he), rfl⟩
    | ok a => exact hf a rfl

theorem carries_extends : Carries @Extends where
  ends _ _ := rfl
  bind := by
    intro α β x y f g h hf hends
    cases x with
    | error e => rw [h fun he => hends (congrArg _ (Except.error.inj he))]; rfl
    | ok a => rw [h (ends_ok a)]; exact hf a rfl hends

theorem carries_gives : Carries @Gives where
  ends _ _ := id
  bind := by
    intro α β x y f g h hf b hb
    cases x with
    | error e => cases hb
    | ok a => rw [h a rfl]; exact hf a rfl b hb

theorem carries_eq : Carries fun _ => Eq where
  ends _ := rfl
  bind := by
    rintro α β x _ f g rfl hf
    cases x with
    | error e => rfl
    | ok a => exact hf a rfl

end Result

open Result

/-! ## Values -/

theorem Result.ends_ofDigits {α : Type} (count : Nat) (a : α) : Ends (Result.ofDigits count a) := by
  unfold Result.ofDigits
  split
  · exact ends_ok _
  · exact ends_error nofun

theorem ends_integerText? (s : String) : Ends (integerText? s) := by
  unfold integerText?
  split
  · exact ends_ok _
  · dsimp only
    split
    · exact ends_error nofun
    · refine (ends_ofDigits _ _).bind fun n _ => ?_
      split
      · exact ends_error nofun
      · exact ends_ok _

theorem Data.ends_shown (v : Data) : Ends v.shown := by
  unfold shown
  split
  · exact ends_ok _
  · exact ends_error nofun

theorem Data.ends_integer? (v : Data) : Ends v.integer? := by
  unfold integer?
  split
  · exact ends_ok _
  · exact ends_ok _
  · exact ends_ok _
  · exact ends_ok _
  · exact ends_ok _
  · exact ends_ok _
  · exact v.ends_shown.bind fun _ _ => ends_integerText? _

theorem Value.ends_isSelected (v : Value) : Ends v.isSelected := by
  cases v with
  | int n => exact ends_ok _
  | bool b => exact ends_ok _
  | text s =>
    refine (ends_integerText? s).bind fun n _ => ?_
    split <;> exact ends_ok _

theorem Character.ends_negate (negative : Bool) (v : Value) : Ends (negate negative v) := by
  refine v.toData.ends_integer?.bind fun n _ => ?_
  split
  · exact ends_ok _
  · split <;> exact ends_ok _

theorem Character.ends_halfUp (n : Int) : Ends (halfUp n) := ends_mapError _ nofun

/-! ## Formulas -/

theorem Data.ends_repeated (v times : Data) : Ends (v.repeated times) := by
  unfold repeated
  split
  · split
    · exact ends_ok _
    · exact ends_error nofun
  · exact ends_error nofun

theorem Data.ends_whole (v : Data) : Ends v.whole := by
  unfold whole
  split
  · exact ends_mapError _ nofun
  · split
    · exact ends_ofDigits _ _
    · exact ends_error nofun
  · exact ends_error nofun
  · exact ends_error nofun

namespace Operator

variable (op : Operator) (formula : Formula)

theorem ends_applyNumbers (a b : Number) : Ends (op.applyNumbers formula a b) := by
  cases op with
  | add => exact ends_mapError _ nofun
  | sub => exact ends_mapError _ nofun
  | mul => exact ends_mapError _ nofun
  | div =>
    unfold applyNumbers
    dsimp only
    split
    · exact ends_error nofun
    · exact ends_mapError _ nofun
  | pow => exact ends_mapError _ nofun

theorem ends_applyOthers (a b : Data) : Ends (op.applyOthers formula a b) := by
  unfold applyOthers
  split
  · split
    · exact ends_ok _
    · exact ends_error nofun
  · split
    · exact ends_ok _
    · exact ends_error nofun
  · split
    · exact Data.ends_repeated _ _
    · exact Data.ends_repeated _ _
    · exact ends_error nofun
  · split <;> exact ends_error nofun
  · split <;> exact ends_error nofun

theorem ends_applyTimes? {a b : Operand} {r : Result Operand} (h : op.applyTimes? a b = some r) :
    Ends r := by
  have hsure : ∀ x : Number.Result Operand, some (x.mapError Fault.arithmetic) = some r → Ends r := by
    rintro x ⟨⟩
    exact ends_mapError x nofun
  have hmaybe : ∀ (n : Option Number) (g : Number → Number.Result Operand),
      (n.map fun n => (g n).mapError Fault.arithmetic) = some r → Ends r := by
    intro n g hg
    obtain ⟨m, _, hm⟩ := Option.map_eq_some_iff.mp hg
    exact hsure (g m) (congrArg some hm)
  unfold applyTimes? at h
  dsimp only at h
  split at h
  · exact hsure _ h
  · exact hsure _ h
  · exact hsure _ h
  · exact hsure _ h
  · exact hsure _ h
  · exact hsure _ h
  · exact hmaybe _ _ h
  · exact hmaybe _ _ h
  · exact hmaybe _ _ h
  · split at h
    · cases h
      exact ends_error nofun
    · exact hsure _ h
  · cases h

theorem ends_apply (a b : Operand) : Ends (op.apply formula a b) := by
  unfold apply
  split
  · exact (ends_applyNumbers op formula _ _).bind fun _ _ => ends_ok _
  · cases h : op.applyTimes? a b with
    | some r => exact ends_applyTimes? op h
    | none => exact (ends_applyOthers op formula _ _).bind fun _ _ => ends_ok _

end Operator

namespace Formula

/-- The names that a formula looks up. -/
def operands : Formula → List String
  | .operand name => [name]
  | .operation _ l r => l.operands ++ r.operands

theorem ends_rounded (v : Operand) : Ends (rounded v) := by
  unfold rounded
  split
  · exact ends_mapError _ nofun
  · exact ends_error nofun

variable {R : ∀ α : Type, Result α → Result α → Prop} {resolve resolve' : Resolver}

theorem carried_operandValue (hR : Carries R) {name : String}
    (h : R _ (resolve name) (resolve' name)) :
    R _ (operandValue resolve name) (operandValue resolve' name) := by
  refine hR.bind h fun v _ => ?_
  cases v with
  | some v => exact hR.ok v
  | none => exact hR.error nofun

theorem carried_value (hR : Carries R) (f : Formula)
    (h : ∀ name ∈ f.operands, R _ (resolve name) (resolve' name)) :
    R _ (f.value resolve) (f.value resolve') := by
  induction f with
  | operand name =>
    exact hR.bind (carried_operandValue hR (h name List.mem_cons_self)) fun _ _ => hR.ok _
  | operation op l r ihl ihr =>
    refine hR.bind (ihl fun name hn => h name (List.mem_append_left _ hn)) fun a _ => ?_
    refine hR.bind (ihr fun name hn => h name (List.mem_append_right _ hn)) fun b _ => ?_
    exact hR.ends (op.ends_apply _ a b)

theorem carried_evaluate (hR : Carries R) (f : Formula)
    (h : ∀ name ∈ f.operands, R _ (resolve name) (resolve' name)) :
    R _ (f.evaluate resolve) (f.evaluate resolve') := by
  cases f with
  | operand name =>
    exact hR.bind (carried_operandValue hR (h name List.mem_cons_self)) fun v _ =>
      hR.ends v.ends_whole
  | operation op l r =>
    exact hR.bind (carried_value hR _ h) fun v _ => hR.ends (ends_rounded v)

end Formula

end CharacterSheet
