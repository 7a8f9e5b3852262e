import CharacterSheet.Proofs.Clamping
import CharacterSheet.Proofs.Unfolding

/-! Readings that share the names which are being looked up. In place of a list that is handed down
there is one set, which all parts of a reading see: a registered name is put in before its trait is
read and taken out again however that ends. A name is put in only where it was not in before, so the
set is found as it was left, with and without a fault (`leaves_askWithin`). So sharing gives what
handing down gives, and with fewer names in the set a reading gives no other value. -/

namespace CharacterSheet.Character

open Result

/-- A computation on the set of names that are being looked up. The set outlives a fault. -/
abbrev Sharing := ExceptT Fault (StateM (Finset String))

/-- The text that a value is looked up by. One that is no text may be spelled like a variable. -/
def asked? (c : Character) : Data → Result (Option String)
  | .null | .bool _ | .int _ => .ok none
  | .text s => .ok (some s)
  | v => do
    let s ← v.shown
    return if c.refers s then some s else none

/-- What any value stands for while some names are being looked up. -/
def lookupAmid (c : Character) (ask : Ask) (busy : List String) (v : Data) : Result Data := do
  match ← c.asked? v with
  | some s => return (← ask busy (.value (.text s))).toData
  | none => return v

theorem lookup_eq_lookupAmid (c : Character) (v : Data) : c.lookup v = c.lookupAmid c.ask [] v := by
  cases v with
  | null => rfl
  | bool b => rfl
  | int n => rfl
  | text s => rfl
  | _ =>
    simp only [lookup, lookupAmid, asked?, bind_assoc]
    refine Result.carries_eq.bind rfl fun s _ => ?_
    by_cases hrefers : c.refers s = true
    · rw [if_pos hrefers, if_pos hrefers]
      rfl
    · rw [if_neg hrefers, if_neg hrefers]
      rfl

theorem ends_asked? (c : Character) (v : Data) : Ends (c.asked? v) := by
  cases v with
  | null => exact ends_ok _
  | bool b => exact ends_ok _
  | int n => exact ends_ok _
  | text s => exact ends_ok _
  | _ => exact (Data.ends_shown _).bind fun _ _ => ends_ok _

theorem carried_lookupAmid {R : ∀ α : Type, Result α → Result α → Prop} (hR : Carries R)
    {c : Character} {ask ask' : Ask} {busy busy' : List String}
    (h : ∀ s, R _ (ask busy (.value (.text s))) (ask' busy' (.value (.text s)))) (v : Data) :
    R _ (c.lookupAmid ask busy v) (c.lookupAmid ask' busy' v) := by
  refine hR.bind (hR.ends (c.ends_asked? v)) fun found _ => ?_
  cases found with
  | some s => exact hR.bind (h s) fun _ _ => hR.ok _
  | none => exact hR.ok _

namespace Sharing

/-- What a computation gives, and the names that are being looked up after it. -/
def amid {α : Type} (x : Sharing α) (names : Finset String) : Result α × Finset String :=
  (x.run.run names).run

/-! ## The readings -/

abbrev Ask := Query → Sharing Value

def operandValue (resolve : String → Sharing (Option Data)) (name : String) : Sharing Data := do
  match ← resolve name with
  | some v => return v
  | none => throw (.evaluation (.noValue name))

def operands (resolve : String → Sharing (Option Data)) : Formula → Sharing Operand
  | .operand name => do return .of (← operandValue resolve name)
  | .operation op l r => do
    let a ← operands resolve l
    let b ← operands resolve r
    liftM (op.apply (.operation op l r) a b)

def evaluate (resolve : String → Sharing (Option Data)) : Formula → Sharing Int
  | .operand name => do liftM (← operandValue resolve name).whole
  | f => do liftM (Formula.rounded (← operands resolve f))

/-- What a virtues penalty leaves of a score. -/
def weakened (score : Int) : Int → Result Int
  | 0 => .ok score
  | -1 => halfUp score
  | _ => .ok (if 0 < score then 1 else 0)

section

variable (c : Character) (ask : Ask)

def virtuesPenalty : Sharing Int := do
  match c.named? c.engine.ruleset.virtuesTrait with
  | some t => return resolvePenalty (← liftM (← ask (.trait t)).shown)
  | none => return resolvePenalty ""

def pathScore : Sharing Int := do
  match c.named? c.engine.ruleset.pathScoreTrait with
  | some t => return ((← ask (.trait t)).int?).getD 0
  | none => return 0

def effectiveHumanity : Sharing Int := do
  let score ← pathScore c ask
  let penalty ← virtuesPenalty c ask
  liftM (weakened score penalty)

def reserved (name : String) : Sharing Int :=
  if name == "RESOLVEPENALTY" then virtuesPenalty c ask
  else if name == "EFFECTIVEHUMANITY" then effectiveHumanity c ask
  else pure (c.engine.ruleset.constant name)

/-- The name is taken out again also where there is no trait, or where reading it is a fault. -/
def registered (name : String) (id : Int) : Sharing Value := do
  if name ∈ (← get) then
    throw (.evaluation (.circular name))
  else
    modify (insert name)
    try
      match c.trait? id with
      | none => throw .missingEntry
      | some t => ask (.value (← ask (.trait t)))
    finally
      modify (·.erase name)

def reference (s : String) : Sharing Value :=
  let (negative, name) := splitSign s
  if Ruleset.isReserved name then do
    liftM (negate negative (.int (← reserved c ask name)))
  else match c.bindings.get? name with
    | some id => do liftM (negate negative (← registered c ask name id))
    | none => pure (.text s)

def expand : Value → Sharing Value
  | .text s =>
    if s.isEmpty then pure (.text s)
    else do
      match ← liftM (integerText? s) with
      | some n => return .int n
      | none => match boolText? s with
        | some b => return .bool b
        | none => reference c ask s
  | v => pure v

def intVariable (s : String) : Sharing (Option Int) := do
  return (← ask (.value (.text s))).int?

def bound : Option String → Sharing (Option Int)
  | none => pure none
  | some s => intVariable ask s

def bounds (p : Profile) : Sharing (Option (Int × Int)) := do
  let low ← bound ask p.minimum
  let high ← bound ask p.maximum
  return match low, high with
    | some l, some h => some (l, h)
    | _, _ => none

def countSelected : List Trait → Sharing Int
  | [] => pure 0
  | t :: r => do
    let selected ← liftM (← ask (.trait t)).isSelected
    let n ← countSelected r
    return if selected then n + 1 else n

def integersOf : List Trait → Sharing (List Int)
  | [] => pure []
  | t :: r => do
    let v ← ask (.trait t)
    match ← liftM v.integer? with
    | some n => return n :: (← integersOf r)
    | none => throw (.evaluation (.notNumeric t.name v.toData))

def unclamped (t : Trait) : Sharing Value :=
  match t.profile.derivation with
  | .standard | .options => ask (.value (.text t.raw))
  | .switched labels => do
    let s ← liftM (← ask (.value (.text t.raw))).shown
    return .text ((labels.get? s).getD s)
  | .arithmetic f => do
    return .int (← evaluate (fun name => do return (← intVariable ask name).map .int) f)
  | .highest => do return .int (greatest (← integersOf ask (c.present (c.group t.id))))
  | .tally => do return .int (← countSelected ask (c.present (c.group t.id)))

def expanded (t : Trait) : Sharing Value := do
  match ← unclamped c ask t with
  | .int n => return .int (clamp n (← bounds ask t.profile))
  | v => return v

def answer : Query → Sharing Value
  | .value v => expand c ask v
  | .trait t => expanded c ask t

end

def askWithin (c : Character) : Nat → Ask
  | 0, _ => throw .endless
  | n + 1, q => answer c (askWithin c n) q

/-- What any value stands for. -/
def lookup (c : Character) (ask : Ask) (v : Data) : Sharing Data := do
  match ← liftM (c.asked? v) with
  | some s => return (← ask (.value (.text s))).toData
  | none => return v

/-! ## The names afterwards -/

/-- Started while some names are being looked up, a computation gives this and leaves the names as it
has found them. -/
def Leaves {α : Type} (busy : List String) (x : Sharing α) (r : Result α) : Prop :=
  x.amid busy.toFinset = (r, busy.toFinset)

section

variable {α β : Type} {busy : List String}

theorem amid_bind (x : Sharing α) (f : α → Sharing β) (s : Finset String) :
    (x >>= f).amid s = match x.amid s with
      | (.ok a, s') => (f a).amid s'
      | (.error e, s') => (.error e, s') := by
  simp only [amid, ExceptT.run_bind, StateT.run_bind]
  rcases StateT.run (ExceptT.run x) s with ⟨e | a, s'⟩ <;> rfl

theorem amid_finally {x : Sharing α} {s s' : Finset String} {r : Result α} (h : x.amid s = (r, s'))
    (f : Finset String → Finset String) : (tryFinally x (modify f)).amid s = (r, f s') := by
  have hx : x s = (r, s') := h
  simp only [amid, tryFinally, tryFinally', ExceptT.run, ExceptT.mk, ExceptT.map, StateT.run,
    StateT.bind, Functor.map, bind, hx]
  cases r <;> rfl

theorem leaves_ok (a : α) : Leaves busy (pure a) (.ok a) := rfl

theorem leaves_error (e : Fault) : Leaves busy (throw e : Sharing α) (.error e) := rfl

theorem leaves_result (r : Result α) : Leaves busy (liftM r) r := rfl

theorem Leaves.bind {x : Sharing α} {r : Result α} {f : α → Sharing β} {g : α → Result β}
    (h : Leaves busy x r) (hf : ∀ a, Leaves busy (f a) (g a)) :
    Leaves busy (x >>= f) (r >>= g) := by
  rw [Leaves] at h
  rw [Leaves, amid_bind, h]
  cases r with
  | error e => rfl
  | ok a => exact hf a

/-- A name that is not in the set is in it for a while. -/
theorem Leaves.within {x : Sharing α} {r : Result α} {name : String} (hname : name ∉ busy)
    (h : Leaves (name :: busy) x r) :
    Leaves busy (do modify (insert name); tryFinally x (modify (·.erase name))) r := by
  have hput : (insert name busy.toFinset) = (name :: busy).toFinset := List.toFinset_cons.symm
  have htaken : ((name :: busy).toFinset).erase name = busy.toFinset := by
    rw [List.toFinset_cons, Finset.erase_insert (by simpa using hname)]
  show (tryFinally x (modify (·.erase name))).amid (insert name busy.toFinset) = _
  rw [hput, amid_finally h, htaken]

end

section

variable {busy : List String} {resolve : String → Sharing (Option Data)} {resolve' : Formula.Resolver}

theorem leaves_operandValue {name : String} (h : ∀ name, Leaves busy (resolve name) (resolve' name)) :
    Leaves busy (operandValue resolve name) (Formula.operandValue resolve' name) := by
  refine (h name).bind fun v => ?_
  cases v with
  | some v => exact leaves_ok v
  | none => exact leaves_error _

theorem leaves_operands (h : ∀ name, Leaves busy (resolve name) (resolve' name)) (f : Formula) :
    Leaves busy (operands resolve f) (f.value resolve') := by
  induction f with
  | operand name => exact (leaves_operandValue h).bind fun _ => leaves_ok _
  | operation op l r ihl ihr => exact ihl.bind fun _ => ihr.bind fun _ => leaves_result _

theorem leaves_evaluate (h : ∀ name, Leaves busy (resolve name) (resolve' name)) (f : Formula) :
    Leaves busy (evaluate resolve f) (f.evaluate resolve') := by
  cases f with
  | operand name => exact (leaves_operandValue h).bind fun _ => leaves_result _
  | operation op l r => exact (leaves_operands h _).bind fun _ => leaves_result _

end

section

variable {c : Character} {ask : Ask} {ask' : Character.Ask} {busy : List String}

section

variable (h : ∀ q, Leaves busy (ask q) (ask' busy q))

include h

theorem leaves_virtuesPenalty : Leaves busy (virtuesPenalty c ask) (c.virtuesPenalty ask' busy) := by
  unfold virtuesPenalty Character.virtuesPenalty
  cases c.named? c.engine.ruleset.virtuesTrait with
  | none => exact leaves_ok _
  | some t => exact (h _).bind fun _ => (leaves_result _).bind fun _ => leaves_ok _

theorem leaves_pathScore : Leaves busy (pathScore c ask) (c.pathScore ask' busy) := by
  unfold pathScore Character.pathScore
  cases c.named? c.engine.ruleset.pathScoreTrait with
  | none => exact leaves_ok _
  | some t => exact (h _).bind fun _ => leaves_ok _

theorem leaves_effectiveHumanity :
    Leaves busy (effectiveHumanity c ask) (c.effectiveHumanity ask' busy) :=
  (leaves_pathScore h).bind fun _ => (leaves_virtuesPenalty h).bind fun _ => leaves_result _

theorem leaves_reserved (name : String) :
    Leaves busy (reserved c ask name) (c.reserved ask' busy name) := by
  unfold reserved Character.reserved
  split
  · exact leaves_virtuesPenalty h
  · split
    · exact leaves_effectiveHumanity h
    · exact leaves_ok _

theorem leaves_intVariable (s : String) :
    Leaves busy (intVariable ask s) (Character.intVariable ask' busy s) :=
  (h _).bind fun _ => leaves_ok _

theorem leaves_bound (b : Option String) :
    Leaves busy (bound ask b) (Character.bound ask' busy b) := by
  cases b with
  | none => exact leaves_ok _
  | some s => exact leaves_intVariable h s

theorem leaves_bounds (p : Profile) :
    Leaves busy (bounds ask p) (Character.bounds ask' busy p) :=
  (leaves_bound h _).bind fun _ => (leaves_bound h _).bind fun _ => leaves_ok _

theorem leaves_countSelected (ts : List Trait) :
    Leaves busy (countSelected ask ts) (Character.countSelected ask' busy ts) := by
  induction ts with
  | nil => exact leaves_ok _
  | cons t r ih =>
    exact (h _).bind fun _ => (leaves_result _).bind fun _ => ih.bind fun _ => leaves_ok _

theorem leaves_integersOf (ts : List Trait) :
    Leaves busy (integersOf ask ts) (Character.integersOf ask' busy ts) := by
  induction ts with
  | nil => exact leaves_ok _
  | cons t r ih =>
    refine (h _).bind fun v => (leaves_result _).bind fun n => ?_
    cases n with
    | some n => exact ih.bind fun _ => leaves_ok _
    | none => exact leaves_error _

theorem leaves_unclamped (t : Trait) :
    Leaves busy (unclamped c ask t) (c.unclamped ask' busy t) := by
  unfold unclamped Character.unclamped
  cases t.profile.derivation with
  | standard => exact h _
  | options => exact h _
  | switched labels => exact (h _).bind fun _ => (leaves_result _).bind fun _ => leaves_ok _
  | arithmetic f =>
    refine Leaves.bind (leaves_evaluate (fun name => ?_) f) fun _ => leaves_ok _
    exact (leaves_intVariable h name).bind fun _ => leaves_ok _
  | highest => exact (leaves_integersOf h _).bind fun _ => leaves_ok _
  | tally => exact (leaves_countSelected h _).bind fun _ => leaves_ok _

theorem leaves_expanded (t : Trait) :
    Leaves busy (expanded c ask t) (c.expanded ask' busy t) := by
  refine (leaves_unclamped h t).bind fun v => ?_
  cases v with
  | int n => exact (leaves_bounds h _).bind fun _ => leaves_ok _
  | bool b => exact leaves_ok _
  | text s => exact leaves_ok _

end

/-- The one place where the set changes. -/
theorem leaves_registered (h : ∀ busy q, Leaves busy (ask q) (ask' busy q)) (name : String)
    (id : Int) : Leaves busy (registered c ask name id) (c.registered ask' busy name id) := by
  rw [Character.registered, registered, Leaves, amid_bind]
  show Sharing.amid (ite (name ∈ busy.toFinset) _ _) _ = _
  by_cases hname : name ∈ busy
  · -- the fault comes before the set is touched
    rw [if_pos (by simpa using hname), if_pos (by simpa using hname)]
    rfl
  · rw [if_neg (by simpa using hname), if_neg (by simpa using hname)]
    apply Leaves.within hname
    cases c.trait? id with
    | none => exact leaves_error _
    | some t => exact (h _ _).bind fun _ => h _ _

theorem leaves_reference (h : ∀ busy q, Leaves busy (ask q) (ask' busy q)) (s : String) :
    Leaves busy (reference c ask s) (c.reference ask' busy s) := by
  unfold reference Character.reference
  obtain ⟨negative, name⟩ := splitSign s
  dsimp only
  split
  · exact (leaves_reserved (h busy) name).bind fun _ => leaves_result _
  · cases c.bindings.get? name with
    | none => exact leaves_ok _
    | some id => exact (leaves_registered h name id).bind fun _ => leaves_result _

theorem leaves_expand (h : ∀ busy q, Leaves busy (ask q) (ask' busy q)) (v : Value) :
    Leaves busy (expand c ask v) (c.expand ask' busy v) := by
  cases v with
  | int n => exact leaves_ok _
  | bool b => exact leaves_ok _
  | text s =>
    unfold expand Character.expand
    dsimp only
    split
    · exact leaves_ok _
    · refine (leaves_result _).bind fun n => ?_
      cases n with
      | some n => exact leaves_ok _
      | none =>
        cases boolText? s with
        | some b => exact leaves_ok _
        | none => exact leaves_reference h s

/-- At every depth sharing the names gives what handing them down gives, and leaves them as they were,
also where that is a fault. -/
theorem leaves_askWithin (c : Character) (n : Nat) (busy : List String) (q : Query) :
    Leaves busy (askWithin c n q) (c.askWithin n busy q) := by
  induction n generalizing busy q with
  | zero => exact leaves_error _
  | succ n ih =>
    rw [askWithin, Character.askWithin]
    cases q with
    | value v =>
      rw [answer, Character.answer]
      exact leaves_expand ih v
    | trait t =>
      rw [answer, Character.answer]
      exact leaves_expanded (ih busy) t

theorem leaves_lookup (h : ∀ q, Leaves busy (ask q) (ask' busy q)) (v : Data) :
    Leaves busy (lookup c ask v) (c.lookupAmid ask' busy v) := by
  refine (leaves_result _).bind fun found => ?_
  cases found with
  | some s => exact (h _).bind fun _ => leaves_ok _
  | none => exact leaves_ok _

end

/-! ## Fewer names -/

section

variable {c : Character} {s s' : Finset String} {n : Nat}

theorem amid_of_leaves {α : Type} {x : Sharing α} {f : List String → Result α}
    (h : ∀ busy, Leaves busy x (f busy)) (s : Finset String) : x.amid s = (f s.toList, s) := by
  have hs := h s.toList
  rwa [Leaves, Finset.toList_toFinset] at hs

theorem amid_askWithin (c : Character) (n : Nat) (q : Query) (s : Finset String) :
    (askWithin c n q).amid s = (c.askWithin n s.toList q, s) :=
  amid_of_leaves (fun busy => leaves_askWithin c n busy q) s

theorem amid_lookup (c : Character) (n : Nat) (v : Data) (s : Finset String) :
    (lookup c (askWithin c n) v).amid s = (c.lookupAmid (c.askWithin n) s.toList v, s) :=
  amid_of_leaves (fun busy => leaves_lookup (leaves_askWithin c n busy) v) s

/-- The names that are being looked up change no value, and no reading changes them. What can be read
amid some names reads the same amid fewer of them and from outside, at whatever depth it is met, and
after a reading they are what they were before it, whether it is a fault or not. What is given is what
the reading gives that hands the names down. -/
theorem amid_of_subset (hsub : s ⊆ s') (n : Nat) :
    (∀ v w, ((lookup c (askWithin c n) v).amid s').1 = .ok w →
      ((lookup c (askWithin c n) v).amid s).1 = .ok w ∧ c.lookup v = .ok w) ∧
    (∀ t ∈ c.traits, ∀ w, ((askWithin c n (.trait t)).amid s').1 = .ok w →
      ((askWithin c n (.trait t)).amid s).1 = .ok w ∧ c.expandedValue t = .ok w) ∧
    (∀ v, ((lookup c (askWithin c n) v).amid s').2 = s') ∧
    (∀ q, (askWithin c n q).amid s' = (c.askWithin n s'.toList q, s')) ∧
    (∀ v, (lookup c (askWithin c c.depth) v).amid ∅ = (c.lookup v, ∅)) ∧
    ∀ t, (askWithin c c.depth (.trait t)).amid ∅ = (c.expandedValue t, ∅) := by
  have hnames : ∀ name ∈ s.toList, name ∈ s'.toList :=
    fun name hn => Finset.mem_toList.mpr (hsub (Finset.mem_toList.mp hn))
  refine ⟨fun v w h => ?_, fun t ht w h => ?_, fun v => ?_, fun q => amid_askWithin c n q s',
    fun v => ?_, fun t => ?_⟩
  · rw [amid_lookup] at h ⊢
    constructor
    · exact carried_lookupAmid carries_gives (fun _ => askWithin_gives hnames) v w h
    · have houter : ∀ text, Gives (c.askWithin n s'.toList (.value (.text text)))
          (c.ask [] (.value (.text text))) := fun _ _ hx => ask_of_askWithin (q := .value _) trivial hx
      rw [lookup_eq_lookupAmid]
      exact carried_lookupAmid carries_gives houter v w h
  · rw [amid_askWithin] at h ⊢
    exact ⟨askWithin_gives hnames w h, ask_of_askWithin (q := .trait t) ht h⟩
  · rw [amid_lookup]
  · rw [amid_lookup, Finset.toList_empty, lookup_eq_lookupAmid]
    rfl
  · rw [amid_askWithin, Finset.toList_empty]
    rfl

end

end Sharing

/-- Calm is bounded by a name that leads no further, so it reads the same amid two other names and is
a fault amid its own bound, and the names stay. -/
theorem amid_of_subset_boundedMortal : Reachable boundedMortal ∧
    ∃ x : Sharing Data,
      x = Sharing.lookup boundedMortal (Sharing.askWithin boundedMortal boundedMortal.depth)
        (.text "CALM") ∧
      ({"MOOD"} : Finset String) ⊆ {"MOOD", "KIND"} ∧
      (x.amid {"MOOD", "KIND"}).1 = .ok (.int 3) ∧ (x.amid {"MOOD"}).1 = .ok (.int 3) ∧
      boundedMortal.lookup (.text "CALM") = .ok (.int 3) ∧
      (x.amid {"MOOD", "LIMIT"}).1 = .error (.evaluation (.circular "LIMIT")) ∧
      (x.amid {"MOOD", "LIMIT"}).2 = {"MOOD", "LIMIT"} := by
  have hsub : ({"MOOD"} : Finset String) ⊆ {"MOOD", "KIND"} := by decide
  have hread := Sharing.amid_of_subset (c := boundedMortal) hsub boundedMortal.depth
  obtain ⟨hfewer, houter⟩ := hread.1 (.text "CALM") (.int 3) rfl
  have hself : ({"MOOD", "LIMIT"} : Finset String) ⊆ {"MOOD", "LIMIT"} := Finset.Subset.refl _
  have hleft := (Sharing.amid_of_subset (c := boundedMortal) hself boundedMortal.depth).2.2.1
  exact ⟨reachable_boundedMortal, _, rfl, hsub, rfl, hfewer, houter, rfl, hleft _⟩

end CharacterSheet.Character
