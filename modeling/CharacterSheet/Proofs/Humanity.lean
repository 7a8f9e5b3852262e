import CharacterSheet.Proofs.Mantissa
import CharacterSheet.Proofs.Naming
import CharacterSheet.Proofs.Overflow

/-! Effective humanity. Half a score is taken as a double before it is rounded up. Halves of integers
below `2 ^ 53` are doubles, so they are rounded up exactly. Beyond that the half goes to the double next
to it, which is an integer then and is not rounded any more; and from twice the range of the doubles on
there is none. -/

namespace CharacterSheet

namespace Number

/-! ## The double next to half an integer -/

/-- What the double next to half an integer is worth. -/
def nearHalf (n : Int) : ℚ :=
  let place := lastPlace n.natAbs 2
  let worth : ℚ := roundQuotient (scaled n.natAbs 2 place).1 (scaled n.natAbs 2 place).2 * 2 ^ place
  if n < 0 then -worth else worth

/-- How far apart the doubles are at half an integer of at least fifty-four bits. -/
def halfUnit (n : Int) : Nat := 2 ^ (n.natAbs.log2 - 53)

theorem lastPlace_half {n : Nat} (hn : n ≠ 0) : lastPlace n 2 = (n.log2 : Int) - 53 := by
  have htwo : Nat.log2 2 = 1 := rfl
  have hfirst : firstPlace n 2 = (n.log2 : Int) - 54 := by
    unfold firstPlace
    omega
  have hmore : (scaled n 2 (firstPlace n 2)).2 * 2 ^ 53 ≤ (scaled n 2 (firstPlace n 2)).1 :=
    le_scaled (y := 1) (Nat.log2_self_le hn) (by decide) (by omega)
  rcases lastPlace_cases n 2 with ⟨hzero, _⟩ | ⟨_, _, hfits⟩ | ⟨_, hplace, _⟩
  · exact absurd hzero hn
  · rw [Nat.div_lt_iff_lt_mul (scaled_pos n (by decide) _), Nat.mul_comm] at hfits
    omega
  · omega

theorem signed_natAbs (n : Int) : (if n < 0 then -(n.natAbs : ℚ) else n.natAbs) = n := by
  split
  · have hsize : (n.natAbs : Int) = -n := by omega
    rw [← Int.cast_natCast, hsize]
    simp
  · have hsize : (n.natAbs : Int) = n := by omega
    rw [← Int.cast_natCast, hsize]

/-- A half that fits is exact. -/
theorem nearHalf_of_lt {n : Int} (h : n.natAbs < 2 ^ 53) : nearHalf n = n / 2 := by
  obtain ⟨j, hj⟩ : ∃ j : Nat, lastPlace n.natAbs 2 = -((j + 1 : Nat) : Int) := by
    have hneg : lastPlace n.natAbs 2 < 0 := by
      by_cases hzero : n.natAbs = 0
      · rw [hzero]
        decide
      · have hlog := (Nat.log2_lt hzero).mpr h
        rw [lastPlace_half hzero]
        omega
    exact ⟨(-lastPlace n.natAbs 2).toNat - 1, by omega⟩
  have hscaled : scaled n.natAbs 2 (-((j + 1 : Nat) : Int)) = (2 * (n.natAbs * 2 ^ j), 2) := by
    have hneg : ¬ 0 ≤ -((j + 1 : Nat) : Int) := by omega
    rw [scaled, if_neg hneg, Int.neg_neg, Int.toNat_natCast, Nat.pow_eq, pow_succ]
    congr 1
    ring
  have hexact : roundQuotient (2 * (n.natAbs * 2 ^ j)) 2 = n.natAbs * 2 ^ j := by
    rcases roundQuotient_cases (2 * (n.natAbs * 2 ^ j)) 2 with ⟨_, he⟩ | ⟨_, _⟩ | ⟨_, _⟩ <;> omega
  have hworth : (roundQuotient (2 * (n.natAbs * 2 ^ j)) 2 : ℚ) * 2 ^ (-((j + 1 : Nat) : Int)) =
      n.natAbs / 2 := by
    rw [hexact, zpow_neg, zpow_natCast, pow_succ]
    push_cast
    field_simp
  unfold nearHalf
  dsimp only
  rw [hj, hscaled, hworth, ← neg_div, ← ite_div, signed_natAbs]

/-- A half that does not fit becomes an integer. -/
theorem nearHalf_of_le {n : Int} (h : 2 ^ 53 ≤ n.natAbs) : nearHalf n =
    ((n.sign * (roundQuotient n.natAbs (2 * halfUnit n) * halfUnit n : Nat) : Int) : ℚ) := by
  have hne : n.natAbs ≠ 0 := by omega
  have hlog : 53 ≤ n.natAbs.log2 := (Nat.le_log2 hne).mpr h
  have hplace : lastPlace n.natAbs 2 = (n.natAbs.log2 - 53 : Nat) := by
    rw [lastPlace_half hne]
    omega
  unfold nearHalf halfUnit
  dsimp only
  rw [hplace, scaled_of_nonneg (Int.natCast_nonneg _), Int.toNat_natCast, zpow_natCast]
  by_cases hneg : n < 0
  · rw [if_pos hneg, Int.sign_eq_neg_one_of_neg hneg]
    push_cast
    ring
  · rw [if_neg hneg, Int.sign_eq_one_of_pos (by omega)]
    push_cast
    ring

/-- A multiple of the unit next to half of `n`; of two that are equally near, the even one. -/
structure NextToHalf (n m : Int) : Prop where
  multiple : (halfUnit n : Int) ∣ m
  near : (2 * m - n).natAbs ≤ halfUnit n
  even : (2 * m - n).natAbs = halfUnit n → (2 * halfUnit n : Int) ∣ m

/-- Halfway below a number is rounded up to it only if it is even. -/
theorem roundQuotient_even_above {n d : Nat} (h : 2 * n + d = 2 * (d * roundQuotient n d))
    (hd : 0 < d) : roundQuotient n d % 2 = 0 := by
  have hn : d * (n / d) + n % d = n := Nat.div_add_mod n d
  have hr : n % d < d := Nat.mod_lt n hd
  have hsucc : d * (n / d + 1) = d * (n / d) + d := Nat.mul_succ _ _
  rcases roundQuotient_cases n d with ⟨_, he⟩ | ⟨_, he⟩ | ⟨_, heven, _⟩
  · rw [he] at h
    omega
  · rw [he] at h
    omega
  · exact heven

theorem ceil_nearHalf_of_le {n : Int} (h : 2 ^ 53 ≤ n.natAbs) : NextToHalf n ⌈nearHalf n⌉ := by
  have hunit : 0 < halfUnit n := Nat.pow_pos (by decide)
  obtain ⟨hle, hge⟩ := roundQuotient_near (n := n.natAbs) (d := 2 * halfUnit n) (by omega)
  have hbelow := roundQuotient_even (n := n.natAbs) (d := 2 * halfUnit n)
  have habove := roundQuotient_even_above (n := n.natAbs) (d := 2 * halfUnit n)
  have hdist : (2 * ⌈nearHalf n⌉ - n).natAbs = ((2 * (roundQuotient n.natAbs (2 * halfUnit n) *
      halfUnit n) : Nat) - (n.natAbs : Int)).natAbs := by
    rw [nearHalf_of_le h, Int.ceil_intCast]
    by_cases hneg : n < 0
    · rw [Int.sign_eq_neg_one_of_neg hneg]
      omega
    · rw [Int.sign_eq_one_of_pos (by omega)]
      omega
  have hsize : ∀ d : Int, d ∣ (roundQuotient n.natAbs (2 * halfUnit n) * halfUnit n : Nat) →
      d ∣ ⌈nearHalf n⌉ := by
    intro d hd
    rw [nearHalf_of_le h, Int.ceil_intCast]
    exact Int.dvd_mul_of_dvd_right hd
  generalize roundQuotient n.natAbs (2 * halfUnit n) = q at *
  have hcomm : 2 * halfUnit n * q = 2 * (q * halfUnit n) := by
    rw [Nat.mul_assoc, Nat.mul_comm (halfUnit n)]
  rw [hcomm] at hle hge hbelow habove
  refine ⟨hsize _ ?_, ?_, ?_⟩
  · exact Int.natCast_dvd_natCast.mpr ⟨q, Nat.mul_comm _ _⟩
  · rw [hdist]
    omega
  · intro htie
    rw [hdist] at htie
    have heven : q % 2 = 0 := by
      by_cases hpast : n.natAbs < 2 * (q * halfUnit n)
      · exact habove (by omega) (by omega)
      · exact hbelow (by omega) (by omega)
    obtain ⟨t, rfl⟩ := Nat.dvd_of_mod_eq_zero heven
    have hdvd : 2 * halfUnit n ∣ 2 * t * halfUnit n := ⟨t, by ring⟩
    apply hsize
    exact_mod_cast hdvd

/-! ## Exact halves -/

/-- Half of an integer, rounded up, from its size. -/
theorem ceil_half (n : Int) : ⌈(n : ℚ) / 2⌉ =
    if n < 0 then -((n.natAbs / 2 : Nat) : Int) else ((n.natAbs + 1) / 2 : Nat) := by
  have hceil : ⌈(n : ℚ) / 2⌉ = -((-n) / 2) := Rat.ceil_intCast_div_natCast n 2
  rw [hceil]
  split <;> omega

/-- On a grid of units wider than one, a number next to the half is found if it is on the grid. -/
theorem roundQuotient_mul_eq_iff {n unit c : Nat} (hunit : 2 ≤ unit) (hlow : 2 * c ≤ n + 1)
    (hhigh : n ≤ 2 * c + 1) : roundQuotient n (2 * unit) * unit = c ↔ unit ∣ c := by
  constructor
  · intro h
    exact ⟨_, by rw [← h, Nat.mul_comm]⟩
  · rintro ⟨t, rfl⟩
    obtain ⟨hle, hge⟩ := roundQuotient_near (n := n) (d := 2 * unit) (by omega)
    generalize roundQuotient n (2 * unit) = q at *
    rw [Nat.mul_assoc] at hle hge
    have hsame : q = t := by
      rcases Nat.lt_trichotomy q t with hlt | heq | hgt
      · have hstep : unit * (q + 1) ≤ unit * t := Nat.mul_le_mul_left unit hlt
        rw [Nat.mul_succ] at hstep
        omega
      · exact heq
      · have hstep : unit * (t + 1) ≤ unit * q := Nat.mul_le_mul_left unit hgt
        rw [Nat.mul_succ] at hstep
        omega
    rw [hsame, Nat.mul_comm]

/-- Among the integers the half of an odd number is a tie, which goes to the even side. -/
theorem roundQuotient_two (n : Nat) :
    roundQuotient n 2 = if n % 4 = 3 then n / 2 + 1 else n / 2 := by
  rcases roundQuotient_cases n 2 with ⟨_, he⟩ | ⟨_, he⟩ | ⟨_, heven, he | he⟩ <;> split <;> omega

/-- Integers whose half is rounded up to the right integer although it goes through a double: the half
is a double itself; or the doubles at the half are the integers, and it is one of them or goes up to the
next one; or what it is to be rounded up to is a double. -/
inductive HalvesExactly (n : Int) : Prop where
  | fits : n.natAbs < 2 ^ 53 → HalvesExactly n
  | tie : n.natAbs < 2 ^ 54 → n % 4 ≠ 1 → HalvesExactly n
  | wide : 2 ^ 54 ≤ n.natAbs → n.natAbs < 2 * overflow → (halfUnit n : Int) ∣ ⌈(n : ℚ) / 2⌉ →
      HalvesExactly n

theorem ceil_nearHalf_eq_iff {n : Int} (h : n.natAbs < 2 * overflow) :
    ⌈nearHalf n⌉ = ⌈(n : ℚ) / 2⌉ ↔ HalvesExactly n := by
  by_cases hfits : n.natAbs < 2 ^ 53
  · rw [nearHalf_of_lt hfits]
    exact iff_of_true rfl (.fits hfits)
  · have hlarge : 2 ^ 53 ≤ n.natAbs := Nat.not_lt.mp hfits
    have hne : n.natAbs ≠ 0 := by omega
    rw [nearHalf_of_le hlarge, Int.ceil_intCast]
    by_cases htie : n.natAbs < 2 ^ 54
    · have hlog : n.natAbs.log2 = 53 := (Nat.log2_eq_iff hne).mpr ⟨hlarge, htie⟩
      have hexact : HalvesExactly n ↔ n % 4 ≠ 1 := by
        constructor
        · intro hn
          cases hn with
          | fits hlt => exact absurd hlt hfits
          | tie _ hmod => exact hmod
          | wide hge => omega
        · exact .tie htie
      rw [hexact, ceil_half, halfUnit, hlog, Nat.sub_self, Nat.pow_zero, Nat.mul_one, Nat.mul_one,
        roundQuotient_two]
      by_cases hneg : n < 0
      · rw [if_pos hneg, Int.sign_eq_neg_one_of_neg hneg]
        split <;> omega
      · rw [if_neg hneg, Int.sign_eq_one_of_pos (by omega)]
        split <;> omega
    · have hwide : 2 ^ 54 ≤ n.natAbs := Nat.not_lt.mp htie
      have hlog : 54 ≤ n.natAbs.log2 := (Nat.le_log2 hne).mpr hwide
      have hunit : 2 ≤ halfUnit n := Nat.le_self_pow (by omega) 2
      have hexact : HalvesExactly n ↔ (halfUnit n : Int) ∣ ⌈(n : ℚ) / 2⌉ := by
        constructor
        · intro hn
          cases hn with
          | fits hlt => exact absurd hlt hfits
          | tie hlt => exact absurd hlt htie
          | wide _ _ hdvd => exact hdvd
        · exact .wide hwide h
      rw [hexact, ceil_half]
      generalize halfUnit n = unit at hunit ⊢
      by_cases hneg : n < 0
      · have hround := roundQuotient_mul_eq_iff (n := n.natAbs) (c := n.natAbs / 2) hunit
          (by omega) (by omega)
        rw [if_pos hneg, Int.sign_eq_neg_one_of_neg hneg, Int.dvd_neg, Int.natCast_dvd_natCast,
          ← hround]
        omega
      · have hround := roundQuotient_mul_eq_iff (n := n.natAbs) (c := (n.natAbs + 1) / 2) hunit
          (by omega) (by omega)
        rw [if_neg hneg, Int.sign_eq_one_of_pos (by omega), Int.natCast_dvd_natCast, ← hround]
        omega

theorem HalvesExactly.lt {n : Int} (h : HalvesExactly n) : n.natAbs < 2 * overflow := by
  have hone : 1 ≤ 2 ^ halfPlace := Nat.pow_pos (by decide)
  have hrange : 2 ^ 54 - 1 ≤ overflow := Nat.le_mul_of_pos_right _ hone
  cases h with
  | fits hlt => omega
  | tie hlt _ => omega
  | wide _ hlt _ => exact hlt

theorem div_two_of_some {n : Int} {x : Float}
    (h : nearest? (decide (n < 0)) n.natAbs 2 = some x) : div (.int n) (.int 2) = .ok (.real x) := by
  have hsign : (decide (n < 0) != decide ((2 : Int) < 0)) = decide (n < 0) := by simp
  have htwo : Int.natAbs 2 = 2 := rfl
  rw [div_eq, divBy, hsign, htwo, h]

end Number

namespace Character

open Number

/-! ## Half a score -/

theorem halfUp_of_ge {n : Int} (h : 2 * overflow ≤ n.natAbs) :
    halfUp n = .error (.arithmetic .quotientTooLarge) := by
  have htwo : Int.natAbs 2 = 2 := rfl
  have hdiv : div (.int n) (.int 2) = .error .quotientTooLarge := by
    rw [div_int_error_iff (by decide), htwo]
    exact ⟨h, rfl⟩
  rw [halfUp, hdiv]
  rfl

/-- The half is rounded to a double first, and then up. -/
theorem halfUp_of_lt {n : Int} (h : n.natAbs < 2 * overflow) : halfUp n = .ok ⌈nearHalf n⌉ := by
  cases hx : nearest? (decide (n < 0)) n.natAbs 2 with
  | none =>
    have hlarge := (nearest?_eq_none_iff _ (by decide)).mp hx
    exact absurd hlarge (Nat.not_le.mpr h)
  | some x =>
    obtain ⟨m, e, hshape, hworth⟩ := shape_nearest (by decide) hx
    rw [halfUp, div_two_of_some hx]
    show (ceil (.real x)).mapError Fault.arithmetic = _
    rw [ceil_of_shape hshape, hworth, nearHalf]
    simp only [decide_eq_true_eq]
    rfl

/-- What half a score shows as. -/
structure Halved (n : Int) (half : Result Data) : Prop where
  exact : half = .ok (.int ⌈(n : ℚ) / 2⌉) ↔ HalvesExactly n
  near : 2 ^ 53 ≤ n.natAbs → n.natAbs < 2 * overflow → ∃ m, half = .ok (.int m) ∧ NextToHalf n m
  fault : 2 * overflow ≤ n.natAbs → half = .error (.arithmetic .quotientTooLarge)

theorem halved_halfUp (n : Int) : Halved n ((halfUp n).map .int) where
  exact := by
    by_cases h : n.natAbs < 2 * overflow
    · rw [halfUp_of_lt h, ← ceil_nearHalf_eq_iff h]
      simp [Except.map]
    · rw [halfUp_of_ge (Nat.not_lt.mp h)]
      exact iff_of_false nofun fun hn => h hn.lt
  near hlarge hfits := by
    rw [halfUp_of_lt hfits]
    exact ⟨_, rfl, ceil_nearHalf_of_le hlarge⟩
  fault h := by
    rw [halfUp_of_ge h]
    rfl

/-! ## Virtues and scores -/

/-- The virtues without which humanity is less than its score. -/
def humaneVirtues : List String := ["conscience", "self-control"]

/-- One point is lost for each virtue that does not occur in a text, in whatever case. -/
def penaltyOf (virtues : String) : Int :=
  -(humaneVirtues.countP fun virtue => ¬ virtue.toList <:+: (Text.lower virtues).toList : Nat)

/-- What can be read of the trait by a name, where there is one. -/
def Reads (c : Character) (name : String) : Option Value → Prop
  | none => c.named? name = none
  | some v => ∃ t, c.named? name = some t ∧ c.expandedValue t = .ok v

/-- Only an integer is a score. -/
def scoreOf : Option Value → Int
  | some (.int n) => n
  | _ => 0

/-- The text of what was read, which is empty where nothing was. -/
def textOf : Option Value → Result String
  | some v => v.shown
  | none => .ok ""

theorem occursIn_iff {part cs : List Char} : Text.occursIn part cs = true ↔ part <:+: cs := by
  induction cs with
  | nil => simp [Text.occursIn]
  | cons c r ih =>
    rw [Text.occursIn, Bool.or_eq_true, ih, List.isPrefixOf_iff_prefix, List.infix_cons_iff]

theorem resolvePenalty_eq (virtues : String) : resolvePenalty virtues = penaltyOf virtues := by
  unfold resolvePenalty penaltyOf humaneVirtues
  simp only [occursIn_iff, List.countP_cons, List.countP_nil, decide_not, Bool.not_eq_true',
    decide_eq_false_iff_not]
  split <;> split <;> simp_all

section

variable {c : Character} {virtues score : Option Value}

theorem Reads.virtuesPenalty (h : c.Reads c.engine.ruleset.virtuesTrait virtues) :
    c.virtuesPenalty c.ask [] = (textOf virtues).map penaltyOf := by
  rw [Character.virtuesPenalty, ← funext resolvePenalty_eq]
  cases virtues with
  | none =>
    have hnone : c.named? c.engine.ruleset.virtuesTrait = none := h
    rw [hnone]
    rfl
  | some v =>
    obtain ⟨t, ht, hv⟩ := h
    have hread : c.ask [] (.trait t) = .ok v := hv
    rw [ht]
    dsimp only
    rw [hread, textOf]
    show (v.shown >>= _) = _
    cases v.shown <;> rfl

theorem Reads.pathScore (h : c.Reads c.engine.ruleset.pathScoreTrait score) :
    c.pathScore c.ask [] = .ok (scoreOf score) := by
  rw [Character.pathScore]
  cases score with
  | none =>
    have hnone : c.named? c.engine.ruleset.pathScoreTrait = none := h
    rw [hnone]
    rfl
  | some v =>
    obtain ⟨t, ht, hv⟩ := h
    have hread : c.ask [] (.trait t) = .ok v := hv
    rw [ht]
    dsimp only
    rw [hread]
    cases v <;> rfl

theorem lookup_effectiveHumanity (c : Character) : c.lookup (.text "EFFECTIVEHUMANITY") =
    (c.effectiveHumanity c.ask []).map .int := by
  have hname : Ruleset.isReserved "EFFECTIVEHUMANITY" = true := by decide
  have hreserved : c.reserved c.ask [] "EFFECTIVEHUMANITY" = c.effectiveHumanity c.ask [] := rfl
  rw [lookup_text, value_name (by decide) (by decide) (by decide) (by decide),
    meaning_of_isReserved hname, hreserved]
  cases c.effectiveHumanity c.ask [] <;> rfl

/-- Effective humanity is the score where no virtue is missing, half of it where one is, as far as
halving is exact, and next to nothing where both are. Virtues that have no text are a fault. -/
theorem effectiveHumanity_exact (hvirtues : c.Reads c.engine.ruleset.virtuesTrait virtues)
    (hscore : c.Reads c.engine.ruleset.pathScoreTrait score) :
    (∀ text, textOf virtues = .ok text →
      (penaltyOf text = 0 → c.lookup (.text "EFFECTIVEHUMANITY") = .ok (.int (scoreOf score))) ∧
      (penaltyOf text = -1 → Halved (scoreOf score) (c.lookup (.text "EFFECTIVEHUMANITY"))) ∧
      (penaltyOf text < -1 → c.lookup (.text "EFFECTIVEHUMANITY") =
        .ok (.int (if 0 < scoreOf score then 1 else 0)))) ∧
    ∀ f, textOf virtues = .error f → c.lookup (.text "EFFECTIVEHUMANITY") = .error f := by
  rw [lookup_effectiveHumanity, Character.effectiveHumanity, hscore.pathScore,
    hvirtues.virtuesPenalty]
  refine ⟨fun text htext => ?_, fun f hf => by rw [hf]; rfl⟩
  rw [htext, Except.map]
  dsimp only [bind, Except.bind]
  refine ⟨?_, ?_, ?_⟩
  · intro hp
    rw [hp]
    rfl
  · intro hp
    rw [hp]
    exact halved_halfUp _
  · intro hp
    split
    · omega
    · omega
    · rfl

end

end Character

/-- Virtues that lack self-control, and a score whose half is no double. -/
def Ruleset.humane : Ruleset :=
  .small
    [.small 1 "Virtues" "" "Conscience and Instinct", .small 2 "Path Score" "" "9007199254740993"]
    [.small .mortal [1, 2]]

def Engine.humane : Engine where
  ruleset := .humane
  traits := ⟨TraitDefinition.finished Ruleset.humane.traits [([], []), ([], [])], .empty⟩
  templates := ⟨[{ TemplateDefinition.small .mortal [1, 2] with traitIds := [1, 2] }]⟩
  paths := .empty

theorem Engine.build_humane : build .humane = .ok .humane := (rfl)

namespace Character

def humane : Character where
  engine := .humane
  id := 0
  templates := [.mortal]
  traits := Engine.humane.traits.definitions.map .fresh
  bindings := .empty
  groups := .empty

theorem reachable_humane : Reachable humane := by
  have hcreate : create .humane ⟨0, [], [], .empty⟩ = .ok (humane, []) := rfl
  exact .created Engine.build_humane hcreate

theorem humane_reads_virtues : humane.Reads humane.engine.ruleset.virtuesTrait
    (some (.text "Conscience and Instinct")) :=
  ⟨_, rfl, rfl⟩

theorem humane_reads_score : humane.Reads humane.engine.ruleset.pathScoreTrait
    (some (.int 9007199254740993)) :=
  ⟨_, rfl, rfl⟩

/-- The half of this score is a tie between two integers, and goes to the one below. -/
theorem half_of_odd_score_falls_short : Reachable humane ∧
    humane.Reads humane.engine.ruleset.virtuesTrait (some (.text "Conscience and Instinct")) ∧
    humane.Reads humane.engine.ruleset.pathScoreTrait (some (.int 9007199254740993)) ∧
    penaltyOf "Conscience and Instinct" = -1 ∧
    humane.lookup (.text "EFFECTIVEHUMANITY") = .ok (.int 4503599627370496) ∧
    ⌈((9007199254740993 : Int) : ℚ) / 2⌉ = 4503599627370497 := by
  have hceil := Number.ceil_half 9007199254740993
  exact ⟨reachable_humane, humane_reads_virtues, humane_reads_score, by decide, rfl, hceil⟩

theorem effectiveHumanity_exact_humane :
    Halved 9007199254740993 (humane.lookup (.text "EFFECTIVEHUMANITY")) :=
  ((effectiveHumanity_exact humane_reads_virtues humane_reads_score).1 _ rfl).2.1 (by decide)

end Character

end CharacterSheet
