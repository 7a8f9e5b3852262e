import CharacterSheet.Number.Arithmetic
import Mathlib.Algebra.Order.Ring.Nat
import Mathlib.Tactic.Ring

/-! The range of the doubles. A quotient has no double next to it where it is at least halfway from the
largest double to the next power of two. The place of the last bit is chosen such that fifty-three bits
are kept, or fewer at the lower end of the range; so only at the topmost place does it matter how the
quotient is rounded, and the halfway point goes up there. -/

namespace CharacterSheet.Number

/-- One place below the last bit of the largest double, `(2 ^ 53 - 1) * 2 ^ 971`. -/
def halfPlace : Nat := 970

/-- Halfway from the largest double to the next power of two. -/
def overflow : Nat := (2 ^ 54 - 1) * 2 ^ halfPlace

/-! ## Rounding -/

theorem roundQuotient_cases (n d : Nat) :
    2 * (n % d) < d ∧ roundQuotient n d = n / d ∨
    d < 2 * (n % d) ∧ roundQuotient n d = n / d + 1 ∨
    2 * (n % d) = d ∧ roundQuotient n d % 2 = 0 ∧
      (roundQuotient n d = n / d ∨ roundQuotient n d = n / d + 1) := by
  unfold roundQuotient
  dsimp only
  by_cases hbelow : 2 * (n % d) < d
  · simp [hbelow]
  · by_cases habove : d < 2 * (n % d)
    · simp [hbelow, habove]
    · have htie : 2 * (n % d) = d := by omega
      by_cases heven : n / d % 2 = 0
      · simp [htie, heven]
      · simp [htie, heven]
        omega

/-- No other number is nearer. -/
theorem roundQuotient_near {n d : Nat} (hd : 0 < d) :
    2 * (d * roundQuotient n d) ≤ 2 * n + d ∧ 2 * n ≤ 2 * (d * roundQuotient n d) + d := by
  have hn : d * (n / d) + n % d = n := Nat.div_add_mod n d
  have hr : n % d < d := Nat.mod_lt n hd
  have hsucc : d * (n / d + 1) = d * (n / d) + d := Nat.mul_succ _ _
  rcases roundQuotient_cases n d with ⟨_, he⟩ | ⟨_, he⟩ | ⟨_, _, he | he⟩ <;> rw [he] <;> omega

theorem roundQuotient_even {n d : Nat} (h : 2 * n = 2 * (d * roundQuotient n d) + d) (hd : 0 < d) :
    roundQuotient n d % 2 = 0 := by
  have hn : d * (n / d) + n % d = n := Nat.div_add_mod n d
  have hr : n % d < d := Nat.mod_lt n hd
  have hsucc : d * (n / d + 1) = d * (n / d) + d := Nat.mul_succ _ _
  rcases roundQuotient_cases n d with ⟨_, he⟩ | ⟨_, he⟩ | ⟨_, heven, _⟩
  · rw [he] at h
    omega
  · rw [he] at h
    omega
  · exact heven

/-- Halfway below an even number is rounded up to it. -/
theorem even_le_roundQuotient_iff {k n d : Nat} (hd : 0 < d) :
    2 * k ≤ roundQuotient n d ↔ 2 * (d * (2 * k)) ≤ 2 * n + d := by
  obtain ⟨hlow, hhigh⟩ := roundQuotient_near (n := n) hd
  constructor
  · intro h
    have : d * (2 * k) ≤ d * roundQuotient n d := Nat.mul_le_mul_left d h
    omega
  · intro h
    by_contra hlt
    have hle : d * (roundQuotient n d + 1) ≤ d * (2 * k) := Nat.mul_le_mul_left d (by omega)
    rw [Nat.mul_succ] at hle
    -- then the quotient is halfway between, and was not rounded to the even side
    have heven := roundQuotient_even (n := n) (d := d) (by omega) hd
    have hnext : d * (roundQuotient n d + 1) = d * (2 * k) := by
      rw [Nat.mul_succ]
      omega
    have := Nat.eq_of_mul_eq_mul_left hd hnext
    omega

theorem roundQuotient_le_of_lt {n d q : Nat} (hd : 0 < d) (h : n < d * q) :
    roundQuotient n d ≤ q := by
  obtain ⟨hlow, _⟩ := roundQuotient_near (n := n) hd
  by_contra hlt
  have hle : d * (q + 1) ≤ d * roundQuotient n d := Nat.mul_le_mul_left d (by omega)
  rw [Nat.mul_succ] at hle
  omega

theorem le_roundQuotient_of_le {n d q : Nat} (hd : 0 < d) (h : d * q ≤ n) :
    q ≤ roundQuotient n d := by
  obtain ⟨_, hhigh⟩ := roundQuotient_near (n := n) hd
  by_contra hlt
  have hle : d * (roundQuotient n d + 1) ≤ d * q := Nat.mul_le_mul_left d (by omega)
  rw [Nat.mul_succ] at hle
  omega

/-! ## Places -/

section Places

variable {num den k x y : Nat} {e : Int}

theorem scaled_pos (num : Nat) (hden : 0 < den) (e : Int) : 0 < (scaled num den e).2 := by
  unfold scaled
  split
  · exact Nat.mul_pos hden (Nat.pow_pos (by decide))
  · exact hden

theorem scaled_of_nonneg (h : 0 ≤ e) : scaled num den e = (num, den * 2 ^ e.toNat) := by
  simp [scaled, h]

/-- A bound of the numerator from above and one of the denominator from below, as powers of two. -/
theorem scaled_lt (hnum : num < 2 ^ x) (hden : 2 ^ y ≤ den) (h : (x : Int) ≤ y + e + k) :
    (scaled num den e).1 < (scaled num den e).2 * 2 ^ k := by
  unfold scaled
  split
  · calc num < 2 ^ x := hnum
      _ ≤ 2 ^ (y + e.toNat + k) := Nat.pow_le_pow_right (by decide) (by omega)
      _ = 2 ^ y * 2 ^ e.toNat * 2 ^ k := by rw [pow_add, pow_add]
      _ ≤ den * 2 ^ e.toNat * 2 ^ k := by gcongr
  · calc num * 2 ^ (-e).toNat < 2 ^ x * 2 ^ (-e).toNat :=
          Nat.mul_lt_mul_of_pos_right hnum (Nat.pow_pos (by decide))
      _ = 2 ^ (x + (-e).toNat) := by rw [pow_add]
      _ ≤ 2 ^ (y + k) := Nat.pow_le_pow_right (by decide) (by omega)
      _ = 2 ^ y * 2 ^ k := by rw [pow_add]
      _ ≤ den * 2 ^ k := by gcongr

/-- The first choice of the place keeps at most one bit too many. -/
def firstPlace (num den : Nat) : Int := max ((Nat.log2 num : Int) - Nat.log2 den - 53) (-1074)

theorem lastPlace_cases (num den : Nat) :
    num = 0 ∧ lastPlace num den = -1074 ∨
    num ≠ 0 ∧ lastPlace num den = firstPlace num den ∧
      (scaled num den (firstPlace num den)).1 / (scaled num den (firstPlace num den)).2 < 2 ^ 53 ∨
    num ≠ 0 ∧ lastPlace num den = firstPlace num den + 1 ∧
      2 ^ 53 ≤ (scaled num den (firstPlace num den)).1 / (scaled num den (firstPlace num den)).2 := by
  unfold lastPlace
  dsimp only
  rw [← firstPlace]
  by_cases hzero : num = 0
  · simp [hzero]
  · by_cases hfits : (scaled num den (firstPlace num den)).1 /
        (scaled num den (firstPlace num den)).2 < 2 ^ 53
    · simp_all
    · simp_all

/-- At most fifty-three bits are kept. -/
theorem scaled_lastPlace_lt (num : Nat) (hden : 0 < den) :
    (scaled num den (lastPlace num den)).1 < (scaled num den (lastPlace num den)).2 * 2 ^ 53 := by
  rcases lastPlace_cases num den with ⟨rfl, _⟩ | ⟨_, hplace, hfits⟩ | ⟨hnum, hplace, _⟩
  · have := scaled_pos 0 hden (lastPlace 0 den)
    have hzero : (scaled 0 den (lastPlace 0 den)).1 = 0 := by
      unfold scaled
      split <;> simp
    omega
  · rw [hplace]
    rw [Nat.mul_comm]
    exact (Nat.div_lt_iff_lt_mul (scaled_pos num hden _)).mp hfits
  · rw [hplace]
    apply scaled_lt Nat.lt_log2_self (Nat.log2_self_le (by omega))
    have : (Nat.log2 num : Int) - Nat.log2 den - 53 ≤ firstPlace num den := le_max_left _ _
    omega

/-- Fifty-three bits are kept, unless the place is the lowest one. -/
theorem scaled_lastPlace_ge (hden : 0 < den) (h : 0 < lastPlace num den) :
    den * 2 ^ (lastPlace num den).toNat * 2 ^ 52 ≤ num := by
  rcases lastPlace_cases num den with ⟨_, hplace⟩ | ⟨hnum, hplace, _⟩ | ⟨_, hplace, hmore⟩
  · omega
  · have hfirst : firstPlace num den = (Nat.log2 num : Int) - Nat.log2 den - 53 := by
      unfold firstPlace at hplace ⊢
      omega
    calc den * 2 ^ (lastPlace num den).toNat * 2 ^ 52
        ≤ 2 ^ (Nat.log2 den + 1) * 2 ^ (lastPlace num den).toNat * 2 ^ 52 := by
          gcongr
          exact Nat.le_of_lt Nat.lt_log2_self
      _ = 2 ^ Nat.log2 num := by
          rw [← pow_add, ← pow_add]
          congr 1
          omega
      _ ≤ num := Nat.log2_self_le hnum
  · have hnonneg : 0 ≤ firstPlace num den := by omega
    rw [scaled_of_nonneg hnonneg] at hmore
    have hle := (Nat.le_div_iff_mul_le (Nat.mul_pos hden (Nat.pow_pos (by decide)))).mp hmore
    calc den * 2 ^ (lastPlace num den).toNat * 2 ^ 52
        = 2 ^ 53 * (den * 2 ^ (firstPlace num den).toNat) := by
          have hsucc : (lastPlace num den).toNat = (firstPlace num den).toNat + 1 := by omega
          rw [hsucc, pow_succ]
          ring
      _ ≤ num := hle

end Places

theorem nearest?_eq_none_iff_bits {negative : Bool} {num den : Nat} :
    nearest? negative num den = none ↔ 2047 * 2 ^ 52 ≤
      (lastPlace num den + 1074).toNat * 2 ^ 52 +
        roundQuotient (scaled num den (lastPlace num den)).1
          (scaled num den (lastPlace num den)).2 := by
  unfold nearest?
  dsimp only
  simp only [Nat.pow_eq]
  split <;> simp_all

theorem lt_overflow_of_place {num den : Nat} (hden : 0 < den)
    (h : lastPlace num den ≤ halfPlace) : num < den * overflow := by
  have hbelow := scaled_lastPlace_lt num hden
  have hone : 1 ≤ 2 ^ halfPlace := Nat.pow_pos (by decide)
  have hwide : den * 2 ^ 53 * 2 ^ halfPlace ≤ den * overflow := by
    rw [overflow, ← Nat.mul_assoc]
    exact Nat.mul_le_mul_right _ (Nat.mul_le_mul_left den (by decide))
  refine Nat.lt_of_lt_of_le ?_ hwide
  by_cases hnonneg : 0 ≤ lastPlace num den
  · have hpow : 2 ^ (lastPlace num den).toNat ≤ 2 ^ halfPlace :=
      Nat.pow_le_pow_right (by decide) (by omega)
    rw [scaled_of_nonneg hnonneg] at hbelow
    calc num < den * 2 ^ (lastPlace num den).toNat * 2 ^ 53 := hbelow
      _ ≤ den * 2 ^ halfPlace * 2 ^ 53 := Nat.mul_le_mul_right _ (Nat.mul_le_mul_left den hpow)
      _ = den * 2 ^ 53 * 2 ^ halfPlace := Nat.mul_right_comm _ _ _
  · simp only [scaled, hnonneg, if_false] at hbelow
    calc num ≤ num * 2 ^ (-lastPlace num den).toNat :=
          Nat.le_mul_of_pos_right _ (Nat.pow_pos (by decide))
      _ < den * 2 ^ 53 := hbelow
      _ ≤ den * 2 ^ 53 * 2 ^ halfPlace := Nat.le_mul_of_pos_right _ hone

theorem overflow_le_of_place {num den : Nat} (hden : 0 < den)
    (h : halfPlace + 2 ≤ lastPlace num den) : den * overflow ≤ num := by
  have hpow : 2 ^ (halfPlace + 2) ≤ 2 ^ (lastPlace num den).toNat :=
    Nat.pow_le_pow_right (by decide) (by omega)
  have hexponents : 2 ^ 54 * 2 ^ halfPlace = 2 ^ (halfPlace + 2) * 2 ^ 52 := by
    rw [← pow_add, ← pow_add, Nat.add_comm]
  calc den * overflow ≤ den * (2 ^ 54 * 2 ^ halfPlace) := by
        rw [overflow]
        exact Nat.mul_le_mul_left den (Nat.mul_le_mul_right _ (by decide))
    _ = den * 2 ^ (halfPlace + 2) * 2 ^ 52 := by rw [hexponents, Nat.mul_assoc]
    _ ≤ den * 2 ^ (lastPlace num den).toNat * 2 ^ 52 :=
        Nat.mul_le_mul_right _ (Nat.mul_le_mul_left den hpow)
    _ ≤ num := scaled_lastPlace_ge hden (by omega)

/-- At the topmost place halfway is rounded up, out of the range. -/
theorem topPlace_iff (num : Nat) {den : Nat} (hden : 0 < den) :
    2 ^ 53 ≤ roundQuotient num (den * 2 ^ (halfPlace + 1)) ↔ den * overflow ≤ num := by
  have heven := even_le_roundQuotient_iff (k := 2 ^ 52) (n := num)
    (d := den * 2 ^ (halfPlace + 1)) (Nat.mul_pos hden (Nat.pow_pos (by decide)))
  have hunit : den * 2 ^ (halfPlace + 1) = 2 * (den * 2 ^ halfPlace) := by
    rw [pow_succ, ← Nat.mul_assoc, Nat.mul_comm]
  have hbound : den * overflow = (2 ^ 54 - 1) * (den * 2 ^ halfPlace) := by
    rw [overflow, Nat.mul_left_comm]
  rw [hbound]
  rw [hunit] at heven ⊢
  omega

/-- Whether a quotient has a double next to it is told by exact numbers. -/
theorem nearest?_eq_none_iff (negative : Bool) {num den : Nat} (hden : 0 < den) :
    nearest? negative num den = none ↔ den * overflow ≤ num := by
  have hhalf : halfPlace = 970 := rfl
  rw [nearest?_eq_none_iff_bits]
  rcases lt_trichotomy (lastPlace num den) 971 with hplace | hplace | hplace
  · have hround := roundQuotient_le_of_lt (scaled_pos num hden (lastPlace num den))
      (scaled_lastPlace_lt num hden)
    have hnum := lt_overflow_of_place hden (show lastPlace num den ≤ halfPlace by omega)
    constructor <;> intro <;> omega
  · have htop := topPlace_iff num hden
    have hplaces : (971 : Int).toNat = halfPlace + 1 := rfl
    rw [hplace, scaled_of_nonneg (by decide), hplaces, ← htop]
    dsimp only
    omega
  · have hround : 2 ^ 52 ≤ roundQuotient (scaled num den (lastPlace num den)).1
        (scaled num den (lastPlace num den)).2 := by
      apply le_roundQuotient_of_le (scaled_pos num hden _)
      rw [scaled_of_nonneg (by omega)]
      exact scaled_lastPlace_ge hden (by omega)
    have hnum := overflow_le_of_place hden (show halfPlace + 2 ≤ lastPlace num den by omega)
    constructor <;> intro <;> omega

theorem ofInt?_eq_none_iff {n : Int} : ofInt? n = none ↔ overflow ≤ n.natAbs := by
  rw [ofInt?, nearest?_eq_none_iff _ Nat.one_pos, Nat.one_mul]

end CharacterSheet.Number
