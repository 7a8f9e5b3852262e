import CharacterSheet.Proofs.Doubles
import Mathlib.Data.Rat.Floor
import Mathlib.Tactic.Linarith
import Mathlib.Tactic.NormNum
import Mathlib.Tactic.Positivity

/-! What the double next to a quotient is worth. The word of a finite double is made up of its sign, its
exponent and its fraction, and is read back from them as it was; so the shape of the double next to a
quotient is known. Its mantissa is the rounded quotient, and where rounding has carried into a
fifty-fourth bit, half of it at the next place. -/

namespace CharacterSheet.Number

open Float.Model Float.Model.UnpackedFloat

/-! ## Words and their fields -/

theorem toNat_append {m n : Nat} (x : BitVec m) (y : BitVec n) :
    (x ++ y).toNat = x.toNat * 2 ^ n + y.toNat := by
  rw [BitVec.toNat_append, ← Nat.shiftLeft_add_eq_or_of_lt y.isLt, Nat.shiftLeft_eq]

section

variable (b : BitVec Format.binary64.numBits)

theorem toNat_unpackMantissa : (unpackMantissa b).toNat = b.toNat % 2 ^ 52 := by
  simp [unpackMantissa, BitVec.extractLsb]

theorem toNat_unpackExponent : (unpackExponent b).toNat = b.toNat / 2 ^ 52 % 2 ^ 11 := by
  simp [unpackExponent, BitVec.extractLsb, Nat.shiftRight_eq_div_pow]

theorem toNat_unpackSign : (unpackSign b).toNat = b.toNat / 2 ^ 63 := by
  have hword : b.toNat < 2 ^ 64 := b.isLt
  show (BitVec.extractLsb 63 63 b).toNat = _
  rw [BitVec.extractLsb_toNat, Nat.shiftRight_eq_div_pow]
  omega

/-- A word is the one that its three fields make up. -/
theorem packComponents_fields : packComponents Format.binary64 (Sign.ofBitVec (unpackSign b))
    (unpackExponent b) (unpackMantissa b) = b := by
  have hsign : ∀ s : BitVec 1, (Sign.ofBitVec s).toBitVec = s := by decide
  have hword : b.toNat < 2 ^ 64 := b.isLt
  apply BitVec.eq_of_toNat_eq
  rw [packComponents, hsign]
  show (_ ++ _ : BitVec (1 + 11 + 52)).toNat = _
  rw [toNat_append, toNat_append, toNat_unpackMantissa, toNat_unpackExponent, toNat_unpackSign]
  show (b.toNat / 2 ^ 63 * 2 ^ 11 + b.toNat / 2 ^ 52 % 2 ^ 11) * 2 ^ 52 + b.toNat % 2 ^ 52 = _
  omega

/-- Zero, the doubles that have lost leading bits, and all others are read back from their fields. -/
theorem pack_unpack (h : unpackExponent b ≠ -1#_) :
    UnpackedFloat.pack Format.binary64 (UnpackedFloat.unpack Format.binary64 b) = b := by
  have hword := packComponents_fields b
  have hfraction : (unpackMantissa b).toNat < 2 ^ 52 := (unpackMantissa b).isLt
  unfold UnpackedFloat.unpack
  dsimp only
  rw [if_neg h]
  by_cases hexponent : unpackExponent b = 0#_
  · rw [if_pos hexponent]
    rw [hexponent] at hword
    by_cases hzero : unpackMantissa b = 0#_
    · rw [dif_pos hzero]
      rw [hzero] at hword
      exact hword
    · have hne : (unpackMantissa b).toNat ≠ 0 := fun he => hzero (BitVec.eq_of_toNat_eq he)
      have hlog : (unpackMantissa b).toNat.log2 < 52 := (Nat.log2_lt hne).mpr hfraction
      rw [dif_neg hzero, hexponent]
      unfold UnpackedFloat.pack
      dsimp only
      have hbits : Format.binary64.mantissaBits = 53 := rfl
      rw [if_neg (by decide), if_neg (by rw [hbits]; omega)]
      simpa using hword
  · have himplicit : (1#1 ++ unpackMantissa b).toNat = 2 ^ 52 + (unpackMantissa b).toNat :=
      (toNat_append _ _).trans rfl
    have hlog : (1#1 ++ unpackMantissa b).toNat.log2 = 52 := by
      rw [himplicit, Nat.log2_eq_iff (by omega)]
      omega
    have hbelow : (unpackExponent b).toNat < 2 ^ 11 - 1 := by
      have hwidth : (unpackExponent b).toNat < 2 ^ 11 := (unpackExponent b).isLt
      have hne : (unpackExponent b).toNat ≠ 2 ^ 11 - 1 := fun he => h (BitVec.eq_of_toNat_eq he)
      omega
    have hbiased : (((unpackExponent b).toNat : Int) -
        ((Format.binary64.exponentBias : Int) + Format.binary64.mantissaBitsWithoutImplicit) +
        Format.binary64.exponentBias + Format.binary64.mantissaBitsWithoutImplicit).toNat =
        (unpackExponent b).toNat := by
      omega
    have hcut : BitVec.ofNat 52 (2 ^ 52 + (unpackMantissa b).toNat) = unpackMantissa b := by
      apply BitVec.eq_of_toNat_eq
      rw [BitVec.toNat_ofNat]
      omega
    rw [if_neg hexponent]
    unfold UnpackedFloat.pack
    dsimp only
    push_cast at hbiased ⊢
    rw [hbiased, hlog, if_neg (by simp; omega), if_pos (by decide), himplicit, hcut,
      BitVec.ofNat_toNat, BitVec.setWidth_eq]
    exact hword

end

/-- The word of a finite double is the one that the double was made of. -/
theorem toBits_ofBits {word : Nat} (hword : word < 2 ^ 64) (h : word / 2 ^ 52 % 2 ^ 11 ≠ 2 ^ 11 - 1) :
    (Float.ofBits (UInt64.ofNat word)).toBits.toNat = word := by
  have hnat : (UInt64.ofNat word).toBitVec.toNat = word := by
    simp [UInt64.toNat_ofNat_of_lt' hword]
  have hexponent : @unpackExponent Format.binary64 (UInt64.ofNat word).toBitVec ≠ -1#_ := by
    intro he
    have hfield := congrArg BitVec.toNat he
    rw [toNat_unpackExponent, hnat] at hfield
    exact h hfield
  have hpack := pack_unpack _ hexponent
  show (UnpackedFloat.pack Format.binary64
    (UnpackedFloat.unpack Format.binary64 (UInt64.ofNat word).toBitVec)).toNat = word
  rw [hpack, hnat]

/-! ## The double next to a quotient -/

/-- The two ways in which the fields of a finite double are read. -/
theorem shape_ofBits (negative : Bool) {bits : Nat} (h : bits < 2047 * 2 ^ 52) :
    shape (.ofBits (UInt64.ofNat (if negative then bits + 2 ^ 63 else bits))) =
      if bits / 2 ^ 52 = 0 then .finite negative bits (-1074)
      else .finite negative (bits % 2 ^ 52 + 2 ^ 52) ((bits / 2 ^ 52 : Nat) - 1075) := by
  obtain ⟨word, hword⟩ : ∃ word, word = if negative then bits + 2 ^ 63 else bits := ⟨_, rfl⟩
  have hsign : (word / 2 ^ 63 == 1) = negative := by
    cases negative <;> simp at hword ⊢ <;> omega
  have hexponent : word / 2 ^ 52 % 2 ^ 11 = bits / 2 ^ 52 := by
    split at hword <;> omega
  have hfraction : word % 2 ^ 52 = bits % 2 ^ 52 := by
    split at hword <;> omega
  have hread : (Float.ofBits (UInt64.ofNat word)).toBits.toNat = word := by
    apply toBits_ofBits
    · split at hword <;> omega
    · omega
  have hfinite : (bits / 2 ^ 52 == 2047) = false := by
    rw [beq_eq_false_iff_ne]
    omega
  rw [← hword]
  unfold shape
  dsimp only
  simp only [Nat.pow_eq]
  rw [hread, hsign, hfraction, show (2048 : Nat) = 2 ^ 11 from rfl, hexponent, hfinite]
  by_cases hzero : bits / 2 ^ 52 = 0
  · have hall : bits % 2 ^ 52 = bits := by omega
    rw [hzero, hall]
    rfl
  · have hnormal : (bits / 2 ^ 52 == 0) = false := beq_eq_false_iff_ne.mpr hzero
    rw [hnormal, if_neg hzero]
    rfl

section

variable {negative : Bool} {num den : Nat} {x : Float}

theorem nearest?_eq_some (h : nearest? negative num den = some x) : ∃ bits, bits < 2047 * 2 ^ 52 ∧
    bits = (lastPlace num den + 1074).toNat * 2 ^ 52 + roundQuotient
      (scaled num den (lastPlace num den)).1 (scaled num den (lastPlace num den)).2 ∧
    x = .ofBits (UInt64.ofNat (if negative then bits + 2 ^ 63 else bits)) := by
  unfold nearest? at h
  dsimp only at h
  simp only [Nat.pow_eq] at h
  split at h
  · cases h
  · exact ⟨_, by omega, rfl, (Option.some.inj h).symm⟩

/-- No place is below the lowest one. -/
theorem lastPlace_ge (num den : Nat) : -1074 ≤ lastPlace num den := by
  have hfirst : -1074 ≤ firstPlace num den := le_max_right _ _
  rcases lastPlace_cases num den with ⟨_, he⟩ | ⟨_, he, _⟩ | ⟨_, he, _⟩ <;> omega

/-- A bound of the numerator from below and one of the denominator from above, as powers of two. -/
theorem le_scaled {k x y : Nat} {e : Int} (hnum : 2 ^ x ≤ num) (hden : den ≤ 2 ^ y)
    (h : (y : Int) + e + k ≤ x) : (scaled num den e).2 * 2 ^ k ≤ (scaled num den e).1 := by
  unfold scaled
  split
  · calc den * 2 ^ e.toNat * 2 ^ k ≤ 2 ^ y * 2 ^ e.toNat * 2 ^ k := by gcongr
      _ = 2 ^ (y + e.toNat + k) := by rw [pow_add, pow_add]
      _ ≤ 2 ^ x := Nat.pow_le_pow_right (by decide) (by omega)
      _ ≤ num := hnum
  · calc den * 2 ^ k ≤ 2 ^ y * 2 ^ k := by gcongr
      _ = 2 ^ (y + k) := by rw [pow_add]
      _ ≤ 2 ^ (x + (-e).toNat) := Nat.pow_le_pow_right (by decide) (by omega)
      _ = 2 ^ x * 2 ^ (-e).toNat := by rw [pow_add]
      _ ≤ num * 2 ^ (-e).toNat := by gcongr

/-- One place up the quotient is halved. -/
theorem scaled_succ (num den : Nat) (e : Int) :
    (scaled num den (e + 1)).2 = 2 * (scaled num den e).2 ∧
      (scaled num den (e + 1)).1 = (scaled num den e).1 ∨
    (scaled num den (e + 1)).2 = (scaled num den e).2 ∧
      2 * (scaled num den (e + 1)).1 = (scaled num den e).1 := by
  by_cases h : 0 ≤ e
  · left
    have hexp : (e + 1).toNat = e.toNat + 1 := by omega
    rw [scaled_of_nonneg h, scaled_of_nonneg (by omega), hexp, pow_succ]
    exact ⟨by ring, rfl⟩
  · right
    have hexp : (-e).toNat = (-(e + 1)).toNat + 1 := by omega
    by_cases hone : e = -1
    · subst hone
      simp [scaled, Nat.mul_comm]
    · have hneg : ¬ 0 ≤ e + 1 := by omega
      simp only [scaled, h, hneg, if_false, hexp, Nat.pow_eq, pow_succ]
      exact ⟨trivial, by ring⟩

/-- Above the lowest place fifty-three bits are kept. -/
theorem roundQuotient_ge (hden : 0 < den) (h : -1074 < lastPlace num den) :
    2 ^ 52 ≤ roundQuotient (scaled num den (lastPlace num den)).1
      (scaled num den (lastPlace num den)).2 := by
  apply le_roundQuotient_of_le (scaled_pos num hden _)
  rcases lastPlace_cases num den with ⟨_, hplace⟩ | ⟨hnum, hplace, _⟩ | ⟨_, hplace, hmore⟩
  · omega
  · rw [hplace] at h ⊢
    have hfirst : firstPlace num den = (Nat.log2 num : Int) - Nat.log2 den - 53 := by
      unfold firstPlace at h ⊢
      omega
    apply le_scaled (Nat.log2_self_le hnum) (Nat.le_of_lt Nat.lt_log2_self)
    omega
  · have hle := (Nat.le_div_iff_mul_le (scaled_pos num hden _)).mp hmore
    rw [hplace]
    rcases scaled_succ num den (firstPlace num den) with ⟨hd, hn⟩ | ⟨hd, hn⟩ <;> omega

/-- The mantissa is the rounded quotient, wherever the place of the last bit is. -/
theorem shape_nearest (hden : 0 < den) (h : nearest? negative num den = some x) :
    ∃ m e, shape x = .finite negative m e ∧
      (m : ℚ) * 2 ^ e = roundQuotient (scaled num den (lastPlace num den)).1
        (scaled num den (lastPlace num den)).2 * 2 ^ lastPlace num den := by
  obtain ⟨bits, hfinite, hbits, rfl⟩ := nearest?_eq_some h
  have hlow := lastPlace_ge num den
  have hround := roundQuotient_le_of_lt (scaled_pos num hden (lastPlace num den))
    (scaled_lastPlace_lt num hden)
  have hkept : -1074 < lastPlace num den → _ := roundQuotient_ge hden
  rw [shape_ofBits negative hfinite]
  generalize lastPlace num den = place at *
  generalize roundQuotient (scaled num den place).1 (scaled num den place).2 = q at *
  by_cases hsmall : q < 2 ^ 52
  · have hplace : place = -1074 := by omega
    subst hplace
    have hq : bits = q := by omega
    rw [if_pos (by omega), hq]
    exact ⟨q, _, rfl, rfl⟩
  · rw [if_neg (by omega)]
    by_cases hcarry : q = 2 ^ 53
    · refine ⟨_, _, rfl, ?_⟩
      have hm : bits % 2 ^ 52 + 2 ^ 52 = 2 ^ 52 := by omega
      have he : ((bits / 2 ^ 52 : Nat) : Int) - 1075 = place + 1 := by omega
      rw [hm, he, hcarry, zpow_add_one₀ (by decide)]
      push_cast
      ring
    · refine ⟨_, _, rfl, ?_⟩
      have hm : bits % 2 ^ 52 + 2 ^ 52 = q := by omega
      have he : ((bits / 2 ^ 52 : Nat) : Int) - 1075 = place := by omega
      rw [hm, he]

end

/-! ## Rounding up -/

/-- What a mantissa and an exponent are worth, as a quotient. -/
theorem scaled_worth (m : Nat) (e : Int) :
    ((scaled m 1 (-e)).1 : ℚ) / (scaled m 1 (-e)).2 = m * 2 ^ e := by
  rcases Int.eq_nat_or_neg e with ⟨k, rfl | rfl⟩
  · by_cases hzero : k = 0
    · subst hzero
      simp [scaled]
    · simp [scaled, hzero]
  · simp [scaled, div_eq_mul_inv]

theorem ceil_natCast_div (n : Nat) {d : Nat} (hd : 0 < d) :
    ⌈(n : ℚ) / d⌉ = ((n + d - 1) / d : Nat) := by
  have hdiv := Nat.div_add_mod (n + d - 1) d
  have hmod := Nat.mod_lt (n + d - 1) hd
  generalize (n + d - 1) / d = z at hdiv ⊢
  have hlow : z * d < n + d := by
    rw [Nat.mul_comm]
    omega
  have hhigh : n ≤ z * d := by
    rw [Nat.mul_comm]
    omega
  have hpos : (0 : ℚ) < d := by exact_mod_cast hd
  have hbelow : (z : ℚ) * d < n + d := by exact_mod_cast hlow
  rw [Int.ceil_eq_iff, lt_div_iff₀ hpos, div_le_iff₀ hpos]
  constructor
  · push_cast
    linarith
  · exact_mod_cast hhigh

/-- A finite double is rounded up as the number that it is. -/
theorem ceil_of_shape {x : Float} {negative : Bool} {m : Nat} {e : Int}
    (h : shape x = .finite negative m e) :
    ceil (.real x) = .ok ⌈if negative then -((m : ℚ) * 2 ^ e) else (m : ℚ) * 2 ^ e⌉ := by
  have hpos : 0 < (scaled m 1 (-e)).2 := scaled_pos m Nat.one_pos (-e)
  rw [ceil, h, ← scaled_worth]
  dsimp only
  cases negative with
  | true =>
    rw [if_pos rfl, if_pos rfl, Int.ceil_neg, Rat.floor_natCast_div_natCast]
    rfl
  | false =>
    rw [if_neg Bool.false_ne_true, if_neg Bool.false_ne_true, ceil_natCast_div _ hpos]

end CharacterSheet.Number
