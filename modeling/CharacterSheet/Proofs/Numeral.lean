import CharacterSheet.Proofs.IntegerText
import CharacterSheet.Record.Scalars
import Mathlib.Data.List.Basic
import Mathlib.Data.List.TakeWhile
import Mathlib.Data.Nat.Digits.Defs

/-! Integers as texts. The text of an integer has no blanks, points or low lines, and no zero before
its first digit, so a record's reader takes it as it stands and gives the integer back, and so does the
reader of values where the integer can be written at all. What is read from a text can be. -/

namespace CharacterSheet.Record

theorem toDigits_head {n : Nat} (h : 0 < n) : ∃ c r, Nat.toDigits 10 n = c :: r ∧ c ≠ '0' := by
  induction n using Nat.strongRecOn with
  | ind n ih =>
    by_cases hlt : n < 10
    · refine ⟨n.digitChar, [], Nat.toDigits_of_lt_base hlt, ?_⟩
      rw [ne_eq, Nat.digitChar_eq_zero]
      omega
    · obtain ⟨c, r, he, hc⟩ := ih (n / 10) (by omega) (by omega)
      refine ⟨c, r ++ [(n % 10).digitChar], ?_, hc⟩
      rw [Nat.toDigits_of_base_le (by decide) (by omega), he, List.cons_append]

theorem isDigit_of_mem {n : Nat} {c : Char} (h : c ∈ Nat.toDigits 10 n) : c.isDigit = true :=
  Nat.isDigit_of_mem_toDigits (by decide) (by decide) h

theorem dropZeros?_toDigits (n : Nat) : dropZeros? (Nat.toDigits 10 n) = some (Nat.toDigits 10 n) := by
  cases n with
  | zero => rfl
  | succ n =>
    obtain ⟨c, r, he, hc⟩ := toDigits_head (Nat.succ_pos n)
    have hd : c.isDigit = true := isDigit_of_mem (n := n + 1) (by rw [he]; exact List.mem_cons_self)
    rw [he, dropZeros?, if_neg (by simpa using hc), if_pos hd]

theorem foldl_toDigits (n : Nat) :
    (Nat.toDigits 10 n).foldl (fun n c => n * 10 + (c.toNat - '0'.toNat)) 0 = n := by
  have h := Nat.ofDigitChars_ten_toDigits (n := n)
  rw [Nat.ofDigitChars_eq_foldl] at h
  simpa only [Nat.mul_comm] using h

theorem digits?_toDigits (n : Nat) : digits? (Nat.toDigits 10 n) = some n := by
  have hall : (Nat.toDigits 10 n).all Char.isDigit = true :=
    List.all_eq_true.mpr fun c hc => isDigit_of_mem hc
  have hvalue := foldl_toDigits n
  cases hds : Nat.toDigits 10 n with
  | nil => exact absurd hds Nat.toDigits_ne_nil
  | cons c r =>
    have hzero : (c == '0' && !r.isEmpty) = false := by
      cases n with
      | zero => cases hds; rfl
      | succ n =>
        obtain ⟨d, s, he, hd⟩ := toDigits_head (Nat.succ_pos n)
        rw [he] at hds
        cases hds
        simp [hd]
    rw [hds] at hall hvalue
    rw [digits?, hall, hzero, hvalue]
    rfl

/-- The characters of the text of an integer. -/
def isPlain (c : Char) : Bool := c.isDigit || c == '-'

theorem isPlain_of_mem {n : Nat} {c : Char} (h : c ∈ Nat.toDigits 10 n) : isPlain c = true := by
  rw [isPlain, isDigit_of_mem h, Bool.true_or]

theorem toList_natural (n : Nat) : (toString n).toList = Nat.toDigits 10 n := Nat.toList_repr

theorem toList_negative (n : Nat) :
    ("-" ++ toString (n + 1)).toList = '-' :: Nat.toDigits 10 (n + 1) := by
  rw [String.toList_append, toList_natural]
  rfl

theorem isPlain_of_mem_toString {n : Int} {c : Char} (h : c ∈ (toString n).toList) :
    isPlain c = true := by
  cases n with
  | ofNat n =>
    have hc : c ∈ Nat.toDigits 10 n := toList_natural n ▸ h
    exact isPlain_of_mem hc
  | negSucc n =>
    have hc : c ∈ '-' :: Nat.toDigits 10 (n + 1) := toList_negative n ▸ h
    rcases List.mem_cons.mp hc with rfl | hc
    · rfl
    · exact isPlain_of_mem hc

theorem isPlain_ne {c : Char} (h : isPlain c = true) :
    c ≠ '.' ∧ c ≠ '_' ∧ Text.isBlank c = false := by
  rw [isPlain, Bool.or_eq_true] at h
  rcases h with h | h
  · have hrange : 48 ≤ c.toNat ∧ c.toNat ≤ 57 := Char.isDigit_iff_toNat.mp h
    refine ⟨?_, ?_, ?_⟩
    · rintro rfl
      exact absurd hrange (by decide)
    · rintro rfl
      exact absurd hrange (by decide)
    · simp [Text.isBlank]
      omega
  · obtain rfl : c = '-' := by simpa using h
    decide

theorem dropWhile_eq_self {p : Char → Bool} {cs : List Char} (h : ∀ c ∈ cs, p c = false) :
    cs.dropWhile p = cs := by
  cases cs with
  | nil => rfl
  | cons c r => exact List.dropWhile_cons_of_neg (by simp [h c List.mem_cons_self])

theorem trimBy_eq_self {p : Char → Bool} {cs : List Char} (h : ∀ c ∈ cs, p c = false) :
    Text.trimBy p cs = cs := by
  rw [Text.trimBy, Text.dropEnd, dropWhile_eq_self h, dropWhile_eq_self, List.reverse_reverse]
  exact fun c hc => h c (List.mem_reverse.mp hc)

theorem dropZeroFraction_eq_self {cs : List Char} (h : ∀ c ∈ cs, c ≠ '.') :
    dropZeroFraction cs = cs := by
  have hnil : cs.dropWhile (· != '.') = [] :=
    List.dropWhile_eq_nil_iff.mpr fun c hc => bne_iff_ne.mpr (h c hc)
  rw [dropZeroFraction, hnil]

theorem dropLines_eq_self {cs : List Char} (h : ∀ c ∈ cs, c ≠ '_') : dropLines cs = cs := by
  unfold dropLines
  split
  · rfl
  · exact List.filter_eq_self.mpr fun c hc => bne_iff_ne.mpr (h c hc)

/-- Nothing is left out of a plain text between its sign and its end. -/
theorem spelledInteger?_of_plain {s : String} (h : ∀ c ∈ s.toList, isPlain c = true)
    (hb : bareNumeral? s.toList = some s.toList) : spelledInteger? s = numeral? s.toList := by
  have htrim : Text.trimBy (fun c => Text.isBlank c && !Text.isSeparator c) s.toList = s.toList :=
    trimBy_eq_self fun c hc => by rw [(isPlain_ne (h c hc)).2.2, Bool.false_and]
  rw [spelledInteger?, htrim, hb]
  show numeral? (dropLines (dropZeroFraction s.toList)) = _
  rw [dropZeroFraction_eq_self fun c hc => (isPlain_ne (h c hc)).1,
    dropLines_eq_self fun c hc => (isPlain_ne (h c hc)).2.1]

theorem bareNumeral?_of_ne {c : Char} {r : List Char} (hp : c ≠ '+') (hm : c ≠ '-') :
    bareNumeral? (c :: r) = dropZeros? (c :: r) ∧
      numeral? (c :: r) = (digits? (c :: r)).map (Number.signed false) := by
  constructor
  · rw [bareNumeral?.eq_def]
    split
    · rename_i he; exact absurd (List.cons.inj he).1 hp
    · rename_i he; exact absurd (List.cons.inj he).1 hm
    · rfl
  · rw [numeral?.eq_def]
    split
    · rename_i he; exact absurd (List.cons.inj he).1 hm
    · rfl

theorem spelledInteger?_natural (n : Nat) : spelledInteger? (toString n) = some (n : Int) := by
  have hchars := toList_natural n
  obtain ⟨c, r, hcr⟩ := List.exists_cons_of_ne_nil (Nat.toDigits_ne_nil (n := n) (b := 10))
  have hd : c.isDigit = true := isDigit_of_mem (n := n) (by rw [hcr]; exact List.mem_cons_self)
  have hp : c ≠ '+' := by rintro rfl; exact absurd hd (by decide)
  have hm : c ≠ '-' := by rintro rfl; exact absurd hd (by decide)
  obtain ⟨hbare, hnum⟩ := bareNumeral?_of_ne (r := r) hp hm
  rw [spelledInteger?_of_plain, hchars]
  · rw [hcr, hnum, ← hcr, digits?_toDigits]
    rfl
  · exact fun c hc => isPlain_of_mem_toString (n := (n : Int)) hc
  · rw [hchars, hcr, hbare, ← hcr, dropZeros?_toDigits]

theorem spelledInteger?_negative (n : Nat) :
    spelledInteger? ("-" ++ toString (n + 1)) = some (Int.negSucc n) := by
  have hchars := toList_negative n
  rw [spelledInteger?_of_plain, hchars]
  · rw [numeral?, digits?_toDigits]
    rfl
  · exact fun c hc => isPlain_of_mem_toString (n := .negSucc n) hc
  · rw [hchars, bareNumeral?, dropZeros?_toDigits]
    rfl

theorem spelledInteger?_toString (n : Int) : spelledInteger? (toString n) = some n := by
  cases n with
  | ofNat n => exact spelledInteger?_natural n
  | negSucc n => exact spelledInteger?_negative n

theorem integer_toString (n : Int) : integer (.text (toString n)) = .valid n := by
  simp only [integer, spelling?, Checked.andThen, spelledInteger?_toString]

end CharacterSheet.Record

namespace CharacterSheet.Text

open Record

theorem digitValue?_of_isDigit {c : Char} (h : c.isDigit = true) :
    digitValue? c = some (c.toNat - '0'.toNat) := by
  have hrange : 48 ≤ c.toNat ∧ c.toNat ≤ 57 := Char.isDigit_iff_toNat.mp h
  rw [digitValue?, zeroCodes, List.find?_cons_of_pos]
  · rfl
  · simp
    omega

theorem digitsValue_toDigits (n : Nat) : digitsValue (Nat.toDigits 10 n) = n := by
  rw [digitsValue]
  refine (List.foldl_ext _ _ 0 fun k c hc => ?_).trans (foldl_toDigits n)
  rw [digitValue?_of_isDigit (isDigit_of_mem hc)]
  rfl

theorem digitValue?_lt {c : Char} {k : Nat} (h : digitValue? c = some k) : k < 10 := by
  obtain ⟨z, hz, rfl⟩ := Option.map_eq_some_iff.mp h
  have hrange := List.find?_some hz
  rw [Bool.and_eq_true, decide_eq_true_eq, decide_eq_true_eq] at hrange
  omega

theorem digitsValue_lt (cs : List Char) : digitsValue cs < 10 ^ cs.length := by
  suffices gen : ∀ a : Nat, cs.foldl (fun n c => n * 10 + (digitValue? c).getD 0) a <
      (a + 1) * 10 ^ cs.length from (gen 0).trans_eq (by rw [Nat.zero_add, Nat.one_mul])
  induction cs with
  | nil => exact fun a => by simp
  | cons c r ih =>
    intro a
    have hdigit : (digitValue? c).getD 0 < 10 := by
      cases h : digitValue? c with
      | none => decide
      | some k => exact digitValue?_lt h
    calc r.foldl (fun n c => n * 10 + (digitValue? c).getD 0) (a * 10 + (digitValue? c).getD 0)
        < (a * 10 + (digitValue? c).getD 0 + 1) * 10 ^ r.length := ih _
      _ ≤ ((a + 1) * 10) * 10 ^ r.length := Nat.mul_le_mul_right _ (by omega)
      _ = (a + 1) * 10 ^ (c :: r).length := by rw [List.length_cons, Nat.pow_succ']; ring

theorem isDigit_of_mem_toDigits {n : Nat} {c : Char} (h : c ∈ Nat.toDigits 10 n) :
    isDigit c = true := by
  rw [isDigit, digitValue?_of_isDigit (isDigit_of_mem h)]
  rfl

section

variable {cs : List Char} {negative : Bool} {n : Nat}

theorem trimChars_of_plain (h : ∀ c ∈ cs, isPlain c = true) : trimChars cs = cs :=
  trimBy_eq_self fun c hc => (isPlain_ne (h c hc)).2.2

theorem plainChars?_of_plain (h : ∀ c ∈ cs, isPlain c = true)
    (hs : takeSign cs = (negative, Nat.toDigits 10 n)) :
    plainChars? cs = some (signedValue negative n) := by
  have hdigits : (Nat.toDigits 10 n).all isDigit = true :=
    List.all_eq_true.mpr fun c hc => isDigit_of_mem_toDigits hc
  have hne : (Nat.toDigits 10 n).isEmpty = false := by simp
  rw [plainChars?, trimChars_of_plain h, hs]
  dsimp only
  rw [hdigits, hne, digitsValue_toDigits]
  rfl

end

/-- The text of an integer is its sign and its digits. -/
theorem takeSign_toString (n : Int) :
    takeSign (toString n).toList = (decide (n < 0), Nat.toDigits 10 n.natAbs) := by
  cases n with
  | ofNat n =>
    obtain ⟨c, r, hcr⟩ := List.exists_cons_of_ne_nil (Nat.toDigits_ne_nil (n := n) (b := 10))
    have hc : isDigit c = true := isDigit_of_mem_toDigits (hcr ▸ List.mem_cons_self)
    have hchars : (toString (Int.ofNat n)).toList = Nat.toDigits 10 n := toList_natural n
    rw [hchars]
    show takeSign (Nat.toDigits 10 n) = (false, Nat.toDigits 10 n)
    rw [hcr]
    exact takeSign_of_isDigit hc
  | negSucc n =>
    have hchars : (toString (Int.negSucc n)).toList = '-' :: Nat.toDigits 10 (n + 1) :=
      toList_negative n
    have hneg : decide (Int.negSucc n < 0) = true := decide_eq_true (Int.negSucc_lt_zero n)
    rw [hchars, hneg]
    rfl

/-- The integers that can be written are those below a power of ten. -/
theorem isWritable_iff {n : Int} : isWritable n = true ↔ n.natAbs < 10 ^ mostDigits := by
  rw [isWritable, decide_eq_true_eq, digitsOf]
  constructor
  · intro h
    have hvalue := digitsValue_lt (Nat.toDigits 10 n.natAbs)
    rw [digitsValue_toDigits] at hvalue
    exact hvalue.trans_le (Nat.pow_le_pow_right (by decide) h)
  · exact Nat.toDigits_length 10 _ _ (by decide)

theorem natAbs_of_plain? {s : String} {n : Int} (h : plain? s = some n) :
    n.natAbs < 10 ^ digitCount s := by
  rw [plain?, plainChars?] at h
  rw [digitCount]
  generalize takeSign (trimChars s.toList) = signed at h ⊢
  obtain ⟨negative, ds⟩ := signed
  dsimp only at h
  split at h
  · cases h
  · cases h
    have habs : (signedValue negative (digitsValue ds)).natAbs = digitsValue ds := by
      rw [signedValue]
      split <;> simp
    rw [habs]
    exact digitsValue_lt ds

/-- An integer that a text is read as can be written. -/
theorem isWritable_of_integerText? {s : String} {n : Int} (h : integerText? s = .ok (some n)) :
    isWritable n = true := by
  have hread : Readable s := ⟨_, h⟩
  have hplain : plain? s = some n := Except.ok.inj ((readable_iff.mp hread).symm.trans h)
  have hvast : ¬ Vast s := fun hv => not_readable_iff.mpr (.inr hv) hread
  have hcount : digitCount s ≤ mostDigits :=
    Nat.not_lt.mp fun hlt => hvast ⟨by rw [hplain]; rfl, hlt⟩
  exact isWritable_iff.mpr
    ((natAbs_of_plain? hplain).trans_le (Nat.pow_le_pow_right (by decide) hcount))

theorem plain?_toString (n : Int) : plain? (toString n) = some n := by
  rw [plain?, plainChars?_of_plain (fun c hc => isPlain_of_mem_toString hc) (takeSign_toString n),
    signedValue]
  congr 1
  split
  · rename_i h
    have hneg : n < 0 := of_decide_eq_true h
    omega
  · rename_i h
    have hnonneg : ¬ n < 0 := fun hneg => h (decide_eq_true hneg)
    omega

theorem toString_ne_empty (n : Int) : toString n ≠ "" := by
  intro h
  have hread := plain?_toString n
  rw [h, plain?_empty] at hread
  cases hread

theorem isWritable_pow : isWritable (10 ^ mostDigits) = false := by
  rw [Bool.eq_false_iff, ne_eq, isWritable_iff, Int.natAbs_pow]
  generalize mostDigits = k
  exact Nat.lt_irrefl (10 ^ k)

theorem digitCount_toString (n : Int) : digitCount (toString n) = digitsOf n := by
  rw [digitCount, trimChars_of_plain fun c hc => isPlain_of_mem_toString hc, takeSign_toString]
  rfl

theorem vast_toString_iff {n : Int} : Vast (toString n) ↔ isWritable n = false := by
  rw [Vast, digitCount_toString, plain?_toString, isWritable, decide_eq_false_iff_not, Nat.not_le]
  exact and_iff_right rfl

theorem not_separated_toString (n : Int) : ¬ Separated (toString n) :=
  not_separated_of_unblank fun _ hc => (isPlain_ne (isPlain_of_mem_toString hc)).2.2

/-- An integer that can not be written can not be read. -/
theorem integerText?_toString_of_not_writable {n : Int} (h : isWritable n = false) :
    integerText? (toString n) = .error (.value (.tooManyDigits (some (digitsOf n)))) := by
  rw [integerText?_of_vast (not_separated_toString n) (vast_toString_iff.mpr h), digitCount_toString]

/-- An integer that can be written is read back. -/
theorem integerText?_toString {n : Int} (h : isWritable n = true) :
    integerText? (toString n) = .ok (some n) := by
  have hread : Readable (toString n) :=
    readable_of_not_vast (not_separated_toString n) fun hv =>
      Bool.false_ne_true ((vast_toString_iff.mp hv).symm.trans h)
  rw [readable_iff.mp hread, plain?_toString]

end CharacterSheet.Text
