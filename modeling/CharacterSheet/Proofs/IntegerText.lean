import CharacterSheet.Data.Scalar

/-! Texts that spell integers. There are two ways in which such a text can not be read: it is among
information separators, or it has too many digits. A trimmed text has no separators at its ends, so
then only the second one is left. A minus sign before a text that is no integer does not make it
one. -/

namespace CharacterSheet.Text

/-- Whether it can be told if a text spells an integer. -/
def Readable (s : String) : Prop := ∃ n, integerText? s = .ok n

/-- Whether a text is an integer among information separators. -/
def Separated (s : String) : Prop := (plain? s).isSome = true ∧
  (beginsSeparated s.toList = true ∨ beginsSeparated s.toList.reverse = true)

/-- Whether a text is an integer of too many digits. -/
def Vast (s : String) : Prop := (plain? s).isSome = true ∧ mostDigits < digitCount s

instance : DecidablePred Separated := fun _ => inferInstanceAs (Decidable (_ ∧ _))

instance : DecidablePred Vast := fun _ => inferInstanceAs (Decidable (_ ∧ _))

/-- Why an integer in a text can not be read. The separators before it are met first, then its
digits are counted, and the separators after it are met last. -/
inductive Unread (s : String) : Fault → Prop where
  | before (hn : (plain? s).isSome = true) (h : beginsSeparated s.toList = true) :
    Unread s (.value (.unreadableInteger 10 (codes s)))
  | digits (hv : Vast s) (h : beginsSeparated s.toList = false) :
    Unread s (.value (.tooManyDigits (some (digitCount s))))
  | after (hv : ¬ Vast s) (hn : (plain? s).isSome = true)
    (h : beginsSeparated s.toList.reverse = true) :
    Unread s (.value (.unreadableInteger 10 (codes s)))

theorem integerText?_of_none {s : String} (h : plain? s = none) : integerText? s = .ok none := by
  rw [integerText?, h]

theorem integerText?_of_some {s : String} {n : Int} (h : plain? s = some n) : integerText? s =
    if beginsSeparated s.toList then .error (.value (.unreadableInteger 10 (codes s)))
    else if mostDigits < digitCount s then .error (.value (.tooManyDigits (some (digitCount s))))
    else if beginsSeparated s.toList.reverse then
      .error (.value (.unreadableInteger 10 (codes s)))
    else .ok (some n) := by
  rw [integerText?, h]
  by_cases hd : digitCount s ≤ mostDigits
  · rw [if_neg (Nat.not_lt.mpr hd)]
    dsimp only
    rw [Result.ofDigits, if_pos hd]
    rfl
  · rw [if_pos (Nat.not_le.mp hd)]
    dsimp only
    rw [Result.ofDigits, if_neg hd]
    rfl

theorem integerText?_eq_error_iff {s : String} {f : Fault} :
    integerText? s = .error f ↔ Unread s f := by
  cases hp : plain? s with
  | none =>
    rw [integerText?_of_none hp]
    refine iff_of_false (fun h => nomatch h) ?_
    rintro (⟨hn, _⟩ | ⟨⟨hn, _⟩, _⟩ | ⟨_, hn, _⟩) <;> rw [hp] at hn <;> cases hn
  | some n =>
    have hn : (plain? s).isSome = true := by rw [hp]; rfl
    rw [integerText?_of_some hp]
    constructor
    · intro h
      split at h
      · cases h
        exact .before hn ‹_›
      · rename_i hb
        split at h
        · cases h
          exact .digits ⟨hn, ‹_›⟩ (Bool.eq_false_iff.mpr hb)
        · rename_i hd
          split at h
          · cases h
            exact .after (fun hv => hd hv.2) hn ‹_›
          · cases h
    · rintro (⟨_, hb⟩ | ⟨hv, hb⟩ | ⟨hv, _, ha⟩)
      · rw [if_pos hb]
      · rw [hb, if_neg Bool.false_ne_true, if_pos hv.2]
      · rw [if_neg fun hd : mostDigits < digitCount s => hv ⟨hn, hd⟩, if_pos ha, ite_self]

theorem integerText?_eq_ok_none_iff {s : String} : integerText? s = .ok none ↔ plain? s = none := by
  refine ⟨fun h => ?_, integerText?_of_none⟩
  cases hp : plain? s with
  | none => rfl
  | some n =>
    rw [integerText?_of_some hp] at h
    split at h
    · cases h
    · split at h
      · cases h
      · split at h <;> cases h

theorem readable_iff {s : String} : Readable s ↔ integerText? s = .ok (plain? s) := by
  refine ⟨?_, fun h => ⟨_, h⟩⟩
  rintro ⟨n, h⟩
  cases hp : plain? s with
  | none => exact integerText?_of_none hp
  | some k =>
    rw [integerText?_of_some hp] at h ⊢
    split at h
    · cases h
    · split at h
      · cases h
      · split at h
        · cases h
        · rename_i hb hd ha
          rw [if_neg hb, if_neg hd, if_neg ha]

/-- What can not be read is an integer among separators or of too many digits. -/
theorem not_readable_iff {s : String} : ¬ Readable s ↔ Separated s ∨ Vast s := by
  have herror : ¬ Readable s ↔ ∃ f, integerText? s = .error f := by
    cases h : integerText? s with
    | ok n => exact iff_of_false (fun hr => hr ⟨n, h⟩) fun ⟨_, hf⟩ => nomatch hf
    | error f => exact iff_of_true (fun ⟨_, hn⟩ => nomatch h.symm.trans hn) ⟨f, rfl⟩
  rw [herror]
  constructor
  · rintro ⟨f, h⟩
    cases integerText?_eq_error_iff.mp h with
    | before hn hb => exact .inl ⟨hn, .inl hb⟩
    | digits hv _ => exact .inr hv
    | after _ hn ha => exact .inl ⟨hn, .inr ha⟩
  · intro h
    simp only [integerText?_eq_error_iff]
    by_cases hb : beginsSeparated s.toList = true
    · exact ⟨_, .before (h.elim And.left And.left) hb⟩
    · by_cases hv : Vast s
      · exact ⟨_, .digits hv (Bool.eq_false_iff.mpr hb)⟩
      · obtain ⟨hn, ha⟩ := h.resolve_right hv
        exact ⟨_, .after hv hn (ha.resolve_left hb)⟩

theorem readable_of_not_vast {s : String} (hs : ¬ Separated s) (hv : ¬ Vast s) : Readable s :=
  Classical.byContradiction fun h => (not_readable_iff.mp h).elim hs hv

theorem integerText?_of_vast {s : String} (hs : ¬ Separated s) (hv : Vast s) :
    integerText? s = .error (.value (.tooManyDigits (some (digitCount s)))) :=
  integerText?_eq_error_iff.mpr (.digits hv (Bool.eq_false_iff.mpr fun hb => hs ⟨hv.1, .inl hb⟩))

theorem takeWhile_dropWhile (p : Char → Bool) (cs : List Char) :
    (cs.dropWhile p).takeWhile p = [] := by
  induction cs with
  | nil => rfl
  | cons c r ih =>
    by_cases h : p c = true
    · rw [List.dropWhile_cons_of_pos h, ih]
    · rw [List.dropWhile_cons_of_neg h, List.takeWhile_cons_of_neg h]

theorem dropEnd_prefix (p : Char → Bool) (cs : List Char) : dropEnd p cs <+: cs := by
  rw [dropEnd, ← List.reverse_suffix, List.reverse_reverse]
  exact List.dropWhile_suffix p

/-- Dropping from the end does not bring to the front what was not there. -/
theorem takeWhile_dropEnd {p : Char → Bool} {cs : List Char} (h : cs.takeWhile p = []) :
    (dropEnd p cs).takeWhile p = [] := by
  have hpre : dropEnd p cs <+: cs := dropEnd_prefix p cs
  cases hd : dropEnd p cs with
  | nil => rfl
  | cons c r =>
    rw [hd] at hpre
    obtain ⟨t, rfl⟩ := hpre
    by_cases hc : p c = true
    · rw [List.cons_append, List.takeWhile_cons_of_pos hc] at h
      cases h
    · exact List.takeWhile_cons_of_neg hc

theorem takeWhile_trimBy (p : Char → Bool) (cs : List Char) : (trimBy p cs).takeWhile p = [] :=
  takeWhile_dropEnd (takeWhile_dropWhile p cs)

theorem takeWhile_reverse_trimBy (p : Char → Bool) (cs : List Char) :
    (trimBy p cs).reverse.takeWhile p = [] := by
  rw [trimBy, dropEnd, List.reverse_reverse]
  exact takeWhile_dropWhile p _

theorem dropWhile_of_takeWhile {p : Char → Bool} {cs : List Char} (h : cs.takeWhile p = []) :
    cs.dropWhile p = cs := by
  have hsplit := List.takeWhile_append_dropWhile (p := p) (l := cs)
  rwa [h, List.nil_append] at hsplit

/-- What is trimmed has no blanks left at its ends. -/
theorem trim_trim (s : String) : trim (trim s) = trim s := by
  rw [trim, trim, String.toList_ofList, trimChars, trimChars, trimBy,
    dropWhile_of_takeWhile (takeWhile_trimBy isBlank _), dropEnd,
    dropWhile_of_takeWhile (takeWhile_reverse_trimBy isBlank _), List.reverse_reverse]

theorem not_separated {s : String} (hfront : s.toList.takeWhile isBlank = [])
    (hback : s.toList.reverse.takeWhile isBlank = []) : ¬ Separated s := by
  rintro ⟨_, h | h⟩
  · rw [beginsSeparated, hfront] at h
    cases h
  · rw [beginsSeparated, hback] at h
    cases h

theorem not_separated_trim (s : String) : ¬ Separated (trim s) := by
  apply not_separated
  · rw [trim, String.toList_ofList]
    exact takeWhile_trimBy isBlank _
  · rw [trim, String.toList_ofList]
    exact takeWhile_reverse_trimBy isBlank _

theorem plain?_empty : plain? "" = none := rfl

theorem readable_of_plain?_eq_none {s : String} (h : plain? s = none) : Readable s :=
  ⟨none, integerText?_of_none h⟩

theorem not_separated_of_unblank {s : String} (h : ∀ c ∈ s.toList, isBlank c = false) :
    ¬ Separated s := by
  have hnone : ∀ cs : List Char, (∀ c ∈ cs, isBlank c = false) → cs.takeWhile isBlank = [] := by
    intro cs hcs
    cases cs with
    | nil => rfl
    | cons c r => exact List.takeWhile_cons_of_neg (by simp [hcs c List.mem_cons_self])
  exact not_separated (hnone _ h) (hnone _ fun c hc => h c (List.mem_reverse.mp hc))

/-! ## Signs -/

theorem isDigit_code {c : Char} (h : isDigit c = true) :
    ∃ z ∈ zeroCodes, z ≤ c.toNat ∧ c.toNat < z + 10 := by
  rw [isDigit, digitValue?, Option.isSome_map] at h
  obtain ⟨z, hz⟩ := Option.isSome_iff_exists.mp h
  have hrange := List.find?_some hz
  rw [Bool.and_eq_true, decide_eq_true_eq, decide_eq_true_eq] at hrange
  exact ⟨z, List.mem_of_find?_eq_some hz, hrange⟩

theorem isBlank_of_isDigit {c : Char} (h : isDigit c = true) : isBlank c = false := by
  have hgaps : ∀ z ∈ zeroCodes, 0x20 < z ∧ (z + 9 < 0x85 ∨ 0xA0 < z) ∧
      (z + 9 < 0x1680 ∨ 0x1680 < z) ∧ (z + 9 < 0x2000 ∨ 0x3000 < z) := by decide
  obtain ⟨z, hz, hrange⟩ := isDigit_code h
  have hgap := hgaps z hz
  simp [isBlank]
  omega

theorem takeSign_of_isDigit {c : Char} {r : List Char} (h : isDigit c = true) :
    takeSign (c :: r) = (false, c :: r) := by
  unfold takeSign
  split
  · rename_i he
    obtain rfl := (List.cons.inj he).1
    exact absurd h (by decide)
  · rename_i he
    obtain rfl := (List.cons.inj he).1
    exact absurd h (by decide)
  · rfl

theorem dropEnd_cons_of_neg {p : Char → Bool} {c : Char} {r : List Char} (h : p c = false) :
    dropEnd p (c :: r) = c :: dropEnd p r := by
  have hc : [c].dropWhile p = [c] := List.dropWhile_cons_of_neg (by simp [h])
  rw [dropEnd, List.reverse_cons, List.dropWhile_append, dropEnd]
  split
  · rename_i he
    rw [List.isEmpty_iff.mp he, hc]
    rfl
  · rw [List.reverse_append]
    rfl

/-- A sign before a text that is no integer makes no integer of it. -/
theorem plain?_minus {s : String} (h : plain? s = none) : plain? ("-" ++ s) = none := by
  rw [plain?, String.toList_append]
  rw [plain?] at h
  generalize s.toList = cs at h ⊢
  show plainChars? ('-' :: cs) = none
  have htrim : trimChars ('-' :: cs) = '-' :: dropEnd isBlank cs :=
    dropEnd_cons_of_neg (by decide)
  rw [plainChars?, htrim, takeSign]
  dsimp only
  cases hd : dropEnd isBlank cs with
  | nil => rfl
  | cons c r =>
    by_cases hall : (c :: r).all isDigit = true
    · -- then the text itself begins with a digit, and spells an integer
      have hc : isDigit c = true := List.all_eq_true.mp hall c List.mem_cons_self
      have hself : trimChars cs = c :: r := by
        obtain ⟨t, rfl⟩ : c :: r <+: cs := hd ▸ dropEnd_prefix isBlank cs
        have hfront : ((c :: r) ++ t).dropWhile isBlank = (c :: r) ++ t :=
          List.dropWhile_cons_of_neg (by simp [isBlank_of_isDigit hc])
        rw [trimChars, trimBy, hfront, hd]
      rw [plainChars?, hself, takeSign_of_isDigit hc] at h
      simp [hall] at h
    · simp [hall]

end CharacterSheet.Text
