import CharacterSheet.Definition.Ruleset
import CharacterSheet.Proofs.Postfix
import CharacterSheet.Proofs.Run
import CharacterSheet.Proofs.SnapshotRecord
import Mathlib.Data.List.Basic

/-! Definitions survive being written and read. Each reader takes back what the writer of its field
makes: codes for members, IDs and texts for references, lists for what may also come as one text, and
maps for tables. Formulas are the only records that hold records of their own kind, and so many levels
of them are read as are written. -/

namespace CharacterSheet

open Record

variable {mode : Mode}

namespace Checked

variable {α β : Type} {f : Checked (α → β)} {g : α → β} {x : Checked α} {b : β} {P : β → Prop}

theorem seq_ok (h : f <*> x = .valid b) : ∃ g a, f = .valid g ∧ x = .valid a ∧ g a = b := by
  cases f with
  | invalid is => cases x <;> cases h
  | valid g =>
    cases x with
    | invalid is => cases h
    | valid a => cases h; exact ⟨g, a, rfl, rfl, rfl⟩

theorem map_ok (h : g <$> x = .valid b) : ∃ a, x = .valid a ∧ g a = b := by
  cases x with
  | invalid is => cases h
  | valid a => cases h; exact ⟨a, rfl, rfl⟩

/-- If a value is read, it is one of these. -/
def Gives (P : α → Prop) (x : Checked α) : Prop := ∀ a, x = .valid a → P a

/-- What is read with one field more may depend on what that field is read as. A record gives what it
gives by this, field by field from the last one to the first. -/
theorem gives_seq (h : Gives (fun g => ∀ a, x = .valid a → P (g a)) f) : Gives P (f <*> x) := by
  intro b hb
  obtain ⟨g, a, hf, hx, rfl⟩ := seq_ok hb
  exact h g hf a hx

theorem gives_map (h : Gives (fun a => P (g a)) x) : Gives P (g <$> x) := by
  intro b hb
  obtain ⟨a, hx, rfl⟩ := map_ok hb
  exact h a hx

end Checked

theorem Record.fields_ok {α : Type} {names : List String} {read : List (Data × Data) → Checked α}
    {v : Data} {a : α} (h : fields names read v = .valid a) :
    ∃ es, v.face = .map es ∧ read es = .valid a := by
  rw [fields] at h
  split at h
  · rename_i es hface
    split at h
    · cases h
    · obtain ⟨_, _, hrecord, _, rfl⟩ := Checked.seq_ok h
      obtain ⟨_, hread, rfl⟩ := Checked.map_ok hrecord
      exact ⟨es, hface, hread⟩
  · cases h

/-! ## Members and tables -/

theorem member_templateKey (k : TemplateKey) : member TemplateKey (code k) = .valid k := by
  cases k <;> rfl

theorem member_type (t : TraitType) : member TraitType (code t) = .valid t := by
  cases t <;> rfl

theorem member_category (c : TraitCategory) : member TraitCategory (code c) = .valid c := by
  cases c <;> rfl

theorem readSubcategory_code (s : TraitSubcategory) :
    TraitDefinition.readSubcategory (code s) = .valid s := by
  cases s <;> rfl

theorem Switch.read_dump (s : Switch) : read s.dump = .valid s := by
  show Table.ofList <$> entries text text _ = _
  rw [entries_map text_text text_text, Checked.map_valid, Table.ofList_entries]

theorem ParentRef.read_dump (p : ParentRef) : read p.dump = .valid p := by
  cases p <;> rfl

theorem TraitRef.read_toData (t : TraitRef) : read t.toData = .valid t := by
  cases t <;> rfl

theorem Rule.read_dump (r : Rule) : read r.dump = .valid r := by
  cases r with
  | text s => rfl
  | chunks cs =>
    show Checked.either (.invalid _) ((chunks <$> listOf Record.text (.list (cs.map .text))).under _)
      = _
    rw [listOf_map fun s _ => text_text s]
    rfl

/-! ## Formulas -/

namespace Formula

theorem isNull_dump (f : Formula) : isNull (f.dump mode) = false := by
  cases f <;> rfl

theorem readOperand_dump (name : String) :
    readOperand ((operand name).dump mode) = .valid (operand name) := by
  have hf : Named ["name"] [("name", .text name)] := ⟨rfl, by decide⟩
  refine (fields_write hf _).trans ?_
  rw [hf.required 0 rfl rfl (text_text name)]
  rfl

section

variable (mode : Mode) (op : Operator) (l r : Formula)

theorem named_operation : Named ["operator", "left", "right"]
    [("operator", .text op.symbol), ("left", l.dump mode), ("right", r.dump mode)] :=
  ⟨rfl, by decide⟩

/-- An operation is no operand, for it has no name. -/
theorem readOperand_operation :
    ∃ is, readOperand ((operation op l r).dump mode) = .invalid is := by
  have hnone : Data.field? "name" (shown mode _) = none :=
    (named_operation mode op l r).field?_of_not_mem (by decide)
  apply fields_of_invalid
  show operand <$> required (shown mode _) "name" Record.text = _
  rw [required, hnone]
  rfl

end

theorem read_symbol (op : Operator) : Operator.read (.text op.symbol) = .valid op := by
  rw [Operator.read, Operator.ofSymbol?_symbol]

/-- A formula is read that has no more levels than may be read, whatever loops stand around it. -/
theorem readWithin_dump {n : Nat} (around : List Nat) {f : Formula} (h : f.height ≤ n) :
    readWithin n around (f.dump mode) = .valid f := by
  induction f generalizing n with
  | operand name =>
    obtain ⟨n, rfl⟩ := Nat.exists_eq_succ_of_ne_zero (Nat.ne_zero_of_lt h)
    rw [readWithin, readOperand_dump]
    rfl
  | operation op l r ihl ihr =>
    obtain ⟨n, rfl⟩ := Nat.exists_eq_succ_of_ne_zero (Nat.ne_zero_of_lt h)
    have hl : l.height ≤ n := by rw [height] at h; omega
    have hr : r.height ≤ n := by rw [height] at h; omega
    have hf := named_operation mode op l r
    obtain ⟨is, his⟩ := readOperand_operation mode op l r
    have hfields : fields _ _ (write mode _) = _ := fields_write hf fun es =>
      operation <$> required es "operator" Operator.read
        <*> required es "left" (readWithin n around) <*> required es "right" (readWithin n around)
    rw [hf.required 0 rfl rfl (read_symbol op), hf.required 1 rfl l.isNull_dump (ihl hl),
      hf.required 2 rfl r.isNull_dump (ihr hr)] at hfields
    have henter : enter around ((operation op l r).dump mode) = .valid around := rfl
    rw [readWithin, his, henter, Checked.andThen, dump, hfields]
    rfl

theorem read_dump {f : Formula} (h : f.height ≤ mostLevels) : read (f.dump mode) = .valid f :=
  readWithin_dump [] h

end Formula

/-! ## Directives -/

namespace Directive

/-- The formula of a directive, if it has one, is not too deep to be written. -/
def Writable (x : Directive) : Prop := x.writingFault? = none

theorem writable_derivedInteger {source : String} {f : Formula} :
    (derivedInteger source f).Writable ↔ f.height ≤ Formula.mostLevels := by
  rw [Writable, writingFault?, Formula.writingFault?]
  split
  · exact iff_of_true rfl ‹_›
  · exact iff_of_false nofun ‹_›

theorem named (mode : Mode) (x : Directive) :
    Named ("keyword" :: (x.fieldsOf mode).map Prod.fst)
      (("keyword", .text x.keyword.word) :: x.fieldsOf mode) := by
  refine ⟨rfl, ?_⟩
  cases x <;> simp [fieldsOf]

theorem readAs_dump {x : Directive} (h : x.Writable) :
    readAs x.keyword (x.dump mode) = .valid x := by
  have hf := named mode x
  rw [dump, readAs.eq_def]
  cases x with
  | minMax minimum maximum =>
    refine (fields_write hf _).trans ?_
    rw [hf.required 1 rfl rfl (text_text minimum), hf.required 2 rfl rfl (text_text maximum)]
    rfl
  | values options =>
    refine (fields_write hf _).trans ?_
    rw [hf.required 1 rfl rfl (tupleOf_map fun s _ => text_text s)]
    rfl
  | autoHide => exact fields_write hf _
  | isVariable name =>
    refine (fields_write hf _).trans ?_
    rw [hf.required 1 rfl rfl (text_text name)]
    rfl
  | derivedInteger source f =>
    refine (fields_write hf _).trans ?_
    rw [hf.required 1 rfl rfl (text_text source),
      hf.required 2 rfl f.isNull_dump (Formula.read_dump (writable_derivedInteger.mp h))]
    rfl
  | derivedOption dummy name switch =>
    refine (fields_write hf _).trans ?_
    rw [hf.required 1 rfl rfl (text_text dummy), hf.required 2 rfl rfl (text_text name),
      hf.optional 3 rfl rfl switch.read_dump]
    rfl
  | derivedSwitch name switch =>
    refine (fields_write hf _).trans ?_
    rw [hf.required 1 rfl rfl (text_text name), hf.optional 2 rfl rfl switch.read_dump]
    rfl
  | mainTraitMax group | mainTraitCount group =>
    refine (fields_write hf _).trans ?_
    rw [hf.nullable 1 rfl (fun _ => rfl) text_text]
    rfl
  | subTrait parent =>
    refine (fields_write hf _).trans ?_
    rw [hf.required 1 rfl (by cases parent <;> rfl) parent.read_dump]
    rfl
  | powerLevel level =>
    refine (fields_write hf _).trans ?_
    rw [hf.nullable 1 rfl (fun _ => rfl) integer_int]
    rfl

theorem read_dump {x : Directive} (h : x.Writable) : read (x.dump mode) = .valid x := by
  have hkeyword : Data.field? "keyword" (shown mode _) = some (.text x.keyword.word) :=
    (named mode x).field?_of_value List.mem_cons_self rfl
  have hface : (x.dump mode).face = .map (shown mode _) := rfl
  unfold read
  rw [hface]
  simp only [hkeyword, Keyword.ofWord?_word, readAs_dump h]
  rfl

end Directive

/-! ## Records of a ruleset -/

theorem TraitDefinition.readStandard_text (s : String) : readStandard (.text s) = .valid s := rfl

theorem TraitDefinition.readSubtraits_list (ids : List Int) :
    readSubtraits (.list (ids.map .int)) = .valid ids :=
  tupleOf_map fun id _ => integer_int id

theorem MoralPath.readSins_list (sins : List String) :
    readSins (.list (sins.map .text)) = .valid sins :=
  tupleOf_map fun s _ => text_text s

theorem TraitDefinition.read_dump {t : TraitDefinition} (h : ∀ x ∈ t.directives, x.Writable) :
    read (t.dump mode) = .valid t := by
  refine fields_write_valid ⟨rfl, by decide⟩ fun hf => ?_
  rw [hf.nullable 0 rfl (fun _ => rfl) text_text, hf.required 1 rfl rfl (integer_int t.id),
    hf.required 2 rfl rfl (text_text t.name), hf.optional 3 rfl rfl (member_type t.type),
    hf.optional 4 rfl rfl (member_category t.category),
    hf.optional 5 rfl rfl (readSubcategory_code t.subcategory),
    hf.optional 6 rfl (by cases t.rule <;> rfl) t.rule.read_dump,
    hf.optional 7 rfl rfl (readStandard_text t.standard),
    hf.optional 8 rfl rfl (readSubtraits_list t.subtraits),
    hf.optional 9 rfl rfl (tupleOf_map fun x hx => Directive.read_dump (h x hx))]
  rfl

theorem TemplateDefinition.read_dump (t : TemplateDefinition) : read (t.dump mode) = .valid t := by
  refine fields_write_valid ⟨rfl, by decide⟩ fun hf => ?_
  rw [hf.nullable 0 rfl (fun _ => rfl) text_text,
    hf.required 1 rfl rfl (member_templateKey t.key), hf.required 2 rfl rfl (text_text t.name),
    hf.optional 3 rfl rfl (listOf_map fun x _ => x.read_toData),
    hf.optional 4 rfl rfl (tupleOf_map fun id _ => integer_int id)]
  rfl

theorem TemplateRow.read_dump (r : TemplateRow) : read (r.dump mode) = .valid r := by
  refine fields_write_valid ⟨rfl, by decide⟩ fun hf => ?_
  rw [hf.nullable 0 rfl (fun _ => rfl) text_text,
    hf.required 1 rfl rfl (member_templateKey r.template),
    hf.required 2 rfl rfl (integer_int r.trait)]
  rfl

theorem MoralPath.read_dump (p : MoralPath) : read (p.dump mode) = .valid p := by
  refine fields_write_valid ⟨rfl, by decide⟩ fun hf => ?_
  rw [hf.nullable 0 rfl (fun _ => rfl) text_text, hf.required 1 rfl rfl (text_text p.name),
    hf.optional 2 rfl rfl (text_text p.virtues), hf.optional 3 rfl rfl (text_text p.bearing),
    hf.optional 4 rfl rfl (readSins_list p.sins)]
  rfl

/-! ## Constants and titles -/

namespace Table

variable {κ ν : Type} [DecidableEq κ] {a b : Table κ ν}

theorem mem_keys_iff {t : Table κ ν} {k : κ} : k ∈ t.keys ↔ t.contains k = true := by
  rw [contains, Option.isSome_iff_exists, keys, List.mem_map]
  simp only [get?_eq_some_iff]
  constructor
  · rintro ⟨⟨_, v⟩, he, rfl⟩
    exact ⟨v, he⟩
  · rintro ⟨v, he⟩
    exact ⟨_, he, rfl⟩

theorem entries_eq (t : Table κ ν) :
    t.entries = t.keys.filterMap fun k => (t.get? k).map fun v => (k, v) := by
  rw [keys, List.filterMap_map]
  refine (List.filterMap_some (l := _)).symm.trans (List.filterMap_congr fun e he => ?_)
  rw [Function.comp_apply, get?_eq_some_iff.mpr (show (e.1, e.2) ∈ t.entries from he)]
  rfl

/-- A table is told by its keys, in their order, and by what they stand for. -/
theorem ext_of_keys (hk : a.keys = b.keys) (h : ∀ k, a.get? k = b.get? k) : a = b := by
  apply Table.ext
  rw [a.entries_eq, b.entries_eq, hk]
  simp only [h]

theorem keys_put {k : κ} {l : List (κ × ν)} (h : k ∈ l.map Prod.fst) (v : ν) :
    (put k v l).map Prod.fst = l.map Prod.fst := by
  induction l with
  | nil => cases h
  | cons e r ih =>
    rw [put]
    split
    · rename_i he
      rw [List.map_cons, List.map_cons, he]
    · rename_i hne
      rw [List.map_cons, List.map_cons, ih ((List.mem_cons.mp h).resolve_left (Ne.symm hne))]

theorem keys_union (h : ∀ k ∈ b.keys, k ∈ a.keys) : (a.union b).keys = a.keys := by
  suffices gen : ∀ (l : List (κ × ν)) (a : Table κ ν), (∀ k ∈ l.map Prod.fst, k ∈ a.keys) →
      (l.foldl (fun t p => t.insert p.1 p.2) a).keys = a.keys from gen b.entries a h
  intro l
  induction l with
  | nil => exact fun _ _ => rfl
  | cons e r ih =>
    intro a h
    obtain ⟨he, hr⟩ := List.forall_mem_cons.mp h
    have hkeys : (a.insert e.1 e.2).keys = a.keys := keys_put he e.2
    rw [List.foldl_cons, ih _ (by rw [hkeys]; exact hr), hkeys]

theorem get?_union (k : κ) : (a.union b).get? k = (b.get? k).or (a.get? k) := by
  suffices gen : ∀ (l : List (κ × ν)) (a : Table κ ν), (l.map Prod.fst).Nodup →
      (l.foldl (fun t p => t.insert p.1 p.2) a).get? k = (lookup k l).or (a.get? k) from
    gen b.entries a b.nodup
  intro l
  induction l with
  | nil => exact fun _ _ => rfl
  | cons e r ih =>
    intro a hnodup
    obtain ⟨he, hr⟩ := List.nodup_cons.mp hnodup
    rw [List.foldl_cons, ih _ hr, get?_insert, lookup]
    split
    · rename_i hk
      have hnone : lookup k r = none := by
        rw [Option.eq_none_iff_forall_ne_some]
        intro v hv
        rw [lookup_eq_some_iff hr] at hv
        exact he (hk ▸ mem_keys_of_mem hv)
      rw [hnone, if_pos hk.symm]
      rfl
    · rename_i hk
      rw [if_neg (Ne.symm hk)]

end Table

namespace Ruleset

/-- The constants of a ruleset are the standard ones, in their order. -/
def Valid (r : Ruleset) : Prop := r.reserved.keys = standardReserved.keys

theorem keys_of_readReserved {v : Data} {t : Table String Int} (h : readReserved v = .valid t) :
    t.keys = standardReserved.keys := by
  unfold readReserved at h
  cases hpairs : mapOf text integer v with
  | invalid is => rw [hpairs] at h; cases h
  | valid pairs =>
    rw [hpairs] at h
    simp only [Checked.andThen] at h
    split at h
    · rename_i hunknown
      cases h
      apply Table.keys_union
      intro k hk
      rw [List.isEmpty_iff, List.filter_eq_nil_iff] at hunknown
      simpa [Table.mem_keys_iff] using hunknown k hk
    · cases h

/-- All rulesets that are read are valid. -/
theorem valid_of_read {v : Data} {r : Ruleset} (h : read v = .valid r) : r.Valid := by
  obtain ⟨es, _, hread⟩ := Record.fields_ok h
  have hkeys : ∀ t, Record.optional es "reserved_values" standardReserved readReserved = .valid t →
      t.keys = standardReserved.keys := by
    intro t ht
    rw [Record.optional] at ht
    split at ht
    · cases hv : readReserved _ <;> rw [hv] at ht <;> cases ht
      exact keys_of_readReserved hv
    · cases ht
      rfl
  refine (?_ : Checked.Gives Valid _) r hread
  repeat refine Checked.gives_seq ?_
  refine Checked.gives_map ?_
  dsimp only [Checked.Gives]
  intros
  exact hkeys _ ‹_›

theorem readReserved_table {t : Table String Int} (h : t.keys = standardReserved.keys) :
    readReserved (.map (t.entries.map fun e => (.text e.1, .int e.2))) = .valid t := by
  have hpairs : mapOf text integer (.map (t.entries.map fun e => (.text e.1, .int e.2))) =
      .valid t.entries := entries_map text_text integer_int t.entries
  have hunknown : t.keys.filter (fun k => !standardReserved.contains k) = [] := by
    rw [List.filter_eq_nil_iff]
    intro k hk
    rw [h, Table.mem_keys_iff] at hk
    simp [hk]
  have hunion : standardReserved.union t = t := by
    apply Table.ext_of_keys
    · rw [Table.keys_union (fun k hk => h ▸ hk), h]
    · intro k
      rw [Table.get?_union]
      cases hk : t.get? k with
      | some v => rfl
      | none =>
        have habsent : ¬ k ∈ standardReserved.keys := by
          rw [← h, Table.mem_keys_iff, Table.contains, hk]
          exact Bool.false_ne_true
        rw [Table.mem_keys_iff, Table.contains, Option.not_isSome_iff_eq_none] at habsent
        rw [habsent]
        rfl
  rw [readReserved, hpairs]
  simp only [Checked.andThen, Table.ofList_entries, hunion, hunknown, List.isEmpty_nil, if_true]

theorem read_codeText (k : TemplateKey) :
    Vocabulary.read (.text (toString (Vocabulary.code k))) = .ok k := by
  cases k <;> rfl

theorem parseTitleKeys_codes (es : List (TemplateKey × String)) :
    parseTitleKeys (es.map fun e => (.text (toString (Vocabulary.code e.1)), .text e.2)) =
      .ok (es.map fun e => (e.1, .text e.2)) := by
  induction es with
  | nil => rfl
  | cons e r ih => rw [List.map_cons, parseTitleKeys, read_codeText, ih]; rfl

theorem readTitles_table (t : Table TemplateKey String) :
    readTitles (.map (t.entries.map fun e => (.text (toString (Vocabulary.code e.1)), .text e.2))) =
      .valid t := by
  have hput : ∀ (t : Table TemplateKey Data) (p : TemplateKey × Data),
      Table.put p.1 p.2 t.entries = (t.insert p.1 p.2).entries := fun _ _ => rfl
  have hlatest : (t.entries.map fun e => (e.1, Data.text e.2)).foldl
      (fun (t : List (TemplateKey × Data)) p => Table.put p.1 p.2 t) [] =
      t.entries.map fun e => (e.1, Data.text e.2) :=
    (List.foldl_hom Table.entries hput).trans
      (Table.entries_ofList (t.mapValues fun _ s => Data.text s).nodup)
  have htitles : ∀ es : List (TemplateKey × String),
      (es.map fun e => (e.1, Data.text e.2)).foldr
        (fun p (r : Checked (List (TemplateKey × String))) =>
          (fun s r => (p.1, s) :: r) <$>
            (text p.2).under (toString (Vocabulary.code p.1)) <*> r) (.valid []) = .valid es := by
    intro es
    induction es with
    | nil => rfl
    | cons e r ih => rw [List.map_cons, List.foldr_cons, ih]; rfl
  show (refusable (parseTitleKeys _)).andThen _ = _
  rw [parseTitleKeys_codes]
  show Table.ofList <$> ((t.entries.map fun e => (e.1, Data.text e.2)).foldl
      (fun (t : List (TemplateKey × Data)) p => Table.put p.1 p.2 t) []).foldr _ _ = _
  rw [hlatest, htitles, Checked.map_valid, Table.ofList_entries]

theorem read_dump {r : Ruleset} (hv : r.Valid) (hd : r.defects = [])
    (h : ∀ t ∈ r.traits, ∀ x ∈ t.directives, x.Writable) : read (r.dump mode) = .valid r := by
  have hdefects : listOf Defect.read (.list (r.defects.map (Defect.dump mode))) =
      .valid r.defects := by
    rw [hd]
    rfl
  refine fields_write_valid ⟨rfl, by decide⟩ fun hf => ?_
  rw [hf.required 0 rfl rfl (text_text r.id), hf.required 1 rfl rfl (text_text r.name),
    hf.optional 2 rfl rfl (text_text r.version), hf.optional 3 rfl rfl (text_text r.chunkDelimiter),
    hf.optional 4 rfl rfl (text_text r.tokenDelimiter),
    hf.optional 5 rfl rfl (text_text r.levelGlyph), hf.optional 6 rfl rfl (readReserved_table hv),
    hf.optional 7 rfl rfl (text_text r.nameTrait), hf.optional 8 rfl rfl (text_text r.virtuesTrait),
    hf.optional 9 rfl rfl (text_text r.pathScoreTrait),
    hf.optional 10 rfl rfl (text_text r.pathNameTrait),
    hf.optional 11 rfl rfl (readTitles_table r.titles),
    hf.optional 12 rfl rfl (text_text r.standardTitle),
    hf.optional 13 rfl rfl (listOf_map fun t ht => TraitDefinition.read_dump (h t ht)),
    hf.optional 14 rfl rfl (listOf_map fun t _ => t.read_dump),
    hf.optional 15 rfl rfl (listOf_map fun row _ => row.read_dump),
    hf.optional 16 rfl rfl (listOf_map fun p _ => p.read_dump), hf.optional 17 rfl rfl hdefects]
  rfl

/-! ## What is written at all -/

end Ruleset

/-! ## Formulas that are too deep -/

namespace Formula

end Formula

namespace Ruleset

end Ruleset

end CharacterSheet
