import CharacterSheet.Definition.Snapshot
import CharacterSheet.Proofs.Numeral
import CharacterSheet.Proofs.ReadBack

/-! A snapshot is read back as it was saved, written or not. Each field's reader gives back what its
writer was given: numbers and texts as they are, template keys by their codes, and the IDs before the
values, which may have been written as texts, as the integers they spell. -/

namespace CharacterSheet

theorem Data.items_list (xs : List Data) : (Data.list xs).items = xs := by
  cases xs <;> rfl

theorem Vocabulary.read_code (k : TemplateKey) : Vocabulary.read (Record.code k) = .ok k := by
  cases k <;> rfl

namespace Snapshot

open Record

theorem readTemplates_codes (ks : List TemplateKey) :
    readTemplates (.list (ks.map code)) = .valid ks := by
  have hread : (ks.map code).mapM Vocabulary.read = Except.ok (ε := Fault) ks := by
    induction ks with
    | nil => rfl
    | cons k r ih => rw [List.map_cons, List.mapM_cons, Vocabulary.read_code, ih]; rfl
  rw [readTemplates, Data.items_list, hread]
  rfl

theorem readValues_keyed {key : Int → Data} (hk : ∀ n, integer (key n) = .valid n)
    (t : Table Int String) :
    readValues (.map (t.entries.map fun e => (key e.1, .text e.2))) = .valid t := by
  show Table.ofList <$> entries integer text _ = _
  rw [entries_map hk text_text, Checked.map_valid, Table.ofList_entries]

/-- The fields of a snapshot, with its IDs spelled in some way. -/
def fieldsOf (s : Snapshot) (key : Int → Data) : List (Data × Data) :=
  [(.text "id", .int s.id), (.text "ruleset_id", .text s.ruleset),
    (.text "ruleset_version", .text s.version), (.text "templates", .list (s.templates.map code)),
    (.text "added_traits", .list (s.addedTraits.map .int)),
    (.text "values", .map (s.values.entries.map fun e => (key e.1, .text e.2)))]

/-- None of the fields is null, so both modes write all of them. -/
theorem mem_forms {s : Snapshot} {saved : Data} (h : saved ∈ s.forms) :
    ∃ key, saved = .map (s.fieldsOf key) ∧ ∀ n, integer (key n) = .valid n := by
  simp only [forms, List.mem_cons, List.not_mem_nil, or_false] at h
  rcases h with rfl | rfl | rfl
  · exact ⟨.int, rfl, fun _ => rfl⟩
  · exact ⟨fun n => .text (toString n), rfl, integer_toString⟩
  · exact ⟨fun n => .text (toString n), rfl, integer_toString⟩

theorem field?_fieldsOf (s : Snapshot) (key : Int → Data) :
    Data.field? "id" (s.fieldsOf key) = some (.int s.id) ∧
    Data.field? "ruleset_id" (s.fieldsOf key) = some (.text s.ruleset) ∧
    Data.field? "ruleset_version" (s.fieldsOf key) = some (.text s.version) ∧
    Data.field? "templates" (s.fieldsOf key) = some (.list (s.templates.map code)) ∧
    Data.field? "added_traits" (s.fieldsOf key) = some (.list (s.addedTraits.map .int)) ∧
    Data.field? "values" (s.fieldsOf key) =
      some (.map (s.values.entries.map fun e => (key e.1, .text e.2))) := by
  simp [Data.field?, Data.lookup, fieldsOf, Data.text_beq]

theorem read_form {s : Snapshot} {saved : Data} (h : saved ∈ s.forms) : read saved = .valid s := by
  obtain ⟨key, rfl, hkey⟩ := mem_forms h
  obtain ⟨hid, hruleset, hversion, htemplates, hadded, hvalues⟩ := s.field?_fieldsOf key
  show (fun a _ => a) <$> (Snapshot.mk <$> optional (s.fieldsOf key) "id" 0 integer
    <*> required (s.fieldsOf key) "ruleset_id" text
    <*> required (s.fieldsOf key) "ruleset_version" text
    <*> optional (s.fieldsOf key) "templates" [] readTemplates
    <*> optional (s.fieldsOf key) "added_traits" [] (listOf integer)
    <*> optional (s.fieldsOf key) "values" .empty readValues)
    <*> onlyFields fieldNames (s.fieldsOf key) = _
  simp only [Record.optional, required, hid, hruleset, hversion, htemplates, hadded, hvalues]
  rw [readTemplates_codes, readValues_keyed hkey]
  show (fun a _ => a) <$> (Snapshot.mk <$> Checked.valid s.id
    <*> .valid s.ruleset <*> .valid s.version <*> .valid s.templates
    <*> (Checked.each integer 0 (s.addedTraits.map .int)).under "added_traits"
    <*> .valid s.values) <*> onlyFields fieldNames (s.fieldsOf key) = _
  rw [each_map fun n _ => integer_int n]
  rfl

end Snapshot

end CharacterSheet
