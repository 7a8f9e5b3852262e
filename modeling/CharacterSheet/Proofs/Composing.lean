import CharacterSheet.Proofs.Consistency
import CharacterSheet.Proofs.Splitting

/-! Rules chunk by chunk. Each chunk adds its own directive, if it has one, and none changes what the
others say; so rules that are joined say what they say one after the other, and it makes no difference
whether the chunks come apart or in one text. -/

namespace CharacterSheet

open Result

/-- A chunk that says nothing: it is blank, or its first token is no keyword. -/
def Silent (d : Delimiters) (s : String) : Prop :=
  Text.isBlankText s = true ∨
    ∃ word args, Rule.tokensOf d s = .ok (word :: args) ∧ Keyword.ofWord? word = none

section

variable {d : Delimiters}

theorem directivesOf_append (xs ys : List String) :
    directivesOf d (xs ++ ys) = do return (← directivesOf d xs) ++ (← directivesOf d ys) := by
  induction xs with
  | nil =>
    rw [List.nil_append, directivesOf]
    cases directivesOf d ys <;> rfl
  | cons s r ih =>
    rw [List.cons_append, directivesOf, directivesOf, ih]
    split
    · rfl
    · rw [bind_assoc]
      congr 1
      funext tokens
      rw [bind_assoc]
      congr 1
      funext found
      cases found <;> simp

theorem directivesOf_silent {s : String} (h : Silent d s) (r : List String) :
    directivesOf d (s :: r) = directivesOf d r := by
  rw [directivesOf]
  split
  · rfl
  · rename_i hspoken
    rcases h with hblank | ⟨word, args, htokens, hword⟩
    · exact absurd hblank hspoken
    · rw [htokens]
      show (Directive.ofTokens? d (word :: args)).mapError _ >>= _ = _
      rw [Directive.ofTokens?, hword]
      rfl

theorem directivesOf_insert_silent {s : String} (h : Silent d s) (before after : List String) :
    directivesOf d (before ++ s :: after) = directivesOf d (before ++ after) := by
  rw [directivesOf_append, directivesOf_append, directivesOf_silent h]

namespace Rule

variable {c : Char}

/-- A text says what its pieces say. -/
theorem directives_text (hchunk : d.chunk = String.singleton c) (s : String) :
    directives d (.text s) = directivesOf d (Text.cutAt c s) :=
  chunksOf_text_bind hchunk rfl s

theorem directives_joined (hchunk : d.chunk = String.singleton c) (a b : String) :
    directives d (.text (a ++ d.chunk ++ b)) = do
      return (← directives d (.text a)) ++ (← directives d (.text b)) := by
  rw [directives_text hchunk, directives_text hchunk, directives_text hchunk, hchunk,
    Text.cutAt_append, directivesOf_append]

theorem directives_chunks (hchunk : d.chunk = String.singleton c) {cs : List String}
    (hfree : ∀ s ∈ cs, c ∉ s.toList) :
    directives d (.chunks cs) = directives d (.text (Text.join d.chunk cs)) := by
  rw [directives_text hchunk, hchunk]
  by_cases hne : cs = []
  · subst hne
    rfl
  · rw [Text.cutAt_join hne hfree]
    rfl

theorem directives_silent (hchunk : d.chunk = String.singleton c) {s : String} (h : Silent d s)
    (hfree : c ∉ s.toList) : directives d (.text s) = .ok [] := by
  rw [directives_text hchunk, Text.cutAt_of_free hfree, directivesOf_silent h]
  rfl

/-- A chunk that says nothing may stand before a text, after it or at any of its delimiters. -/
theorem directives_insert_silent (hchunk : d.chunk = String.singleton c) {s : String}
    (h : Silent d s) (hfree : c ∉ s.toList) (a b : String) :
    directives d (.text (s ++ d.chunk ++ b)) = directives d (.text b) ∧
    directives d (.text (a ++ d.chunk ++ s)) = directives d (.text a) ∧
    directives d (.text (a ++ d.chunk ++ s ++ d.chunk ++ b)) =
      directives d (.text (a ++ d.chunk ++ b)) := by
  simp only [directives_text hchunk, hchunk, Text.cutAt_append, Text.cutAt_of_free hfree]
  refine ⟨directivesOf_silent h _, ?_, ?_⟩
  · rw [directivesOf_insert_silent h, List.append_nil]
  · rw [List.append_assoc]
    exact directivesOf_insert_silent h _ _

/-- Rules compose chunk by chunk: joined rules say what both say and fail where one of them does, lists
of chunks say what they say when joined, and chunks that say nothing may stand anywhere. -/
theorem directives_compose (hchunk : d.chunk = String.singleton c) (htoken : d.token ≠ "") :
    (∀ a b xs ys, directives d (.text a) = .ok xs → directives d (.text b) = .ok ys →
      directives d (.text (a ++ d.chunk ++ b)) = .ok (xs ++ ys)) ∧
    (∀ a b, (∃ e, directives d (.text a) = .error e) ∨ (∃ e, directives d (.text b) = .error e) →
      ∃ cause, directives d (.text (a ++ d.chunk ++ b)) = .error (.rule cause)) ∧
    (∀ cs, (∀ s ∈ cs, c ∉ s.toList) →
      directives d (.chunks cs) = directives d (.text (Text.join d.chunk cs))) ∧
    ∀ s, Silent d s →
      (∀ before after,
        directives d (.chunks (before ++ s :: after)) = directives d (.chunks (before ++ after))) ∧
      (c ∉ s.toList →
        directives d (.text s) = .ok [] ∧
        ∀ a b, directives d (.text (s ++ d.chunk ++ b)) = directives d (.text b) ∧
          directives d (.text (a ++ d.chunk ++ s)) = directives d (.text a) ∧
          directives d (.text (a ++ d.chunk ++ s ++ d.chunk ++ b)) =
            directives d (.text (a ++ d.chunk ++ b))) := by
  refine ⟨?_, ?_, fun cs => directives_chunks hchunk, ?_⟩
  · intro a b xs ys ha hb
    rw [directives_joined hchunk, ha, hb]
    rfl
  · intro a b hfault
    have hsome : ∃ e, directives d (.text (a ++ d.chunk ++ b)) = .error e := by
      rw [directives_joined hchunk]
      cases ha : directives d (.text a) with
      | error e => exact ⟨e, rfl⟩
      | ok xs =>
        cases hb : directives d (.text b) with
        | error e => exact ⟨e, rfl⟩
        | ok ys =>
          rw [ha, hb] at hfault
          simp at hfault
    have hne : d.chunk ≠ "" := by simp [hchunk]
    obtain ⟨e, he⟩ := hsome
    rcases ruled_directives hne htoken _ e he with ⟨cause, rfl⟩ | ⟨hno, _⟩
    · exact ⟨cause, he⟩
    · exact hno.elim
  · intro s hs
    refine ⟨directivesOf_insert_silent hs, fun hfree => ⟨directives_silent hchunk hs hfree, ?_⟩⟩
    exact directives_insert_silent hchunk hs hfree

/-- Between two directives a chunk of no known keyword, and after one a fault. -/
theorem directives_compose_standard :
    directives .standard (.text "VALUES|A\nGLITTER|1|2\nAUTOHIDE") =
      .ok [.values ["A"], .autoHide] ∧
    (∃ cause, directives .standard (.text "VALUES|A\nMINMAX|0") = .error (.rule cause)) ∧
    directives .standard (.chunks ["VALUES|A", " ", "AUTOHIDE"]) =
      directives .standard (.text "VALUES|A\n \nAUTOHIDE") := by
  have hunknown : Silent .standard "GLITTER|1|2" := .inr ⟨"GLITTER", ["1", "2"], rfl, by decide⟩
  obtain ⟨hjoined, hfault, hchunks, hsilent⟩ :=
    directives_compose (d := .standard) (c := '\n') rfl (by decide)
  refine ⟨?_, ?_, ?_⟩
  · obtain ⟨_, htext⟩ := hsilent _ hunknown
    obtain ⟨_, hbetween⟩ := htext (by decide)
    exact ((hbetween "VALUES|A" "AUTOHIDE").2.2).trans (hjoined "VALUES|A" "AUTOHIDE" _ _ rfl rfl)
  · exact hfault "VALUES|A" "MINMAX|0" (.inr ⟨_, rfl⟩)
  · exact hchunks ["VALUES|A", " ", "AUTOHIDE"] (by decide)

end Rule

end

end CharacterSheet
