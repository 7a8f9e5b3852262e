import CharacterSheet.Proofs.Numeral
import CharacterSheet.Proofs.Splitting
import CharacterSheet.Proofs.TraitCatalog

/-! Tokens and the texts they are joined to. Joining the tokens of a rule and cutting the text again
gives the same tokens, whatever blanks and blank chunks the rule had; and lists of trimmed tokens in which
no delimiter occurs are the tokens of their text, unless a chunk of them is blank. -/

namespace CharacterSheet

/-- What the tokens of a chunk are like that is not blank. -/
structure IsChunk (c m : Char) (ts : List String) : Prop where
  nonempty : ts ≠ []
  trimmed : ∀ t ∈ ts, Text.trim t = t
  free : ∀ t ∈ ts, c ∉ t.toList ∧ m ∉ t.toList
  spoken : ts ≠ [""]

section

variable {d : Delimiters} {c m : Char} {ts : List String}

theorem IsChunk.not_mem_join (h : IsChunk c m ts) (hdistinct : c ≠ m) :
    c ∉ (Text.join (String.singleton m) ts).toList := by
  intro hc
  rcases Text.mem_join hc with heq | ⟨t, ht, hct⟩
  · exact hdistinct heq
  · exact (h.free t ht).1 hct

theorem IsChunk.cutAt_join (h : IsChunk c m ts) :
    Text.cutAt m (Text.join (String.singleton m) ts) = ts :=
  Text.cutAt_join h.nonempty fun t ht => (h.free t ht).2

theorem IsChunk.trim_cutAt_join (h : IsChunk c m ts) :
    (Text.cutAt m (Text.join (String.singleton m) ts)).map Text.trim = ts := by
  rw [h.cutAt_join]
  exact (List.map_congr_left h.trimmed).trans (List.map_id' ts)

/-- A blank text has no delimiter in it, so it would be the only token. -/
theorem IsChunk.not_blank_join (h : IsChunk c m ts) (hblank : Text.isBlank m = false) :
    Text.isBlankText (Text.join (String.singleton m) ts) = false := by
  by_contra hjoin
  rw [Bool.not_eq_false] at hjoin
  have hfree : m ∉ (Text.join (String.singleton m) ts).toList := by
    intro hm
    rw [Text.isBlankText, List.all_eq_true] at hjoin
    rw [hjoin m hm] at hblank
    cases hblank
  obtain ⟨t, rfl⟩ : ∃ t, ts = [t] := ⟨_, by rw [← Text.cutAt_of_free hfree, h.cutAt_join]⟩
  have htrim : Text.trim t = "" := Text.isBlankText_iff.mp hjoin
  rw [h.trimmed t List.mem_cons_self] at htrim
  exact h.spoken (by rw [htrim])

/-- The tokens of a piece between chunk delimiters are a chunk, unless the piece is blank. -/
theorem isChunk_of_mem_cutAt {s p : String} (hp : p ∈ Text.cutAt c s)
    (hspoken : Text.isBlankText p = false) : IsChunk c m ((Text.cutAt m p).map Text.trim) where
  nonempty := by simp [Text.cutAt_ne_nil]
  trimmed := by
    intro t ht
    obtain ⟨part, _, rfl⟩ := List.mem_map.mp ht
    exact Text.trim_trim part
  free := by
    intro t ht
    obtain ⟨part, hpart, rfl⟩ := List.mem_map.mp ht
    constructor
    · intro hc
      have hcp : c ∈ p.toList := (Text.of_mem_cutAt hpart (Text.mem_of_mem_trim hc)).1
      exact (Text.of_mem_cutAt hp hcp).2 rfl
    · exact fun hm => (Text.of_mem_cutAt hpart (Text.mem_of_mem_trim hm)).2 rfl
  spoken := by
    intro hone
    obtain ⟨part, hpart⟩ : ∃ part, Text.cutAt m p = [part] :=
      List.length_eq_one_iff.mp (by rw [← List.length_map, hone]; rfl)
    have hwhole : part = p := by
      rw [← Text.join_cutAt (c := m) (s := p), hpart]
      rfl
    rw [hpart, hwhole, List.map_singleton, List.singleton_inj] at hone
    rw [Text.isBlankText_iff.mpr hone] at hspoken
    cases hspoken

namespace Rule

/-- The text of chunks of tokens. -/
def joined (d : Delimiters) (chunks : List (List String)) : String :=
  Text.join d.chunk (chunks.map (Text.join d.token))

theorem tokensOf_eq (htoken : d.token = String.singleton m) (s : String) :
    tokensOf d s = .ok ((Text.cutAt m s).map Text.trim) := by
  rw [tokensOf, Delimiters.cut, htoken, Text.split?_singleton]
  rfl

/-- The tokens of a text are those of its pieces. -/
theorem tokens_text (hchunk : d.chunk = String.singleton c) (htoken : d.token = String.singleton m)
    (s : String) : tokens d (.text s) =
      .ok (((Text.cutAt c s).filter fun p => !Text.isBlankText p).map
        fun p => (Text.cutAt m p).map Text.trim) := by
  have hread : tokensOf d = fun p => pure ((Text.cutAt m p).map Text.trim) :=
    funext (tokensOf_eq htoken)
  rw [tokens, chunksOf_text_bind hchunk rfl, hread, List.mapM_pure]
  rfl

theorem tokens_joined (hchunk : d.chunk = String.singleton c) (htoken : d.token = String.singleton m)
    (hdistinct : c ≠ m) (hblank : Text.isBlank m = false) {chunks : List (List String)}
    (h : ∀ ts ∈ chunks, IsChunk c m ts) : tokens d (.text (joined d chunks)) = .ok chunks := by
  rw [tokens_text hchunk htoken, joined, hchunk, htoken]
  by_cases hne : chunks = []
  · subst hne
    rfl
  · have hfree : ∀ p ∈ chunks.map (Text.join (String.singleton m)), c ∉ p.toList := by
      intro p hp
      obtain ⟨ts, hts, rfl⟩ := List.mem_map.mp hp
      exact (h ts hts).not_mem_join hdistinct
    have hspoken : ∀ p ∈ chunks.map (Text.join (String.singleton m)),
        (!Text.isBlankText p) = true := by
      intro p hp
      obtain ⟨ts, hts, rfl⟩ := List.mem_map.mp hp
      rw [(h ts hts).not_blank_join hblank]
      rfl
    have hread : ∀ ts ∈ chunks,
        (Text.cutAt m (Text.join (String.singleton m) ts)).map Text.trim = ts :=
      fun ts hts => (h ts hts).trim_cutAt_join
    rw [Text.cutAt_join (by simpa using hne) hfree, List.filter_eq_self.mpr hspoken, List.map_map]
    exact congrArg Except.ok ((List.map_congr_left hread).trans (List.map_id' chunks))

/-- What is read of a text are chunks. -/
theorem isChunk_of_tokens (hchunk : d.chunk = String.singleton c)
    (htoken : d.token = String.singleton m) {s : String} {chunks : List (List String)}
    (h : tokens d (.text s) = .ok chunks) : ∀ ts ∈ chunks, IsChunk c m ts := by
  rw [tokens_text hchunk htoken] at h
  obtain rfl := Except.ok.inj h
  intro ts hts
  obtain ⟨p, hp, rfl⟩ := List.mem_map.mp hts
  obtain ⟨hp, hspoken⟩ := List.mem_filter.mp hp
  exact isChunk_of_mem_cutAt hp (by simpa using hspoken)

/-- A chunk of tokens says what its tokens spell. -/
theorem directivesOf_join (htoken : d.token = String.singleton m)
    (hblank : Text.isBlank m = false) (h : IsChunk c m ts) {x : Directive}
    (hx : Directive.ofTokens? d ts = .ok (some x)) {r : List String} {xs : List Directive}
    (hr : directivesOf d r = .ok xs) :
    directivesOf d (Text.join (String.singleton m) ts :: r) = .ok (x :: xs) := by
  rw [directivesOf, h.not_blank_join hblank, tokensOf_eq htoken, h.trim_cutAt_join]
  show (Directive.ofTokens? d ts).mapError _ >>= _ = _
  rw [hx]
  show (do return x :: (← directivesOf d r)) = _
  rw [hr]
  rfl

/-- The text of an integer can be the last token of any chunk. -/
theorem isChunk_numeral (h : IsChunk '\n' '|' ts) (n : Int) :
    IsChunk '\n' '|' (ts ++ [toString n]) where
  nonempty := by simp
  trimmed := by
    refine List.forall_mem_append.mpr ⟨h.trimmed, List.forall_mem_singleton.mpr ?_⟩
    rw [Text.trim, Text.trimChars_of_plain fun _ hc => Record.isPlain_of_mem_toString hc,
      String.ofList_toList]
  free := by
    refine List.forall_mem_append.mpr ⟨h.free, List.forall_mem_singleton.mpr ⟨?_, ?_⟩⟩
    · exact fun hc => absurd (Record.isPlain_of_mem_toString hc) (by decide)
    · exact fun hc => absurd (Record.isPlain_of_mem_toString hc) (by decide)
  spoken := by
    obtain ⟨t, r, rfl⟩ := List.exists_cons_of_ne_nil h.nonempty
    simp

theorem directives_numeral {n : Int} (h : IsChunk '\n' '|' ts) {x : Directive}
    (hx : Directive.ofTokens? .standard (ts ++ [toString n]) = .ok (some x)) {r : List String}
    {xs : List Directive} (hr : directivesOf .standard r = .ok xs) :
    directives .standard (.chunks (Text.join "|" (ts ++ [toString n]) :: r)) = .ok (x :: xs) :=
  directivesOf_join rfl rfl (isChunk_numeral h n) hx hr

/-! ## Formulas -/

theorem derivedInteger_of_make {k : Keyword} {args : List String} {source : String} {f : Formula}
    (h : Directive.make d k args = .ok (.derivedInteger source f)) :
    k = .derivedInteger ∧ source = Text.join d.token args ∧ Formula.ofTokens? args = .ok f := by
  obtain rfl : Keyword.derivedInteger = k := Directive.keyword_of_make h
  rw [Directive.make] at h
  cases hg : Formula.ofTokens? args with
  | error e =>
    rw [hg] at h
    cases h
  | ok g =>
    rw [hg] at h
    cases h
    exact ⟨rfl, rfl, rfl⟩

/-- The source of a formula are the tokens that it was read from. -/
theorem formula_of_source (htoken : d.token = String.singleton m) {rule : Rule}
    {ds : List Directive} (h : rule.directives d = .ok ds) {source : String} {f : Formula}
    (hmem : .derivedInteger source f ∈ ds) :
    ∃ parts, Delimiters.cut d.token source = .ok parts ∧ Formula.ofTokens? parts = .ok f := by
  obtain ⟨chunks, _, h⟩ := Result.bind_ok h
  obtain ⟨s, _, tokens, htokens, hread⟩ := chunk_of_mem_directivesOf h hmem
  rw [tokensOf_eq htoken] at htokens
  obtain rfl := Except.ok.inj htokens
  obtain ⟨k, args, hargs, hneeded, hmake⟩ := Directive.make_of_ofTokens? hread
  obtain ⟨rfl, rfl, hf⟩ := derivedInteger_of_make hmake
  have hne : args ≠ [] := List.ne_nil_of_length_pos hneeded
  have hfree : ∀ t ∈ args, m ∉ t.toList := by
    intro t ht hm
    obtain ⟨part, hpart, rfl⟩ := List.mem_map.mp (hargs ▸ List.mem_cons_of_mem _ ht)
    exact (Text.of_mem_cutAt hpart (Text.mem_of_mem_trim hm)).2 rfl
  refine ⟨args, ?_, hf⟩
  rw [Delimiters.cut, htoken, Text.split?_singleton, Text.cutAt_join hne hfree]

/-- Cutting and joining are inverse: chunks of tokens are what is read of their text, what is read of
any text is read of its own text again, and the source of a formula spells the formula. -/
theorem tokens_joined_inverse (hchunk : d.chunk = String.singleton c)
    (htoken : d.token = String.singleton m) (hdistinct : c ≠ m) (hblank : Text.isBlank m = false) :
    (∀ chunks, (∀ ts ∈ chunks, IsChunk c m ts) → tokens d (.text (joined d chunks)) = .ok chunks) ∧
    (∀ s, ∃ chunks, tokens d (.text s) = .ok chunks ∧
      tokens d (.text (joined d chunks)) = .ok chunks) ∧
    ∀ rule ds source f, directives d rule = .ok ds → .derivedInteger source f ∈ ds →
      ∃ parts, Delimiters.cut d.token source = .ok parts ∧ Formula.ofTokens? parts = .ok f := by
  refine ⟨fun chunks => tokens_joined hchunk htoken hdistinct hblank, ?_, ?_⟩
  · intro s
    obtain ⟨chunks, hread⟩ : ∃ chunks, tokens d (.text s) = .ok chunks :=
      ⟨_, tokens_text hchunk htoken s⟩
    have hchunks := isChunk_of_tokens hchunk htoken hread
    exact ⟨chunks, hread, tokens_joined hchunk htoken hdistinct hblank hchunks⟩
  · intro rule ds source f h hmem
    exact formula_of_source htoken h hmem

/-- An empty token between two others is kept, and a blank chunk is not. -/
theorem tokens_joined_inverse_standard :
    tokens .standard (.text "MINMAX||5\nA") = .ok [["MINMAX", "", "5"], ["A"]] ∧
    (∃ chunks, tokens .standard (.text " A | b\n \n|") = .ok chunks ∧
      tokens .standard (.text (joined .standard chunks)) = .ok chunks) ∧
    ∃ parts, Delimiters.cut "|" "2|B|*" = .ok parts ∧
      Formula.ofTokens? parts = .ok (.operation .mul (.operand "2") (.operand "B")) := by
  obtain ⟨hchunks, htext, hsource⟩ :=
    tokens_joined_inverse (d := .standard) (c := '\n') (m := '|') rfl rfl (by decide) (by decide)
  refine ⟨?_, htext _, ?_⟩
  · have hmin : IsChunk '\n' '|' ["MINMAX", "", "5"] :=
      ⟨by decide, by decide, by decide, by decide⟩
    have hone : IsChunk '\n' '|' ["A"] := ⟨by decide, by decide, by decide, by decide⟩
    exact hchunks _ (List.forall_mem_cons.mpr ⟨hmin, List.forall_mem_singleton.mpr hone⟩)
  · exact hsource (.text " DERIVED_INTEGER| 2|B|* ") _ _ _ rfl List.mem_cons_self

end Rule

end

end CharacterSheet
