import CharacterSheet.Proofs.Joining
import CharacterSheet.Proofs.Parentage

/-! The data that a trait catalog can be built from. Building goes over the traits in passes, each over
what the ones before it have made, and consistency speaks of the rules alone; so each pass is told in
terms of the rules, and succeeds where its part of consistency holds. Where one does not, the fault is
one of the rules, unless there is a number of too many digits to be read or written on the way:
separators are not empty, and the texts in rules are trimmed, so nothing else can go wrong. -/

namespace CharacterSheet

namespace Result

variable {α β : Type}

/-- Whatever goes wrong is a fault of the rules, or for this reason one of too many digits. -/
def Ruled (why : Prop) (x : Result α) : Prop :=
  ∀ e, x = .error e → (∃ cause, e = .rule cause) ∨ why ∧ ∃ count, e = .value (.tooManyDigits count)

variable {why : Prop}

theorem ruled_ok (a : α) : Ruled why (.ok a : Result α) := by
  intro e h
  cases h

theorem ruled_rule (cause : RuleFault) : Ruled why (.error (.rule cause) : Result α) := by
  intro e h
  cases h
  exact .inl ⟨cause, rfl⟩

theorem ruled_fault {cause : RuleFault} (h : cause.isWritable = false → why) :
    Ruled why (.error cause.fault : Result α) := by
  unfold RuleFault.fault
  split
  · exact ruled_rule cause
  · rename_i hw
    intro e he
    cases he
    exact .inr ⟨h (Bool.eq_false_iff.mpr hw), none, rfl⟩

theorem Ruled.bind {x : Result α} {f : α → Result β} (hx : Ruled why x)
    (hf : ∀ a, x = .ok a → Ruled why (f a)) : Ruled why (x >>= f) := by
  intro e h
  rcases bind_error_iff.mp h with h | ⟨a, ha, h⟩
  · exact hx e h
  · exact hf a ha e h

theorem ruled_mapM {f : α → Result β} {xs : List α} (h : ∀ x ∈ xs, Ruled why (f x)) :
    Ruled why (xs.mapM f) := by
  induction xs with
  | nil => exact ruled_ok []
  | cons x r ih =>
    rw [List.mapM_cons]
    apply (h x (by simp)).bind
    intro y _
    apply (ih fun z hz => h z (by simp [hz])).bind
    intro ys _
    exact ruled_ok (y :: ys)

theorem ruled_forM {f : α → Result Unit} {xs : List α} (h : ∀ x ∈ xs, Ruled why (f x)) :
    Ruled why (xs.forM f) := by
  induction xs with
  | nil => exact ruled_ok ()
  | cons x r ih =>
    show Ruled why (f x >>= fun _ => r.forM f)
    apply (h x (by simp)).bind
    intro _ _
    exact ih fun z hz => h z (by simp [hz])

end Result

open Result

/-! ## Rules -/

theorem Delimiters.exists_cut {separator : String} (h : separator ≠ "") (s : String) :
    ∃ parts, cut separator s = .ok parts := by
  unfold cut Text.split?
  simp [h]

section Rules

variable {d : Delimiters}

theorem ruled_directivesOf (htoken : d.token ≠ "") (chunks : List String) :
    Ruled False (directivesOf d chunks) := by
  induction chunks with
  | nil => exact ruled_ok []
  | cons c r ih =>
    unfold directivesOf
    split
    · exact ih
    · obtain ⟨parts, hparts⟩ := Delimiters.exists_cut htoken c
      have htokens : Rule.tokensOf d c = .ok (parts.map Text.trim) := by
        rw [Rule.tokensOf, hparts]
        rfl
      rw [htokens]
      show Ruled False ((Directive.ofTokens? d (parts.map Text.trim)).mapError .rule >>= _)
      cases Directive.ofTokens? d (parts.map Text.trim) with
      | error cause => exact ruled_rule cause
      | ok found =>
        cases found with
        | none => exact ih
        | some x => exact ih.bind fun rest _ => ruled_ok (x :: rest)

theorem Rule.ruled_directives (hchunk : d.chunk ≠ "") (htoken : d.token ≠ "") (rule : Rule) :
    Ruled False (rule.directives d) := by
  have hchunks : ∃ chunks, rule.chunksOf d = .ok chunks := by
    cases rule with
    | text s =>
      by_cases hs : s.isEmpty = true
      · exact ⟨[], by simp [chunksOf, hs]⟩
      · obtain ⟨parts, hparts⟩ := Delimiters.exists_cut hchunk s
        exact ⟨parts, by simp [chunksOf, hs, hparts]⟩
    | chunks cs => exact ⟨cs, rfl⟩
  obtain ⟨chunks, h⟩ := hchunks
  rw [directives, h]
  exact ruled_directivesOf htoken chunks

end Rules

namespace TraitCatalog

end TraitCatalog

/-- Some `SUBTRAIT` of the trait's rule has this text. -/
def TraitDefinition.NamesParent (d : Delimiters) (t : TraitDefinition) (s : String) : Prop :=
  ∃ xs, t.rule.directives d = .ok xs ∧ .subTrait (.name s) ∈ xs

/-- A number of too many digits is in a definition, as the text of a `SUBTRAIT` or as an ID. -/
def TraitDefinition.HoldsVast (d : Delimiters) (t : TraitDefinition) : Prop :=
  (∃ s, t.NamesParent d s ∧ Text.Vast s) ∨ ∃ id ∈ t.id :: t.subtraits, Text.isWritable id = false

namespace TraitCatalog

/-! ## Faults of the passes -/

section Faults

variable {d : Delimiters} {glyph : String} {mains : Table String Int} {drafts : List Draft}
  {why : Prop}

theorem ruled_checkIds (seen : List TraitDefinition) {ts : List TraitDefinition}
    (h : ∀ t ∈ ts, Text.isWritable t.id = false → why) : Ruled why (checkIds seen ts) := by
  induction ts generalizing seen with
  | nil => exact ruled_ok ()
  | cons t r ih =>
    unfold checkIds
    split
    · exact ruled_fault (h t List.mem_cons_self)
    · exact ih _ fun u hu => h u (List.mem_cons_of_mem _ hu)

theorem ruled_draft (hchunk : d.chunk ≠ "") (htoken : d.token ≠ "") {t : TraitDefinition}
    (h : Text.isWritable t.id = false → why) : Ruled why (draft d t) := by
  have hrule := t.rule.ruled_directives hchunk htoken
  unfold draft
  split
  · exact ruled_ok _
  · exact ruled_fault h
  · rename_i f hother hf
    rcases hrule f hf with ⟨cause, rfl⟩ | ⟨hno, _⟩
    · exact absurd rfl (hother cause)
    · exact hno.elim

theorem ruled_claimAll {t : Table String Int} {claims : List (String × Int)}
    (ht : ∀ name id, t.get? name = some id → Text.isWritable id = false → why)
    (h : ∀ p ∈ claims, Text.isWritable p.2 = false → why) : Ruled why (claimAll t claims) := by
  induction claims generalizing t with
  | nil => exact ruled_ok t
  | cons p r ih =>
    have hp := h p List.mem_cons_self
    have hrest : ∀ q ∈ r, Text.isWritable q.2 = false → why :=
      fun q hq => h q (List.mem_cons_of_mem _ hq)
    show Ruled why (claim t p.1 p.2 >>= fun u => claimAll u r)
    unfold claim
    split
    · refine ih (fun name id hid => ?_) hrest
      rw [Table.get?_insert] at hid
      split at hid
      · cases hid
        exact hp
      · exact ht name id hid
    · rename_i other hother
      split
      · exact ih ht hrest
      · have hshared : Ruled why
            (.error (RuleFault.sharedMainName p.1 other p.2).fault : Result (Table String Int)) := by
          refine ruled_fault fun hw => ?_
          rw [RuleFault.isWritable, Bool.and_eq_false_iff] at hw
          exact hw.elim (ht _ _ hother) hp
        refine hshared.bind fun _ h => ?_
        cases h

/-- It can be told of a trimmed text if it is an integer, unless it has too many digits. -/
theorem ruled_resolveParent {s : String} {dr : Draft} (h : Text.trim s = s)
    (hvast : Text.Vast s → why) (hid : Text.isWritable dr.id = false → why) :
    Ruled why (resolveParent mains drafts dr (.name s)) := by
  have hseparated : ¬ Text.Separated s := h ▸ Text.not_separated_trim s
  unfold resolveParent
  dsimp only
  split
  · exact ruled_ok _
  · cases hint : integerText? s with
    | error f =>
      intro e he
      cases he
      have hv : Text.Vast s := by
        by_contra hv
        obtain ⟨n, hn⟩ := Text.readable_of_not_vast hseparated hv
        rw [hint] at hn
        cases hn
      rw [Text.integerText?_of_vast hseparated hv] at hint
      exact .inr ⟨hvast hv, _, (Except.error.inj hint).symm⟩
    | ok n =>
      cases n with
      | none => exact ruled_fault fun hw => hid ((Bool.and_true _).symm.trans hw)
      | some n =>
        show Ruled why (if isKnown drafts n = true then .ok n else _)
        split
        · exact ruled_ok n
        · refine ruled_fault fun hw => hid ?_
          have hn : (Data.int n).isWritable = true := Text.isWritable_of_integerText? hint
          rwa [RuleFault.isWritable, hn, Bool.and_true] at hw

theorem ruled_settleDraft {t : TraitDefinition} {dr : Draft} (h : draft d t = .ok dr)
    (hwhy : t.HoldsVast d → why) : Ruled why (settleDraft glyph mains drafts dr) := by
  obtain ⟨rfl, hrule⟩ := draft_ok h
  have hdirectives : Ruled why (dr.directives.mapM (settle glyph mains drafts dr)) := by
    apply ruled_mapM
    intro x hx
    cases x with
    | subTrait parent =>
      obtain ⟨s, rfl, htrim⟩ := named_of_mem_directives hrule hx
      have hresolve : Ruled why (resolveParent mains drafts dr (.name s)) := by
        apply ruled_resolveParent htrim
        · exact fun hv => hwhy (.inl ⟨s, ⟨_, hrule, hx⟩, hv⟩)
        · exact fun hw => hwhy (.inr ⟨_, List.mem_cons_self, hw⟩)
      exact hresolve.bind fun n _ => ruled_ok (Directive.subTrait (.id n))
    | powerLevel level => cases level <;> exact ruled_ok _
    | _ => exact ruled_ok _
  exact hdirectives.bind fun ys _ => ruled_ok _

theorem ruled_checkDeclared {dr : Draft}
    (h : ∀ id ∈ dr.id :: dr.definition.subtraits, Text.isWritable id = false → why) :
    Ruled why (checkDeclared drafts dr) := by
  unfold checkDeclared
  dsimp only
  split
  · exact ruled_ok ()
  · refine ruled_fault fun hw => ?_
    obtain ⟨id, hid, hw⟩ := List.all_eq_false.mp hw
    refine h id ?_ (by simpa using hw)
    rcases List.mem_cons.mp hid with rfl | hid
    · exact List.mem_cons_self
    · exact List.mem_cons_of_mem _ (List.mem_of_mem_filter (mem_sortIds.mp hid))

theorem ruled_build (hchunk : d.chunk ≠ "") (htoken : d.token ≠ "") (ts : List TraitDefinition) :
    Ruled (∃ t ∈ ts, t.HoldsVast d) (build d glyph ts) := by
  have hown : ∀ t ∈ ts, Text.isWritable t.id = false → ∃ t ∈ ts, t.HoldsVast d :=
    fun t ht hw => ⟨t, ht, .inr ⟨_, List.mem_cons_self, hw⟩⟩
  apply (ruled_checkIds [] hown).bind
  intro _ _
  apply (ruled_mapM fun t ht => ruled_draft hchunk htoken (hown t ht)).bind
  intro drafts hdrafts
  have hdefined : ∀ dr ∈ drafts, ∃ t ∈ ts, draft d t = .ok dr :=
    fun dr hdr => Result.mem_of_mapM_ok hdrafts hdr
  refine Ruled.bind (ruled_claimAll (fun _ _ h => nomatch h) fun p hp => ?_) fun mains _ => ?_
  · obtain ⟨dr, hdr, hp⟩ := List.mem_flatMap.mp hp
    obtain ⟨name, _, rfl⟩ := List.mem_map.mp hp
    obtain ⟨t, ht, hread⟩ := hdefined dr hdr
    obtain ⟨rfl, _⟩ := draft_ok hread
    exact hown _ ht
  apply Ruled.bind
  · apply ruled_mapM
    intro dr hdr
    obtain ⟨t, ht, hread⟩ := hdefined dr hdr
    exact ruled_settleDraft hread fun hv => ⟨t, ht, hv⟩
  intro settled hsettled
  refine Ruled.bind (ruled_forM fun s hs => ?_) fun _ _ => ruled_ok _
  obtain ⟨dr, hdr, hs⟩ := Result.mem_of_mapM_ok hsettled hs
  obtain ⟨t, ht, hread⟩ := hdefined dr hdr
  obtain ⟨rfl, _⟩ := draft_ok hread
  apply ruled_checkDeclared
  intro id hid hw
  rw [Draft.id, (settleDraft_ok hs).1] at hid
  exact ⟨_, ht, .inr ⟨id, hid, hw⟩⟩

end Faults

/-! ## Consistency -/

/-- No two traits share an ID or a main-trait name, every rule can be read, every parent that a rule
names is in the data, and so is every child that a trait declares, with a rule that names the trait. -/
structure Consistent (d : Delimiters) (ts : List TraitDefinition) : Prop where
  ids : (ts.map TraitDefinition.id).Nodup
  rules : ∀ t ∈ ts, ∃ xs, t.rule.directives d = .ok xs
  mains : ∀ t ∈ ts, ∀ u ∈ ts, ∀ name, t.IsMain d name → u.IsMain d name → t.id = u.id
  parents : ∀ t ∈ ts, ∀ s, t.NamesParent d s →
    (∃ u ∈ ts, u.IsMain d s) ∨ ∃ u ∈ ts, integerText? s = .ok (some u.id)
  declared : ∀ t ∈ ts, ∀ id ∈ t.subtraits,
    ∃ u ∈ ts, u.id = id ∧ ∃ s, u.NamesParent d s ∧ Means d ts s t.id

section Accepting

variable {d : Delimiters} {glyph : String} {ts : List TraitDefinition} {drafts settled : List Draft}
  {mains : Table String Int}

theorem Means.unique {s : String} {p q : Int} (hp : Means d ts s p) (hq : Means d ts s q) :
    p = q := by
  rcases hp with ⟨t, ht, rfl, hmain, honly⟩ | ⟨hnone, hint⟩
  · rcases hq with ⟨u, hu, rfl, hmain', _⟩ | ⟨hnone, _⟩
    · rw [honly u hu hmain']
    · exact absurd hmain (hnone t ht)
  · rcases hq with ⟨u, hu, rfl, hmain', _⟩ | ⟨_, hint'⟩
    · exact absurd hmain' (hnone u hu)
    · rw [hint] at hint'
      cases hint'
      rfl

theorem Passed.consistent (h : Passed d glyph ts drafts mains settled) : Consistent d ts := by
  have hids := checkIds_nil_ok_iff.mp h.ids
  refine ⟨hids, ?_, ?_, ?_, ?_⟩
  · intro t ht
    obtain ⟨s, _, _, xs, hrule, _⟩ := h.exists_made ht
    exact ⟨xs, hrule⟩
  · intro t ht u hu name hmain hmain'
    have htable := h.begun.mains_iff.mpr ⟨t, ht, rfl, hmain⟩
    rw [h.begun.mains_iff.mpr ⟨u, hu, rfl, hmain'⟩] at htable
    exact (Option.some.inj htable).symm
  · intro t ht s ⟨xs, hrule, hs⟩
    obtain ⟨dr, _, _, ys, hrule', hall⟩ := h.exists_made ht
    rw [hrule] at hrule'
    cases hrule'
    obtain ⟨y, _, hsettles⟩ := Result.exists_of_forall₂ hall hs
    cases hsettles with
    | parent hmeans =>
      obtain ⟨hmeans, hknown⟩ := hmeans
      rcases hmeans with ⟨u, hu, _, hmain, _⟩ | ⟨_, hint⟩
      · exact .inl ⟨u, hu, hmain⟩
      · obtain ⟨u, hu, rfl⟩ := hknown
        exact .inr ⟨u, hu, hint⟩
    | same hparent => exact absurd rfl (hparent _)
  · intro t ht id hid
    obtain ⟨s, hs, rfl, _⟩ := h.exists_made ht
    have hchild := checkDeclared_ok_iff.mp (Result.forM_ok_iff.mp h.declared s hs) id hid
    obtain ⟨c, hc, rfl, hparent⟩ := mem_childrenOf.mp hchild
    obtain ⟨u, hu, rfl, xs, hrule, hall⟩ := h.made_of_mem hc
    obtain ⟨x, hx, hsettles⟩ := Result.exists_of_forall₂ hall.flip hparent
    refine ⟨_, hu, rfl, ?_⟩
    cases hsettles with
    | @parent text p hmeans => exact ⟨text, ⟨xs, hrule, hx⟩, hmeans.1⟩
    | same hparent => exact absurd rfl (hparent _)

theorem resolveParent_of_known {dr : Draft} {s : String}
    (h : (∃ p, mains.get? s = some p) ∨
      ∃ n, integerText? s = .ok (some n) ∧ isKnown drafts n = true) :
    ∃ n, resolveParent mains drafts dr (.name s) = .ok n := by
  unfold resolveParent
  dsimp only
  cases hmain : mains.get? s with
  | some p => exact ⟨p, rfl⟩
  | none =>
    rw [hmain] at h
    rcases h with ⟨p, hp⟩ | ⟨n, hint, hknown⟩
    · cases hp
    · refine ⟨n, ?_⟩
      rw [hint]
      show (if isKnown drafts n = true then Except.ok n else _) = _
      rw [if_pos hknown]

theorem Consistent.begun (h : Consistent d ts) : ∃ drafts mains, Begun d ts drafts mains := by
  obtain ⟨drafts, hdrafts⟩ : ∃ drafts, ts.mapM (draft d) = .ok drafts := by
    rw [Result.exists_mapM_ok_iff]
    intro t ht
    obtain ⟨xs, hxs⟩ := h.rules t ht
    exact ⟨⟨t, xs⟩, draft_of_directives hxs⟩
  have hclaim : ∀ name id, (name, id) ∈ drafts.flatMap (fun dr => (mainNames dr).map (·, dr.id)) →
      ∃ t ∈ ts, t.id = id ∧ t.IsMain d name := by
    intro name id hmem
    obtain ⟨dr, hdr, hmem⟩ := List.mem_flatMap.mp hmem
    obtain ⟨_, hname, he⟩ := List.mem_map.mp hmem
    cases he
    obtain ⟨t, ht, hread⟩ := Result.mem_of_mapM_ok hdrafts hdr
    obtain ⟨rfl, hrule⟩ := draft_ok hread
    rw [mainNames_eq] at hname
    exact ⟨_, ht, rfl, _, hrule, List.mem_filterMap.mp hname⟩
  obtain ⟨mains, hmains⟩ : ∃ mains, mainTraitsOf drafts = .ok mains := by
    apply claimAll_of_agree
    intro name i j hi hj
    obtain ⟨t, ht, rfl, hmain⟩ := hclaim name i (hi.resolve_left nofun)
    obtain ⟨u, hu, rfl, hmain'⟩ := hclaim name j (hj.resolve_left nofun)
    exact h.mains t ht u hu name hmain hmain'
  exact ⟨drafts, mains, checkIds_nil_ok_iff.mpr h.ids, hdrafts, hmains⟩

theorem Consistent.resolved (h : Consistent d ts) (hbegun : Begun d ts drafts mains)
    (glyph : String) : ∃ settled, drafts.mapM (settleDraft glyph mains drafts) = .ok settled := by
  rw [Result.exists_mapM_ok_iff]
  intro dr hdr
  obtain ⟨t, ht, hread⟩ := Result.mem_of_mapM_ok hbegun.drafted hdr
  obtain ⟨rfl, hrule⟩ := draft_ok hread
  have hsettle : ∃ ys, dr.directives.mapM (settle glyph mains drafts dr) = .ok ys := by
    rw [Result.exists_mapM_ok_iff]
    intro x hx
    cases x with
    | subTrait parent =>
      obtain ⟨s, rfl, _⟩ := named_of_mem_directives hrule hx
      obtain ⟨n, hn⟩ : ∃ n, resolveParent mains drafts dr (.name s) = .ok n := by
        apply resolveParent_of_known
        rcases h.parents _ ht s ⟨_, hrule, hx⟩ with ⟨u, hu, hmain⟩ | ⟨u, hu, hint⟩
        · exact .inl ⟨u.id, hbegun.mains_iff.mpr ⟨u, hu, rfl, hmain⟩⟩
        · exact .inr ⟨u.id, hint, hbegun.isKnown_iff.mpr ⟨u, hu, rfl⟩⟩
      exact ⟨.subTrait (.id n), by rw [settle, hn]; rfl⟩
    | powerLevel level => cases level <;> exact ⟨_, rfl⟩
    | _ => exact ⟨_, rfl⟩
  obtain ⟨ys, hys⟩ := hsettle
  exact ⟨⟨dr.definition, ys⟩, by rw [settleDraft, hys]; rfl⟩

theorem Consistent.checked (h : Consistent d ts) (hbegun : Begun d ts drafts mains)
    (hresolved : drafts.mapM (settleDraft glyph mains drafts) = .ok settled) :
    settled.forM (checkDeclared settled) = .ok () := by
  rw [Result.forM_ok_iff]
  intro s hs
  rw [checkDeclared_ok_iff]
  intro id hid
  obtain ⟨t, ht, rfl, _⟩ := hbegun.made_of_mem hresolved hs
  obtain ⟨u, hu, rfl, text, ⟨xs, hrule, hx⟩, hmeans⟩ := h.declared _ ht id hid
  obtain ⟨c, hc, rfl, ys, hrule', hall⟩ := hbegun.exists_made hresolved hu
  rw [hrule] at hrule'
  cases hrule'
  obtain ⟨y, hy, hsettles⟩ := Result.exists_of_forall₂ hall hx
  refine mem_childrenOf.mpr ⟨c, hc, rfl, ?_⟩
  -- the text was settled to what it means, and it means one trait only
  cases hsettles with
  | @parent _ p hmeans' =>
    have hp : p = s.id := hmeans'.1.unique hmeans
    rw [← hp]
    exact hy
  | same hparent => exact absurd rfl (hparent _)

theorem exists_build_iff_consistent (glyph : String) (ts : List TraitDefinition) :
    (∃ c, build d glyph ts = .ok c) ↔ Consistent d ts := by
  constructor
  · intro ⟨c, h⟩
    obtain ⟨drafts, mains, settled, hpassed, _⟩ := build_ok h
    exact hpassed.consistent
  · intro h
    obtain ⟨drafts, mains, hbegun⟩ := h.begun
    obtain ⟨settled, hresolved⟩ := h.resolved hbegun glyph
    have hpassed : Passed d glyph ts drafts mains settled :=
      ⟨hbegun.ids, hbegun.drafted, hbegun.named, hresolved, h.checked hbegun hresolved⟩
    exact ⟨_, hpassed.build⟩

end Accepting

/-- A catalog is built from consistent data and from no other. Anything else is refused as a fault of
the rules, unless a number of too many digits is met in it. -/
theorem build_accepts_consistent {d : Delimiters} (hchunk : d.chunk ≠ "") (htoken : d.token ≠ "")
    (glyph : String) (ts : List TraitDefinition) :
    (∃ c, build d glyph ts = .ok c) ∧ Consistent d ts ∨
      (∃ f, build d glyph ts = .error f ∧ ((∃ cause, f = .rule cause) ∨
        (∃ t ∈ ts, t.HoldsVast d) ∧ ∃ count, f = .value (.tooManyDigits count))) ∧
      ¬ Consistent d ts := by
  cases h : build d glyph ts with
  | ok c => exact .inl ⟨⟨c, rfl⟩, (exists_build_iff_consistent glyph ts).mp ⟨c, h⟩⟩
  | error f =>
    refine .inr ⟨⟨f, rfl, ruled_build hchunk htoken ts f h⟩, ?_⟩
    intro hconsistent
    obtain ⟨c, hc⟩ := (exists_build_iff_consistent glyph ts).mpr hconsistent
    rw [h] at hc
    cases hc

/-- Without its first trait the data names a parent that is not there. -/
theorem build_accepts_consistent_tangled :
    Consistent .standard tangledTraits ∧ ¬ Consistent .standard (tangledTraits.drop 1) := by
  constructor
  · rcases build_accepts_consistent (d := .standard) (by decide) (by decide) "•" tangledTraits with
      ⟨_, h⟩ | ⟨⟨f, h, _⟩, _⟩
    · exact h
    · rw [build_tangled] at h
      cases h
  · have hrefused : build .standard "•" (tangledTraits.drop 1) =
        .error (.rule (.unknownParent 2 "3" (.text "Delta"))) := rfl
    rcases build_accepts_consistent (d := .standard) (by decide) (by decide) "•"
      (tangledTraits.drop 1) with ⟨⟨c, h⟩, _⟩ | ⟨_, h⟩
    · rw [hrefused] at h
      cases h
    · exact h

/-- A trait that names its parent by a number. -/
def orphan (n : Int) : TraitDefinition :=
  .ruled 1 "Alpha" [Text.join "|" ["SUBTRAIT", toString n]] ""

theorem draft_orphan (n : Int) :
    draft .standard (orphan n) = .ok ⟨orphan n, [.subTrait (.name (toString n))]⟩ := by
  have hchunk : IsChunk '\n' '|' ["SUBTRAIT"] := ⟨by decide, by decide, by decide, by decide⟩
  have hne : (toString n).isEmpty = false := by simpa using Text.toString_ne_empty n
  have hspelled : Directive.ofTokens? .standard ["SUBTRAIT", toString n] =
      .ok (some (.subTrait (.name (toString n)))) := by
    show (if (toString n).isEmpty = true then Except.error RuleFault.blankParent
      else Except.ok (Directive.subTrait (.name (toString n)))).map some = _
    rw [hne]
    rfl
  exact draft_of_directives (Rule.directives_numeral hchunk hspelled rfl)

theorem build_orphan {n : Int} (h : Text.isWritable n = false) :
    build .standard "•" [orphan n] = .error (.value (.tooManyDigits (some (Text.digitsOf n)))) := by
  let dr : Draft := ⟨orphan n, [.subTrait (.name (toString n))]⟩
  have hdrafts : [orphan n].mapM (draft .standard) = .ok [dr] := by
    rw [List.mapM_cons, draft_orphan]
    rfl
  have hsettle : settleDraft "•" .empty [dr] dr =
      .error (.value (.tooManyDigits (some (Text.digitsOf n)))) := by
    show ((((integerText? (toString n) >>= _) >>= _) >>= _) >>= _ : Result _) = _
    rw [Text.integerText?_toString_of_not_writable h]
    rfl
  rw [build, hdrafts]
  show ([dr].mapM (settleDraft "•" .empty [dr]) >>= _ : Result TraitCatalog) = _
  rw [List.mapM_cons, hsettle]
  rfl

/-- A parent that is a number of too many digits is refused, but not as a fault of the rules. -/
theorem build_escapes : ∃ ts f, build .standard "•" ts = .error f ∧ ∀ cause, f ≠ .rule cause :=
  ⟨_, _, build_orphan Text.isWritable_pow, fun _ h => nomatch h⟩

end TraitCatalog

end CharacterSheet
