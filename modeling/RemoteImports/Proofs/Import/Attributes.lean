import RemoteImports.Proofs.Import.Derivation

/-!
# Attributes behind the module

A declaration with attributes is not to be read.  They are looked for behind
spaces and tabs only, so a declaration is read in spite of them exactly if a
comment or a blank of another kind stands before the word `with`.
-/

namespace RemoteImports
namespace Import

open Script
open Text (byteLength append_inj_of_byteLength)

section

variable {form other : Form} {body gap cs rest tail tail' after : List Char}

theorem Form.tail_eq (h : Begins Literal form.tokens cs tail)
    (h' : Begins Literal other.tokens cs tail') : tail = tail' := by
  have hquoted : forall {form : Form} {tail : List Char},
      Begins Literal form.tokens cs tail -> form.default = none ∧ form.group = none ->
      literal? cs = some (form.source, tail) ∧ specifiers? cs = none := by
    rintro ⟨default, group, source⟩ tail hbegins ⟨rfl, rfl⟩
    have hread := begins_literal_end_iff.mp hbegins
    refine ⟨hread, ?_⟩
    rcases literal?_eq_some_iff.mp hread with ⟨text, rfl, hliteral⟩
    cases hliteral with
    | intro hquote _ =>
        exact specifiers?_eq_none_of_isQuote hquote _
  by_cases hbare : form.default = none ∧ form.group = none
  · rcases hquoted h hbare with ⟨hread, hnone⟩
    by_cases hbare' : other.default = none ∧ other.group = none
    · rw [(hquoted h' hbare').left, Option.some.injEq, Prod.mk.injEq] at hread
      exact hread.right.symm
    · rcases specifiers?_of_begins hbare' h' with ⟨r, hread', _⟩
      rw [hnone] at hread'
      cases hread'
  · rcases specifiers?_of_begins hbare h with ⟨r, hread, hbehind⟩
    by_cases hbare' : other.default = none ∧ other.group = none
    · rw [(hquoted h' hbare').right] at hread
      cases hread
    · rcases specifiers?_of_begins hbare' h' with ⟨r', hread', hbehind'⟩
      rw [hread, Option.some.injEq, Prod.mk.injEq] at hread'
      rw [← hread'.right] at hbehind'
      rcases begins_from_iff.mp hbehind with ⟨q, hfrom, hliteral⟩
      rcases begins_from_iff.mp hbehind' with ⟨q', hfrom', hliteral'⟩
      rw [hfrom] at hfrom'
      cases hfrom'
      rw [hliteral, Option.some.injEq, Prod.mk.injEq] at hliteral'
      exact hliteral'.right

/-- Only what stands behind the module can keep a declaration from being read. -/
theorem clause?_eq_none_iff (hbody : Spaced Literal true form.tokens body []) :
    clause? (body ++ tail) = none <-> finish? tail = none := by
  constructor
  · intro hclause
    cases hfinish : finish? tail with
    | none =>
        rfl
    | some rest =>
        rw [clause?_of_tokens_eq rfl hbody hfinish] at hclause
        cases hclause
  · intro hfinish
    cases hclause : clause? (body ++ tail) with
    | none =>
        rfl
    | some found =>
        rcases clause?_eq_some_iff.mp hclause with ⟨other, tail', _, hbegins', hend⟩
        have hbegins := Form.begins (hbody.append tail)
        rw [← Form.tail_eq hbegins hbegins', hfinish] at hend
        cases hend

/-!
# Looking for attributes
-/

/-- No attributes are seen behind a blank that is no space and no tab, nor
behind a comment. -/
theorem forall_isSpace_of_hasAttributes (hgap : Trivia gap)
    (h : hasAttributes ((gap ++ cs).dropWhile isSpace) = true) :
    forall c, c ∈ gap -> isSpace c = true := by
  have hstart : forall {c : Char} {cs : List Char}, isWordStart c = false ->
      isSpace c = false -> hasAttributes ((c :: cs).dropWhile isSpace) = false := by
    intro c cs hc hspace
    rw [List.dropWhile_cons_of_neg (by rw [hspace]; exact Bool.false_ne_true),
      hasAttributes, word?_cons_eq_none hc]
  induction hgap with
  | nil =>
      intro c hmem
      cases hmem
  | @blank c gap hblank _ ih =>
      rw [List.cons_append] at h
      cases hspace : isSpace c with
      | true =>
          rw [List.dropWhile_cons_of_pos hspace] at h
          intro d hmem
          cases hmem with
          | head =>
              exact hspace
          | tail _ hlater =>
              exact ih h d hlater
      | false =>
          rw [hstart (isWordStart_eq_false_of_isBlank hblank) hspace] at h
          cases h
  | line | block =>
      rw [List.cons_append, hstart rfl rfl] at h
      cases h

theorem finish?_eq_none_iff_of_attributes (hgap : Trivia gap)
    (hafter : Begins Literal [.word ['w', 'i', 't', 'h'], .mark '{'] after tail) :
    finish? (gap ++ after) = none <->
      ¬ exists c : Char, c ∈ gap ∧ c ≠ ' ' ∧ c ≠ '\t' := by
  rw [finish?_eq_none_iff]
  constructor
  · rintro h ⟨c, hmem, hspace, htab⟩
    have hc := forall_isSpace_of_hasAttributes hgap h c hmem
    rw [isSpace, Bool.or_eq_true, beq_iff_eq, beq_iff_eq] at hc
    exact hc.elim hspace htab
  · intro h
    have hgap : forall c, c ∈ gap -> isSpace c = true := by
      intro c hmem
      cases hc : isSpace c with
      | true =>
          rfl
      | false =>
          rw [isSpace, Bool.or_eq_false_iff, beq_eq_false_iff_ne, beq_eq_false_iff_ne] at hc
          exact absurd ⟨c, hmem, hc⟩ h
    have hhead : after.head?.any isSpace = false := by
      rcases begins_word_iff.mp hafter with ⟨rest, hread, _⟩
      rw [← word?_append hread]
      rfl
    rw [dropWhile_isSpace_append hgap hhead]
    exact hasAttributes_iff.mpr ⟨_, tail, Or.inl rfl, hafter⟩

end

/-!
# Declarations of a script
-/

/-- Where a declaration could begin and attributes stand behind its module, one
is found if and only if the scan comes there outside all brackets, and
something else than spaces and tabs stands before the attributes.  The place is
the one before it is kept in 32 bits, which is the same in a script of fewer than
`placeLimit` bytes. -/
theorem declared_before_attributes_iff {script : String}
    {before body gap after tail : List Char} {form : Form}
    (hscript : script.toList = before ++ (importWord ++ (body ++ (gap ++ after))))
    (hbody : Spaced Literal true form.tokens body []) (hgap : Trivia gap)
    (hafter : Begins Literal [.word ['w', 'i', 't', 'h'], .mark '{'] after tail) :
    (exists declaration : Declaration,
      declaration ∈ declarations script ∧ declaration.start = byteLength before) <->
    (exists state : State,
      Reaches .start (skipInterpreter script.toList) state
        (importWord ++ (body ++ (gap ++ after))) ∧
      state.depth = 0 ∧ state.last ≠ .punctuation '.') ∧
    exists c : Char, c ∈ gap ∧ c ≠ ' ' ∧ c ≠ '\t' := by
  have hnone := (clause?_eq_none_iff hbody).trans
    (finish?_eq_none_iff_of_attributes hgap hafter)
  constructor
  · rintro ⟨declaration, hmem, hstart⟩
    rcases exists_reached_of_mem_declarations hmem with
      ⟨before', state, behind, rest, clause, hscript', hreach, hdepth, hlast, _, hclause,
        rfl⟩
    rcases append_inj_of_byteLength (hscript.symm.trans hscript') hstart.symm with
      ⟨_, htext⟩
    rw [← htext] at hreach
    rw [← List.append_cancel_left htext] at hclause
    refine ⟨⟨state, hreach, hdepth, hlast⟩, Classical.not_not.mp fun hspaces => ?_⟩
    rw [hnone.mpr hspaces] at hclause
    cases hclause
  · rintro ⟨⟨state, hreach, hdepth, hlast⟩, hother⟩
    cases hclause : clause? (body ++ (gap ++ after)) with
    | none =>
        exact absurd hother (hnone.mp hclause)
    | some found =>
        have hends := Form.endsWord (hbody.append (gap ++ after))
        exact hreach.mem_declarations hscript hdepth hlast hends hclause

theorem spaced_bare : Spaced Literal true (Form.tokens ⟨none, none, ['b']⟩)
    ([' '] ++ (['\'', 'b', '\''] ++ [])) [] :=
  Spaced.cons (Trivia.blank rfl Trivia.nil) (fun _ => List.cons_ne_nil _ _)
    (Token.Written.literal (Literal.intro rfl
      (Quoted.plain (by decide) (by decide) (by decide) Quoted.close)))
    (Spaced.nil _ _)

theorem begins_attributes : Begins Literal [.word ['w', 'i', 't', 'h'], .mark '{']
    (['w', 'i', 't', 'h'] ++ ([' '] ++ (['{'] ++ ['}']))) ['}'] :=
  Begins.intro (Token.Written.word (by decide))
    (Spaced.cons (Trivia.blank rfl Trivia.nil) (fun _ => List.cons_ne_nil _ _)
      (Token.Written.mark (by decide)) (Spaced.nil _ _))

/-- Attributes on the next line are not seen. -/
theorem declared_before_attributes_line :
    exists declaration : Declaration,
      declaration ∈ declarations "import 'b'\nwith \x7b\x7d" ∧
        declaration.start = byteLength [] := by
  have hgap : Trivia ['\n'] := Trivia.blank rfl Trivia.nil
  refine (declared_before_attributes_iff rfl spaced_bare hgap begins_attributes).mpr ?_
  exact ⟨⟨.start, Reaches.refl _ _, rfl, nofun⟩, '\n', by decide⟩

/-- Nor are they behind a comment. -/
theorem not_forall_declaration_without_attributes :
    ¬ forall (script : String) (declaration : Declaration)
        (before body gap after tail : List Char) (form : Form),
      declaration ∈ declarations script -> declaration.start = byteLength before ->
      script.toList = before ++ (importWord ++ (body ++ (gap ++ after))) ->
      Spaced Literal true form.tokens body [] -> Trivia gap ->
      ¬ Begins Literal [.word ['w', 'i', 't', 'h'], .mark '{'] after tail := by
  intro h
  have hmem : (⟨[], "b", 0, 10⟩ : Declaration) ∈
      declarations "import 'b'/**/with \x7b\x7d" := by
    decide +kernel
  have hgap : Trivia ['/', '*', '*', '/'] :=
    @Trivia.block [] [] (by decide) Trivia.nil
  exact h _ _ [] _ _ _ _ _ hmem rfl rfl spaced_bare hgap begins_attributes

end Import
end RemoteImports
