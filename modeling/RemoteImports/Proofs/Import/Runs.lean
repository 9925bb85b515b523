import RemoteImports.Proofs.Import.Located
import RemoteImports.Proofs.Script.Literal
import RemoteImports.Proofs.Script.Trivia

/-!
# Runs of the scan

Between declarations the scan takes steps that yield nothing.  A run is a
number of such steps; what the scan finds before a run is what it finds behind
it.  Each kind of token is passed over in one step.
-/

namespace RemoteImports
namespace Import

open Script

/-- From the first state and text, steps without a declaration lead to the
second. -/
inductive Runs : State -> List Char -> State -> List Char -> Prop where
  | refl (state : State) (cs : List Char) : Runs state cs state cs
  | step {state last : State} {c : Char} {cs rest : List Char} :
      (state.step c cs).clause = none ->
      Runs (state.step c cs).state (state.step c cs).rest last rest ->
      Runs state (c :: cs) last rest

section

variable {state next last : State} {cs behind rest : List Char} {c : Char}

theorem Runs.trans (h : Runs state cs next behind) (hlater : Runs next behind last rest) :
    Runs state cs last rest := by
  induction h with
  | refl =>
      exact hlater
  | step hclause _ ih =>
      exact Runs.step hclause (ih hlater)

theorem Runs.suffix (h : Runs state cs last rest) : rest <:+ cs := by
  induction h with
  | refl =>
      exact List.suffix_rfl
  | step _ _ ih =>
      exact (ih.trans (State.step_suffix _ _ _)).trans (List.suffix_cons _ _)

theorem Runs.scan (h : Runs state cs last rest) (total : Nat) :
    scan total state cs = scan total last rest := by
  induction h with
  | refl =>
      rfl
  | step hclause _ ih =>
      rw [Import.scan, hclause]
      exact ih

theorem Runs.of_pass {kind : Last} (h : state.step c cs = next.pass kind rest) :
    Runs state (c :: cs) { next with last := kind } rest := by
  have hclause : (state.step c cs).clause = none := by
    rw [h]
    rfl
  apply Runs.step hclause
  rw [h]
  exact Runs.refl _ rest

/-!
# Blanks and comments
-/

theorem State.step_blank (state : State) (h : isBlank c = true) (cs : List Char) :
    state.step c cs = state.pass state.last cs := by
  rw [step, if_pos h]

theorem State.step_line (state : State) (cs : List Char) :
    state.step '/' ('/' :: cs) = state.pass state.last (skipLine cs) := by
  rw [step, if_neg (by decide), if_pos ⟨rfl, rfl⟩]
  rfl

theorem State.step_block (state : State) (cs : List Char) :
    state.step '/' ('*' :: cs) = state.pass state.last (skipBlock cs) := by
  rw [step, if_neg (by decide), if_neg (by simp), if_pos ⟨rfl, rfl⟩]
  rfl

theorem Runs.of_trivia {gap : List Char} (h : Trivia gap) (state : State)
    (rest : List Char) : Runs state (gap ++ rest) state rest := by
  induction h with
  | nil =>
      exact Runs.refl state rest
  | blank hblank _ ih =>
      exact (Runs.of_pass (state.step_blank hblank _)).trans ih
  | @line body cs hbody _ ih =>
      have hstep := state.step_line (body ++ '\n' :: (cs ++ rest))
      rw [skipLine_append hbody] at hstep
      rw [List.cons_append, List.cons_append, List.append_assoc, List.cons_append]
      apply (Runs.of_pass hstep).trans
      exact (Runs.of_pass (state.step_blank (by decide) _)).trans ih
  | @block body cs hbody _ ih =>
      have hstep := state.step_block (body ++ '*' :: '/' :: (cs ++ rest))
      rw [skipBlock_append hbody] at hstep
      rw [List.cons_append, List.cons_append, List.append_assoc, List.cons_append,
        List.cons_append]
      exact (Runs.of_pass hstep).trans ih

/-!
# Words, literals and marks
-/

theorem State.step_punctuation (state : State) (hc : c ∈ ['.', ',', ':', ';', '='])
    (cs : List Char) : state.step c cs = state.pass (.punctuation c) cs := by
  simp only [List.mem_cons, List.not_mem_nil, or_false] at hc
  rcases hc with rfl | rfl | rfl | rfl | rfl <;> rfl

theorem State.step_opening (state : State) (hc : c ∈ ['(', '{']) (cs : List Char) :
    state.step c cs =
      { state with depth := state.depth + 1 }.pass (.punctuation c) cs := by
  simp only [List.mem_cons, List.not_mem_nil, or_false] at hc
  rcases hc with rfl | rfl <;> rfl

theorem State.step_closing (state : State) (hc : c ∈ [')', '}']) (cs : List Char) :
    state.step c cs =
      { state with depth := state.depth - 1 }.pass (.punctuation c) cs := by
  simp only [List.mem_cons, List.not_mem_nil, or_false] at hc
  rcases hc with rfl | rfl <;> rfl

theorem not_bracket_of_isWordStart (h : isWordStart c = true) :
    ¬ (c = '{' ∨ c = '(' ∨ c = '[') ∧ ¬ (c = '}' ∨ c = ')' ∨ c = ']') := by
  constructor
  · rintro (hc | hc | hc) <;> exact ne_of_isWordStart h (by decide) hc
  · rintro (hc | hc | hc) <;> exact ne_of_isWordStart h (by decide) hc

theorem State.step_word (state : State) {word : List Char} (hword : IsWord (c :: word))
    (hrest : EndsWord rest) :
    state.step c (word ++ rest) = state.stepWord (c :: word) rest := by
  have hstart := hword.left
  have hne : forall d : Char, isWordStart d = false -> c ≠ d :=
    fun d => ne_of_isWordStart hstart
  have hslash := hne '/' (by decide)
  rcases not_bracket_of_isWordStart hstart with ⟨hopen, hclose⟩
  rw [step, isBlank_eq_false_of_isWordStart hstart, if_neg Bool.false_ne_true,
    if_neg fun h => hslash h.left, if_neg fun h => hslash h.left, stepToken,
    isQuote_eq_false_of_isWordStart hstart, if_neg Bool.false_ne_true,
    if_neg (hne '`' (by decide)), if_neg hslash, if_neg hopen, if_neg hclose,
    isDigit_eq_false_of_isWordStart hstart, if_neg Bool.false_ne_true,
    if_pos hstart, takeWhile_append_of_endsWord hword.right hrest,
    dropWhile_append_of_endsWord hword.right hrest]

theorem State.step_quote (state : State) (h : isQuote c = true) (cs : List Char) :
    state.step c cs = state.pass .value (skipString c cs) := by
  have hc := isBlank_eq_false_of_isQuote h
  rw [step, hc.left, if_neg Bool.false_ne_true, if_neg fun h => hc.right h.left,
    if_neg fun h => hc.right h.left, stepToken, if_pos h]

theorem State.step_literal (state : State) {text value : List Char}
    (hquote : isQuote c = true) (h : Quoted c text value) (rest : List Char) :
    state.step c (text ++ rest) = state.pass .value rest := by
  rw [state.step_quote hquote, h.skipString hquote]

theorem State.step_template (state : State) (cs : List Char) :
    state.step '`' cs = state.pass .value (skipTemplate cs) := rfl

theorem State.step_slash (state : State) (hline : cs.head? ≠ some '/')
    (hblock : cs.head? ≠ some '*') :
    state.step '/' cs =
      if state.last.allowsRegex then state.pass .value (skipRegex false cs)
      else state.pass (.punctuation '/') cs := by
  rw [step, if_neg (by decide), if_neg fun h => hline h.right,
    if_neg fun h => hblock h.right]
  rfl

theorem State.stepWord_eq_pass {word : List Char}
    (h : (state.stepWord word rest).clause = none) :
    state.stepWord word rest = state.pass (.word (operandWords.contains word)) rest := by
  unfold stepWord at h ⊢
  split at h
  · rename_i himport
    rw [if_pos himport]
    cases hread : clause? rest with
    | none =>
        rfl
    | some found =>
        rw [hread] at h
        cases h
  · rename_i himport
    rw [if_neg himport]

theorem isWord_importWord : IsWord importWord := by
  decide

/-- At the word `import` outside all brackets, the clause behind it is what the
scan finds. -/
theorem scan_declaration {clause : Clause} (total : Nat) (hdepth : state.depth = 0)
    (hlast : state.last ≠ .punctuation '.') (hends : EndsWord cs)
    (hclause : clause? cs = some (clause, rest)) :
    scan total state (importWord ++ cs) =
      { specifiers := clause.specifiers
        source := clause.source
        start := total - Text.byteLength (importWord ++ cs)
        stop := total - Text.byteLength rest } ::
        scan total { state with last := .punctuation ';' } rest := by
  have hstep := state.step_word isWord_importWord hends
  rw [State.stepWord, if_pos ⟨rfl, hdepth, hlast⟩, hclause] at hstep
  have hcons : importWord ++ cs = 'i' :: (['m', 'p', 'o', 'r', 't'] ++ cs) := rfl
  rw [hcons, scan, hstep]

/-!
# Where a declaration is found
-/

theorem State.stepWord_declaration {word : List Char} {clause : Clause}
    (h : (state.stepWord word rest).clause = some clause) :
    state.depth = 0 ∧ state.last ≠ .punctuation '.' ∧
      (state.stepWord word rest).state = { state with last := .punctuation ';' } := by
  unfold stepWord at h ⊢
  split at h
  · rename_i himport
    rw [if_pos himport]
    cases hread : clause? rest with
    | none =>
        rw [hread] at h
        cases h
    | some found =>
        exact ⟨himport.right.left, himport.right.right, rfl⟩
  · cases h

/-- A step finds a declaration only at the word `import` outside all brackets. -/
theorem State.step_declaration {clause : Clause}
    (h : (state.step c cs).clause = some clause) :
    state.depth = 0 ∧ state.last ≠ .punctuation '.' ∧
      (state.step c cs).state = { state with last := .punctuation ';' } ∧
      exists behind : List Char,
        c :: cs = importWord ++ (behind ++ (state.step c cs).rest) ∧
        EndsWord (behind ++ (state.step c cs).rest) ∧
        clause? (behind ++ (state.step c cs).rest) =
          some (clause, (state.step c cs).rest) := by
  have hstep : state.step c cs =
      state.stepWord (c :: cs.takeWhile isWordPart) (cs.dropWhile isWordPart) := by
    have htoken := step_eq_stepToken h
    rw [htoken] at h ⊢
    exact stepToken_eq_stepWord h
  rw [hstep] at h ⊢
  rcases stepWord_declaration h with ⟨hdepth, hlast, hstate⟩
  rcases stepWord_clause h with ⟨hword, hclause⟩
  rcases clause?_suffix hclause with ⟨behind, hbehind⟩
  refine ⟨hdepth, hlast, hstate, behind, ?_, ?_, ?_⟩
  · rw [hbehind, ← hword, List.cons_append, List.takeWhile_append_dropWhile]
  · rw [hbehind]
    exact endsWord_dropWhile cs
  · rw [hbehind]
    exact hclause

end

end Import
end RemoteImports
