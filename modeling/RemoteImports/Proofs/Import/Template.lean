import RemoteImports.Proofs.Import.Agreement
import RemoteImports.Proofs.Import.Derivation
import RemoteImports.Proofs.Script.Substitution

/-!
# Code in templates

The code of a substitution is passed over without being scanned.  It ends where
the scan of it would come to the closing brace, provided that the regular
expressions in it look like other code: regular expressions are passed over as
such only outside templates.
-/

namespace RemoteImports
namespace Import

open Script

def brackets : List (Char × Char) := [('{', '}'), ('(', ')'), ('[', ']')]

def isBracket (c : Char) : Bool :=
  brackets.any fun bracket => c == bracket.fst || c == bracket.snd

def State.Ends (state : State) (c : Char) (cs : List Char) : Prop :=
  forall rest : List Char,
    (state.step c (cs ++ '}' :: rest)).rest = (state.step c cs).rest ++ '}' :: rest

/-- From the state the scan goes to the end of the text, every part that it meets
ends in the text, and the brackets that it meets close the open ones by kind:
these first, from the innermost.  Behind the slash of each regular expression
stands a text that is `regular`. -/
inductive Nested (regular : List Char -> Prop) :
    State -> List Char -> List Char -> Prop where
  | nil (state : State) : Nested regular state [] []
  | opening {state : State} {c close : Char} {closing cs : List Char} :
      (c, close) ∈ brackets ->
      Nested regular (state.step c cs).state (close :: closing) (state.step c cs).rest ->
      Nested regular state closing (c :: cs)
  | closing {state : State} {c close : Char} {closing cs : List Char} :
      (c, close) ∈ brackets ->
      Nested regular (state.step close cs).state closing (state.step close cs).rest ->
      Nested regular state (close :: closing) (close :: cs)
  | token {state : State} {c : Char} {closing cs : List Char} :
      isBracket c = false ->
      (c ∈ partMarks -> state.Ends c cs) ->
      (c = '/' -> cs.head? ≠ some '/' -> cs.head? ≠ some '*' ->
        state.last.allowsRegex = true -> regular cs) ->
      Nested regular (state.step c cs).state closing (state.step c cs).rest ->
      Nested regular state closing (c :: cs)

def Unmarked (cs : List Char) : Prop :=
  exists inside : List Char,
    cs = inside ++ skipRegex false cs ∧ Bland (skipRegex false cs) 0 ('/' :: inside)

section

variable {state : State} {outer : List Open} {behindWord : Bool}
  {tokens : List Token} {n depth depth' : Nat} {c : Char}
  {closing cs rest tail ending : List Char} {clause : Clause}

/-!
# Declarations in code
-/

theorem Spaced.skipOpen (h : Spaced Literal behindWord tokens cs tail)
    (hguarded : Guarded depth tokens depth') :
    Script.skipOpen (.code (depth + n + 1) :: outer) cs =
      Script.skipOpen (.code (depth' + n + 1) :: outer) tail := by
  induction h generalizing depth with
  | nil behindWord tail =>
      cases hguarded
      rfl
  | cons hgap _ hwritten _ ih =>
      rw [hgap.skipOpen]
      cases hguarded with
      | word _ _ hguarded =>
          cases hwritten with
          | word hword =>
              rw [skipOpen_append_plain fun c hc =>
                not_mem_codeMarks_of_isWordPart (hword.part c hc)]
              exact ih hguarded
      | literal _ hguarded =>
          cases hwritten with
          | literal hliteral =>
              cases hliteral with
              | intro hquote hquoted =>
                  rw [List.cons_append, skipOpen_quote hquote, hquoted.skipString hquote]
                  exact ih hguarded
      | opening hguarded =>
          have hcount : depth + n + 1 + 1 = depth + 1 + n + 1 := by
            omega
          cases hwritten
          rw [List.singleton_append, skipOpen_opening, hcount]
          exact ih hguarded
      | @closing depth _ _ hguarded =>
          have hcount : depth + 1 + n + 1 = depth + n + 2 := by
            omega
          cases hwritten
          rw [List.singleton_append, hcount, skipOpen_closing]
          exact ih hguarded
      | mark hmark hguarded =>
          have hplain : forall c : Char, c ∈ ['*', ','] -> c ∉ codeMarks := by
            intro c hc
            simp only [List.mem_cons, List.not_mem_nil, or_false] at hc
            rcases hc with rfl | rfl <;> decide
          cases hwritten
          rw [List.singleton_append, skipOpen_plain (hplain _ hmark)]
          exact ih hguarded

theorem Ending.skipOpen (h : Ending ending) (cs : List Char) :
    Script.skipOpen (.code n :: outer) (ending ++ cs) =
      Script.skipOpen (.code n :: outer) cs := by
  apply skipOpen_append_plain
  intro c hmem
  cases h with
  | bare =>
      cases hmem
  | semicolon hspace =>
      rcases List.mem_append.mp hmem with hin | hin
      · rcases hspace c hin with rfl | rfl <;> decide
      · rw [List.mem_singleton.mp hin]
        decide

/-- What a declaration takes up is passed over in code as well. -/
theorem skipOpen_declaration {behind : List Char} (hends : EndsWord (behind ++ rest))
    (hclause : clause? (behind ++ rest) = some (clause, rest)) (tail : List Char) :
    Script.skipOpen (.code (n + 1) :: outer) (importWord ++ (behind ++ tail)) =
      Script.skipOpen (.code (n + 1) :: outer) tail := by
  rcases exists_form_of_clause? hends hclause with
    ⟨form, body, ending, _, rfl, hbody, hending, _⟩
  have hword : forall c, c ∈ importWord -> c ∉ codeMarks :=
    fun c hmem => not_mem_codeMarks_of_isWordPart (isWord_importWord.part c hmem)
  have hspaced := @Spaced.skipOpen outer _ _ n _ _ _ _ (hbody.append (ending ++ tail))
    form.guarded
  rw [Nat.zero_add] at hspaced
  rw [List.append_assoc, skipOpen_append_plain hword, hspaced, hending.skipOpen]

/-!
# Steps in code
-/

theorem State.step_unmarked (state : State) (hplain : c ∉ codeMarks)
    (hbracket : isBracket c = false) (cs : List Char) :
    state.step c cs =
      if isBlank c then state.pass state.last cs
      else if c.isDigit then
        state.pass .value (cs.dropWhile fun d => isWordPart d || d == '.')
      else if isWordStart c then
        state.stepWord (c :: cs.takeWhile isWordPart) (cs.dropWhile isWordPart)
      else state.pass (.punctuation c) cs := by
  simp only [codeMarks, partMarks, List.mem_cons, List.not_mem_nil, or_false, not_or]
    at hplain
  rcases hplain with ⟨_, _, hdouble, hsingle, htemplate, hslash⟩
  have hquote : ¬ isQuote c = true := by
    rw [isQuote, Bool.or_eq_true, beq_iff_eq, beq_iff_eq]
    exact not_or.mpr ⟨hdouble, hsingle⟩
  have hopen : ¬ (c = '{' ∨ c = '(' ∨ c = '[') := by
    rintro (rfl | rfl | rfl) <;> exact absurd hbracket (by decide)
  have hclose : ¬ (c = '}' ∨ c = ')' ∨ c = ']') := by
    rintro (rfl | rfl | rfl) <;> exact absurd hbracket (by decide)
  have hcomment : forall next : Char, ¬ (c = '/' ∧ cs.head? = some next) :=
    fun _ h => hslash h.left
  rw [State.step, if_neg (hcomment '/'), if_neg (hcomment '*'), State.stepToken,
    if_neg hquote, if_neg htemplate, if_neg hslash, if_neg hopen, if_neg hclose]

theorem exists_passed_of_forall (h : cs = text ++ rest) (hc : c ∉ codeMarks)
    (htext : forall d, d ∈ text -> d ∉ codeMarks) :
    exists passed : List Char,
      c :: cs = passed ++ rest ∧
        forall (n : Nat) (outer : List Open) (tail : List Char),
          skipOpen (.code (n + 1) :: outer) (passed ++ tail) =
            skipOpen (.code (n + 1) :: outer) tail := by
  refine ⟨c :: text, congrArg (c :: ·) h, fun n outer tail => skipOpen_append_plain ?_ tail⟩
  intro d hmem
  cases hmem with
  | head =>
      exact hc
  | tail _ hlater =>
      exact htext d hlater

theorem State.exists_passed (state : State) (hplain : c ∉ codeMarks)
    (hbracket : isBracket c = false) (cs : List Char) :
    exists passed : List Char,
      c :: cs = passed ++ (state.step c cs).rest ∧
        forall (n : Nat) (outer : List Open) (tail : List Char),
          skipOpen (.code (n + 1) :: outer) (passed ++ tail) =
            skipOpen (.code (n + 1) :: outer) tail := by
  have hnumber : forall d : Char, (isWordPart d || d == '.') = true -> d ∉ codeMarks := by
    intro d hd
    rw [Bool.or_eq_true, beq_iff_eq] at hd
    rcases hd with hpart | rfl
    · exact not_mem_codeMarks_of_isWordPart hpart
    · decide
  cases hclause : (state.step c cs).clause with
  | some clause =>
      rcases state.step_declaration hclause with ⟨_, _, _, behind, himport, hends, hread⟩
      refine ⟨importWord ++ behind, himport.trans (List.append_assoc _ _ _).symm, ?_⟩
      intro n outer tail
      rw [List.append_assoc]
      exact skipOpen_declaration hends hread tail
  | none =>
      rw [state.step_unmarked hplain hbracket] at hclause ⊢
      by_cases hblank : isBlank c = true
      · rw [if_pos hblank]
        exact exists_passed_of_forall (List.nil_append cs).symm hplain nofun
      rw [if_neg hblank] at hclause ⊢
      by_cases hdigit : c.isDigit = true
      · rw [if_pos hdigit]
        refine exists_passed_of_forall List.takeWhile_append_dropWhile.symm hplain ?_
        exact fun d hmem => hnumber d (List.all_eq_true.mp List.all_takeWhile d hmem)
      rw [if_neg hdigit] at hclause ⊢
      by_cases hstart : isWordStart c = true
      · rw [if_pos hstart] at hclause ⊢
        rw [State.stepWord_eq_pass hclause]
        refine exists_passed_of_forall List.takeWhile_append_dropWhile.symm hplain ?_
        exact fun d hmem => not_mem_codeMarks_of_isWordPart
          (List.all_eq_true.mp List.all_takeWhile d hmem)
      · rw [if_neg hstart]
        exact exists_passed_of_forall (List.nil_append cs).symm hplain nofun

theorem skipOpen_slash_step (hends : state.Ends '/' cs)
    (hregular : cs.head? ≠ some '/' -> cs.head? ≠ some '*' ->
      state.last.allowsRegex = true -> Unmarked cs) (tail : List Char) :
    skipOpen (.code (n + 1) :: outer) ('/' :: (cs ++ '}' :: tail)) =
      skipOpen (.code (n + 1) :: outer) ((state.step '/' cs).rest ++ '}' :: tail) := by
  rw [← hends tail]
  by_cases hline : cs.head? = some '/'
  · rcases List.head?_eq_some_iff.mp hline with ⟨inside, rfl⟩
    rw [List.cons_append, skipOpen_line, state.step_line]
    rfl
  by_cases hblock : cs.head? = some '*'
  · rcases List.head?_eq_some_iff.mp hblock with ⟨inside, rfl⟩
    rw [List.cons_append, skipOpen_block, state.step_block]
    rfl
  have hline' := head?_append_brace_ne hline (by decide) tail
  have hblock' := head?_append_brace_ne hblock (by decide) tail
  rw [hends tail, state.step_slash hline hblock]
  by_cases hallows : state.last.allowsRegex = true
  · rw [if_pos hallows]
    rcases hregular hline hblock hallows with ⟨inside, hcs, hbland⟩
    have hskip := @Bland.skipOpen outer _ _ _ hbland n tail
    rw [Nat.zero_add, List.cons_append, ← List.append_assoc, ← hcs] at hskip
    exact hskip
  · rw [if_neg hallows]
    exact skipOpen_slash hline' hblock'

theorem skipOpen_token (hbracket : isBracket c = false)
    (hends : c ∈ partMarks -> state.Ends c cs)
    (hregular : c = '/' -> cs.head? ≠ some '/' -> cs.head? ≠ some '*' ->
      state.last.allowsRegex = true -> Unmarked cs) (tail : List Char) :
    skipOpen (.code (n + 1) :: outer) (c :: (cs ++ '}' :: tail)) =
      skipOpen (.code (n + 1) :: outer) ((state.step c cs).rest ++ '}' :: tail) := by
  by_cases hmark : c ∈ partMarks
  · have hend := hends hmark tail
    simp only [partMarks, List.mem_cons, List.not_mem_nil, or_false] at hmark
    rcases hmark with rfl | rfl | rfl | rfl
    · rw [← hend, skipOpen_quote rfl, state.step_quote rfl]
      rfl
    · rw [← hend, skipOpen_quote rfl, state.step_quote rfl]
      rfl
    · rw [← hend, skipOpen_template, state.step_template]
      rfl
    · exact skipOpen_slash_step (hends (by decide)) (hregular rfl) tail
  · have hplain : c ∉ codeMarks := by
      rw [codeMarks, List.mem_cons, List.mem_cons]
      rintro (rfl | rfl | h)
      · exact absurd hbracket (by decide)
      · exact absurd hbracket (by decide)
      · exact hmark h
    rcases state.exists_passed hplain hbracket cs with ⟨passed, hpassed, hskip⟩
    rw [← List.cons_append, hpassed, List.append_assoc]
    exact hskip n outer _

/-!
# Whole substitutions
-/

/-- In code, a nested text is passed over up to the brace that closes the
substitution. -/
theorem Nested.skipOpen (h : Nested Unmarked state closing cs) (outer : List Open)
    (tail : List Char) :
    Script.skipOpen (.code (closing.count '}' + 1) :: outer) (cs ++ '}' :: tail) =
      Script.skipOpen outer tail := by
  induction h with
  | nil =>
      exact skipOpen_end tail
  | opening hbracket _ ih =>
      simp only [brackets, List.mem_cons, List.not_mem_nil, or_false, Prod.mk.injEq]
        at hbracket
      rw [List.cons_append]
      rcases hbracket with ⟨rfl, rfl⟩ | ⟨rfl, rfl⟩ | ⟨rfl, rfl⟩
      · rw [List.count_cons_self] at ih
        exact (skipOpen_opening _).trans ih
      · rw [List.count_cons_of_ne (by decide)] at ih
        exact (skipOpen_plain (by decide) _).trans ih
      · rw [List.count_cons_of_ne (by decide)] at ih
        exact (skipOpen_plain (by decide) _).trans ih
  | closing hbracket _ ih =>
      simp only [brackets, List.mem_cons, List.not_mem_nil, or_false, Prod.mk.injEq]
        at hbracket
      rw [List.cons_append]
      rcases hbracket with ⟨rfl, rfl⟩ | ⟨rfl, rfl⟩ | ⟨rfl, rfl⟩
      · rw [List.count_cons_self]
        exact (skipOpen_closing _).trans ih
      · rw [List.count_cons_of_ne (by decide)]
        exact (skipOpen_plain (by decide) _).trans ih
      · rw [List.count_cons_of_ne (by decide)]
        exact (skipOpen_plain (by decide) _).trans ih
  | token hbracket hends hregular _ ih =>
      rw [List.cons_append, skipOpen_token hbracket hends hregular, ih]

/-- A template with one nested substitution ends at its backtick, and what is
found behind it is what is found behind any other value. -/
theorem skipTemplate_of_nested (h : Nested Unmarked .start [] text) (rest : List Char) :
    skipTemplate ('$' :: '{' :: (text ++ '}' :: '`' :: rest)) = rest ∧
      forall (total : Nat) (state : State),
        scan total state ('`' :: '$' :: '{' :: (text ++ '}' :: '`' :: rest)) =
          scan total { state with last := .value } rest := by
  have hskip : skipTemplate ('$' :: '{' :: (text ++ '}' :: '`' :: rest)) = rest := by
    have hcode := h.skipOpen [.text] ('`' :: rest)
    rw [skipTemplate, skipOpen_cons]
    refine hcode.trans ?_
    rw [skipOpen_cons]
    exact skipOpen.eq_1 rest
  refine ⟨hskip, fun total state => ?_⟩
  have hstep := state.step_template ('$' :: '{' :: (text ++ '}' :: '`' :: rest))
  rw [hskip] at hstep
  exact (Runs.of_pass hstep).scan total

theorem skipTemplate_of_nested_regex :
    Nested Unmarked .start [] ['[', '/', 'a', '/', ']'] ∧
    skipTemplate "$\x7b[/a/]\x7d`\nimport a from 'b'".toList = "\nimport a from 'b'".toList := by
  have hregular : Unmarked ['a', '/', ']'] := by
    refine ⟨['a', '/'], rfl, ?_⟩
    apply Bland.slash (by decide) (by decide)
    apply Bland.plain (by decide)
    exact Bland.slash (by decide) (by decide) Bland.nil
  have hnested : Nested Unmarked .start [] ['[', '/', 'a', '/', ']'] := by
    apply @Nested.opening _ _ '[' ']' _ _ (by decide)
    apply Nested.token rfl (fun _ _ => rfl) (fun _ _ _ _ => hregular)
    exact @Nested.closing _ _ '[' ']' _ _ (by decide) (Nested.nil _)
  exact ⟨hnested, (skipTemplate_of_nested hnested _).left⟩

/-- A regular expression with a quote in it is another thing as code. -/
theorem not_forall_skipTemplate_of_nested :
    ¬ forall text rest : List Char, Nested (fun _ => True) .start [] text ->
      skipTemplate ('$' :: '{' :: (text ++ '}' :: '`' :: rest)) = rest := by
  intro h
  have hnested : Nested (fun _ => True) .start [] ['/', '"', '/'] :=
    Nested.token rfl (fun _ _ => rfl) (fun _ _ _ _ => trivial) (Nested.nil _)
  exact absurd (h _ ['a'] hnested) (by decide +kernel)

end

end Import
end RemoteImports
