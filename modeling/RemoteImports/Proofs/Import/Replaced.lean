import RemoteImports.Proofs.Import.Abreast
import RemoteImports.Proofs.Import.Agreement

/-!
# Scanning a script again

Other texts are put in place of some declarations of a script.  If the scan
passes over each such text and comes out as it comes out of a declaration, the
new script has just the declarations that were left.

The two scans go along together.  Whether a word `import` begins a declaration
depends on what follows, and what follows differs; but it is the same up to the
next declaration of the old script, and the declaration or the text in its
place is a barrier in both.
-/

namespace RemoteImports
namespace Import

open Script

/-- A text that can stand in place of a declaration: a letter is its first
character, no declaration goes on into it, and the scan passes over it from
outside all brackets to the same. -/
structure Passed (text : List Char) : Prop where
  letter : exists (c : Char) (behind : List Char),
    text = c :: behind ∧ c.isAlpha = true
  barred : forall rest : List Char, Barred (text ++ rest)
  runs : forall (state : State) (rest : List Char), state.depth = 0 ->
    exists last : Last, last.allowsRegex = true ∧ last ≠ .punctuation '.' ∧
      Runs state (text ++ rest) { state with last := last } rest

inductive Replaced (text? : Declaration -> Option (List Char)) :
    State -> List Char -> List Char -> List Declaration -> Prop where
  | nil (state : State) : Replaced text? state [] [] []
  | pass {state : State} {c : Char} {text rest rest' : List Char}
      {declarations : List Declaration} :
      (state.step c (text ++ rest)).clause = none ->
      (state.step c (text ++ rest)).rest = rest ->
      Replaced text? (state.step c (text ++ rest)).state rest rest' declarations ->
      Replaced text? state (c :: (text ++ rest)) (c :: (text ++ rest')) declarations
  | declaration {state : State} {behind rest rest' : List Char} {clause : Clause}
      {declaration : Declaration} {declarations : List Declaration} :
      state.depth = 0 -> state.last ≠ .punctuation '.' ->
      EndsWord (behind ++ rest) ->
      clause? (behind ++ rest) = some (clause, rest) ->
      declaration.specifiers = clause.specifiers ->
      declaration.source = clause.source ->
      Replaced text? { state with last := .punctuation ';' } rest rest' declarations ->
      Replaced text? state (importWord ++ (behind ++ rest))
        ((text? declaration).getD (importWord ++ behind) ++ rest')
        (declaration :: declarations)

/-- What a declaration says, wherever it stands. -/
def Declaration.content (declaration : Declaration) : List Specifier × String :=
  (declaration.specifiers, declaration.source)

section

variable {state state' next next' : State} {c : Char} {text cs cs' rest rest' : List Char}
  {clause : Clause}

/-!
# Declarations are barriers
-/

/-- A declaration is a barrier, even one of a name `from`. -/
theorem barred_declaration (hends : EndsWord cs)
    (hclause : clause? cs = some (clause, rest)) : Barred (importWord ++ cs) := by
  rcases clause?_eq_some_iff.mp hclause with ⟨form, tail, _, hbegins, _⟩
  have hread : word? (importWord ++ cs) = some (importWord, cs) :=
    word?_eq_some_iff.mpr ⟨rfl, isWord_importWord, hends⟩
  refine Barred.intro hread (by decide) ?_
  rcases form.first with
    ⟨token, tokens, htokens, hword, hcomma⟩ |
      ⟨name, token, tokens, htokens, hliteral⟩
  · rw [htokens] at hbegins
    refine ⟨hbegins.head?_ne_comma hcomma, ?_⟩
    intro behind hfrom
    rw [hbegins.after?_eq_none hword] at hfrom
    cases hfrom
  · rw [htokens] at hbegins
    refine ⟨hbegins.head?_ne_comma (by rintro ⟨⟩), ?_⟩
    intro behind hfrom
    rcases begins_word_iff.mp hbegins with ⟨later, hname, hlater⟩
    rw [after?_eq_some_iff, hname] at hfrom
    cases hfrom
    exact hlater.literal?_eq_none hliteral

/-!
# Going along
-/

theorem Abreast.of_step (h : Abreast next next' rest rest')
    (hstep : (state.step c (text ++ rest)).Agrees (state'.step c (text ++ rest'))
      rest rest')
    (hnext : (state.step c (text ++ rest)).state = next)
    (hnext' : (state'.step c (text ++ rest')).state = next') :
    Abreast state state' (c :: (text ++ rest)) (c :: (text ++ rest')) := by
  cases h with
  | @intro between final final' last last' halike hrun hfinal hrun' hfinal' =>
      have hfront : Runs state (c :: (text ++ (between ++ final))) last final := by
        apply Runs.step hstep.clause
        rw [hnext, hstep.rest]
        exact hrun
      have hfront' : Runs state' (c :: (text ++ (between ++ final'))) last' final' := by
        apply Runs.step hstep.clause'
        rw [hnext', hstep.rest']
        exact hrun'
      have hsplit : forall tail : List Char,
          c :: (text ++ (between ++ tail)) = c :: (text ++ between) ++ tail := by
        intro tail
        simp
      rw [hsplit] at hfront hfront' ⊢
      rw [hsplit]
      exact Abreast.intro halike hfront hfinal hfront' hfinal'

theorem Abreast.of_barred (halike : Alike cs cs') (hdepth : state.depth = 0)
    (hdepth' : state'.depth = 0) (hbarred : Barred cs) (hbarred' : Barred cs') :
    Abreast state state' cs cs' :=
  @Abreast.intro state state' [] cs cs' state state' halike (Runs.refl state cs)
    (Or.inr ⟨hdepth, hbarred⟩) (Runs.refl state' cs') (Or.inr ⟨hdepth', hbarred'⟩)

theorem Abreast.declaration {behind : List Char}
    (h : Abreast { state with last := .punctuation ';' }
      { state' with last := .punctuation ';' } rest rest')
    (hdepth : state.depth = 0) (hdepth' : state'.depth = 0)
    (hends : EndsWord (behind ++ rest))
    (hclause : clause? (behind ++ rest) = some (clause, rest)) :
    EndsWord (behind ++ rest') ∧ clause? (behind ++ rest') = some (clause, rest') ∧
      Abreast state state' (importWord ++ (behind ++ rest))
        (importWord ++ (behind ++ rest')) := by
  have hends' : EndsWord (behind ++ rest') := (h.alike.append behind).endsWord hends
  have hclause' : clause? (behind ++ rest') = some (clause, rest') :=
    h.clause?_append hdepth hdepth' hclause
  refine ⟨hends', hclause', ?_⟩
  exact Abreast.of_barred (Alike.same _ _ _) hdepth hdepth'
    (barred_declaration hends hclause) (barred_declaration hends' hclause')

theorem Passed.abreast (h : Passed text) (hdepth : state.depth = 0)
    (hdepth' : state'.depth = 0) (hends : EndsWord cs)
    (hclause : clause? cs = some (clause, rest)) :
    Abreast state state' (importWord ++ cs) (text ++ rest') := by
  rcases h.letter with ⟨c, later, hletter, hc⟩
  have halike : Alike (importWord ++ cs) (text ++ rest') := by
    rw [hletter]
    exact Alike.letter _ _ (by decide) hc
  exact Abreast.of_barred halike hdepth hdepth' (barred_declaration hends hclause)
    (h.barred rest')

variable {text? : Declaration -> Option (List Char)} {declarations : List Declaration}

/-- Scanned from states that agree, the new text is abreast of the old one, and
it has the declarations for which there was no text. -/
theorem Replaced.abreast (h : Replaced text? state cs cs' declarations)
    (hpassed : forall declaration, declaration ∈ declarations ->
      forall text, text? declaration = some text -> Passed text)
    (hagrees : state.Agrees state') :
    Abreast state state' cs cs' ∧
      forall total : Nat,
        (scan total state' cs').map Declaration.content =
          (declarations.filter fun declaration =>
            (text? declaration).isNone).map Declaration.content := by
  induction h generalizing state' with
  | nil state =>
      constructor
      · exact @Abreast.intro state state' [] [] [] state state' Alike.nil
          (Runs.refl state []) (Or.inl rfl) (Runs.refl state' []) (Or.inl rfl)
      · intro total
        rw [scan]
        rfl
  | @pass state c text rest rest' declarations hclause hrest _ ih =>
      -- that the texts behind the step are abreast is needed before it is known
      -- which state the other scan steps to
      have hbehind := (ih hpassed State.Agrees.rfl).left
      have hstep : (state.step c (text ++ rest)).Agrees (state'.step c (text ++ rest'))
          rest rest' := by
        apply hagrees.step hbehind.alike hclause hrest
        rintro ⟨hdepth, _⟩ hnone
        exact hbehind.clause?_eq_none hdepth hdepth hnone
      rcases ih hpassed hstep.state with ⟨habreast, hscan⟩
      constructor
      · exact habreast.of_step hstep rfl rfl
      · intro total
        rw [scan, hstep.clause', hstep.rest']
        exact hscan total
  | @declaration state behind rest rest' clause declaration declarations hdepth hlast
      hends hclause hspecifiers hsource _ ih =>
      have hlater : forall declaration, declaration ∈ declarations ->
          forall text, text? declaration = some text -> Passed text :=
        fun declaration hmem => hpassed declaration (List.mem_cons_of_mem _ hmem)
      have hdepth' : state'.depth = 0 := hagrees.depth ▸ hdepth
      have hlast' : state'.last ≠ .punctuation '.' := mt hagrees.property.mpr hlast
      have hsame : ({ state with last := .punctuation ';' } : State).Agrees
          { state' with last := .punctuation ';' } :=
        ⟨hagrees.depth, rfl, Iff.rfl⟩
      cases htext : text? declaration with
      | none =>
          rcases ih hlater hsame with ⟨hbehind, hscan⟩
          rcases hbehind.declaration hdepth hdepth' hends hclause with
            ⟨hends', hclause', habreast⟩
          rw [Option.getD_none, List.append_assoc]
          refine ⟨habreast, ?_⟩
          intro total
          rw [scan_declaration total hdepth' hlast' hends' hclause', List.map_cons,
            hscan, List.filter_cons_of_pos (by rw [htext]; rfl), List.map_cons]
          rw [Declaration.content, Declaration.content, hspecifiers, hsource]
      | some text =>
          have htextPassed := hpassed declaration List.mem_cons_self text htext
          rcases htextPassed.runs state' rest' hdepth' with
            ⟨last, hregex, hproperty, hrun⟩
          have hagain : ({ state with last := .punctuation ';' } : State).Agrees
              { state' with last := last } := by
            refine ⟨hagrees.depth, hregex.symm, ?_⟩
            exact iff_of_false (by rintro ⟨⟩) hproperty
          rcases ih hlater hagain with ⟨_, hscan⟩
          rw [Option.getD_some]
          refine ⟨htextPassed.abreast hdepth hdepth' hends hclause, ?_⟩
          intro total
          rw [hrun.scan, hscan, List.filter_cons_of_neg (by simp [htext])]

/-!
# The line of an interpreter
-/

theorem Abreast.exists_interpreter (h : Abreast state state' cs cs') {later : List Char}
    (hnew : cs' = '#' :: '!' :: later) :
    exists later : List Char, cs = '#' :: '!' :: later := by
  cases h with
  | @intro text rest rest' last last' _ _ _ _ hfinal' =>
      cases text with
      | nil =>
          have hstart := hfinal'.head? '#' (congrArg List.head? hnew)
          cases hstart
      | cons c text =>
          rcases List.cons_eq_cons.mp hnew with ⟨rfl, hbehind⟩
          cases text with
          | nil =>
              have hstart := hfinal'.head? '!' (congrArg List.head? hbehind)
              cases hstart
          | cons d text =>
              rcases List.cons_eq_cons.mp hbehind with ⟨rfl, _⟩
              exact ⟨text ++ rest, rfl⟩

theorem skipInterpreter_append {line : List Char} (halike : Alike (skipInterpreter cs) cs')
    (hagain : forall later : List Char, cs' = '#' :: '!' :: later ->
      exists later : List Char, skipInterpreter cs = '#' :: '!' :: later)
    (hline : line ++ skipInterpreter cs = cs) : skipInterpreter (line ++ cs') = cs' := by
  by_cases hfirst : exists later : List Char, cs = '#' :: '!' :: later
  · rcases hfirst with ⟨later, rfl⟩
    have hskip : skipInterpreter ('#' :: '!' :: later) = skipLine later := rfl
    rw [hskip] at halike hline
    rcases skipLine_suffix later with ⟨passed, hpassed⟩
    have hfront : line = '#' :: '!' :: passed := by
      apply @List.append_cancel_right _ _ (skipLine later)
      rw [hline, List.cons_append, List.cons_append, hpassed]
    have hend : skipLine (passed ++ skipLine later) = skipLine later := by
      rw [hpassed]
    rw [hfront]
    exact skipLine_alike halike hend
  · have hself : skipInterpreter cs = cs :=
      skipInterpreter_eq_self fun later hlater => hfirst ⟨later, hlater⟩
    rw [hself] at hagain hline
    rw [List.append_left_eq_self.mp hline, List.nil_append]
    apply skipInterpreter_eq_self
    intro later hnew
    exact hfirst (hagain later hnew)

theorem Abreast.skipInterpreter_append {line : List Char}
    (h : Abreast state state' (skipInterpreter cs) cs')
    (hline : line ++ skipInterpreter cs = cs) : skipInterpreter (line ++ cs') = cs' :=
  Import.skipInterpreter_append h.alike (fun _ => h.exists_interpreter) hline

end

end Import
end RemoteImports
