import RemoteImports.Proofs.Import.Opacity

/-!
# Texts of the same parts

Two texts are parallel if they are made of the same parts, one behind the other,
and differ in the blanks between them only.  What is read of a declaration in
one of them is read in the other: the same tokens stand there, and the same word
behind the module.

Where a part ends is looked at inside brackets, so that no part is a whole
declaration.
-/

namespace RemoteImports
namespace Import

open Script

def partEnd (last : Last) (c : Char) (cs : List Char) : List Char :=
  (State.step { depth := 1, last } c cs).rest

/-- The same parts stand in both texts.  A blank may be exchanged for another,
but a space or a tab before attributes for a space or a tab only. -/
inductive Parallel : List Char -> List Char -> Prop where
  | nil : Parallel [] []
  | blank {c c' : Char} {cs cs' : List Char} :
      isBlank c = true -> isBlank c' = true ->
      (isSpace c = isSpace c' ∨
        hasAttributes (cs.dropWhile isSpace) = false ∧
          hasAttributes (cs'.dropWhile isSpace) = false) ->
      Parallel cs cs' -> Parallel (c :: cs) (c' :: cs')
  | part {last : Last} {c : Char} {text cs cs' : List Char} :
      partEnd last c (text ++ cs) = cs -> partEnd last c (text ++ cs') = cs' ->
      Parallel cs cs' -> Parallel (c :: (text ++ cs)) (c :: (text ++ cs'))

section

variable {state : State} {last : Last} {c : Char}
  {text value cs cs' rest rest' tail : List Char}

/-!
# The end of a part
-/

theorem State.step_clause_of_depth (hdepth : state.depth ≠ 0) :
    (state.step c cs).clause = none := by
  cases hclause : (state.step c cs).clause with
  | none =>
      rfl
  | some clause =>
      exact absurd (state.step_declaration hclause).left hdepth

/-- A step that is no declaration leaves what it leaves inside brackets. -/
theorem State.step_rest (hclause : (state.step c cs).clause = none) :
    (state.step c cs).rest = partEnd state.last c cs := by
  have hnone : (State.step { depth := 1, last := state.last } c cs).clause = none :=
    State.step_clause_of_depth Nat.one_ne_zero
  unfold partEnd
  by_cases hstart : isWordStart c = true
  · rw [State.step_of_isWordStart _ hstart] at hclause hnone ⊢
    rw [State.step_of_isWordStart _ hstart, State.stepWord_eq_pass hclause,
      State.stepWord_eq_pass hnone]
    rfl
  · simp only [State.step, State.stepToken, if_neg hstart, State.pass, apply_ite Step.rest]

theorem State.not_behindWord (hdepth : state.depth = 1) :
    ¬ (state.step c cs).state.BehindWord := by
  rintro ⟨hzero, beforeOperand, hlast⟩
  have hnone : (state.step c cs).clause = none :=
    State.step_clause_of_depth (hdepth ▸ Nat.one_ne_zero)
  by_cases hstart : isWordStart c = true
  · rw [state.step_of_isWordStart hstart] at hnone hzero
    rw [State.stepWord_eq_pass hnone] at hzero
    exact absurd (hdepth.symm.trans hzero) Nat.one_ne_zero
  · revert hzero hlast
    simp only [State.step, State.stepToken, if_neg hstart, State.pass]
    repeat' split
    all_goals simp [hdepth]

theorem partEnd_alike (halike : Alike rest rest')
    (h : partEnd last c (text ++ rest) = rest) :
    partEnd last c (text ++ rest') = rest' := by
  have hstep := State.Agrees.rfl.step halike
    (State.step_clause_of_depth Nat.one_ne_zero) h
    fun hbehind => absurd hbehind (State.not_behindWord (Eq.refl 1))
  exact hstep.rest'

theorem eq_nil_of_partEnd_blank (hblank : isBlank c = true)
    (h : partEnd last c (text ++ rest) = rest) : text = [] := by
  rw [partEnd, State.step_blank _ hblank] at h
  exact List.append_left_eq_self.mp h

/-!
# Heads
-/

theorem Parallel.symm (h : Parallel cs cs') : Parallel cs' cs := by
  induction h with
  | nil =>
      exact Parallel.nil
  | blank hc hc' hspace _ ih =>
      exact Parallel.blank hc' hc (hspace.imp Eq.symm And.symm) ih
  | part hend hend' _ ih =>
      exact Parallel.part hend' hend ih

theorem Parallel.length_eq (h : Parallel cs cs') : cs.length = cs'.length := by
  induction h with
  | nil =>
      rfl
  | blank _ _ _ _ ih =>
      rw [List.length_cons, List.length_cons, ih]
  | part _ _ _ ih =>
      simp only [List.length_cons, List.length_append, ih]

theorem Parallel.head?_eq_some (h : Parallel cs cs') (hc : isBlank c = false)
    (hhead : cs.head? = some c) : cs'.head? = some c := by
  cases h with
  | nil =>
      cases hhead
  | blank hblank =>
      cases hhead
      rw [hblank] at hc
      cases hc
  | part =>
      exact hhead

theorem Parallel.append_head?_iff (h : Parallel cs cs') (hc : isBlank c = false)
    (text : List Char) :
    (text ++ cs).head? = some c <-> (text ++ cs').head? = some c := by
  cases text with
  | nil =>
      exact ⟨h.head?_eq_some hc, h.symm.head?_eq_some hc⟩
  | cons =>
      exact Iff.rfl

theorem Parallel.endsWord (h : Parallel cs cs') (hends : EndsWord cs) :
    EndsWord cs' := by
  intro c hc
  cases hblank : isBlank c with
  | true =>
      exact isWordPart_of_isBlank hblank
  | false =>
      exact hends c (h.symm.head?_eq_some hblank hc)

/-!
# Blanks and comments
-/

theorem Parallel.skipTrivia (h : Parallel cs cs') :
    Parallel (Script.skipTrivia cs) (Script.skipTrivia cs') := by
  induction h with
  | nil =>
      rw [skipTrivia_nil]
      exact Parallel.nil
  | blank hc hc' _ _ ih =>
      rw [skipTrivia_cons_of_isBlank hc, skipTrivia_cons_of_isBlank hc']
      exact ih
  | @part last c text cs cs' hend hend' hlater ih =>
      rcases step_trivia c (hlater.append_head?_iff (by decide) text)
          (hlater.append_head?_iff (by decide) text) with
        htrivia | ⟨hself, hself'⟩
      · rcases htrivia { depth := 1, last } with
          ⟨skipped, skipped', hpass, hpass', hskip, hskip'⟩
        rw [partEnd, hpass] at hend
        rw [partEnd, hpass'] at hend'
        rw [hskip, hskip', show skipped = cs from hend, show skipped' = cs' from hend']
        exact ih
      · rw [hself, hself']
        exact Parallel.part hend hend' hlater

/-!
# Tokens
-/

theorem Token.Written.partEnd_eq {token : Token} (h : token.Written Literal (c :: text))
    (hends : token.isWord = true -> EndsWord rest) (last : Last) :
    partEnd last c (text ++ rest) = rest := by
  cases h with
  | word hword =>
      have hnone : (State.step { depth := 1, last } c (text ++ rest)).clause = none :=
        State.step_clause_of_depth Nat.one_ne_zero
      rw [State.step_word _ hword (hends rfl)] at hnone
      rw [partEnd, State.step_word _ hword (hends rfl), State.stepWord_eq_pass hnone]
      rfl
  | mark hmark =>
      exact (State.step_mark _ hmark rest).left
  | literal hliteral =>
      cases hliteral with
      | intro hquote hquoted =>
          rw [partEnd, State.step_literal _ hquote hquoted]
          rfl

theorem Parallel.token {token : Token} (h : Parallel (text ++ rest) cs')
    (hwritten : token.Written Literal text)
    (hends : token.isWord = true -> EndsWord rest) :
    exists rest' : List Char, cs' = text ++ rest' ∧ Parallel rest rest' := by
  rcases hwritten.head? with ⟨c, later, rfl, hblank, _, _⟩
  rw [List.cons_append] at h
  generalize hcs : c :: (later ++ rest) = cs at h
  cases h with
  | nil =>
      cases hcs
  | blank hc =>
      cases hcs
      rw [hblank] at hc
      cases hc
  | @part last _ text cs cs' hend _ hbehind =>
      rcases List.cons_eq_cons.mp hcs with ⟨rfl, htext⟩
      rw [← htext, hwritten.partEnd_eq hends last] at hend
      subst hend
      rw [List.append_cancel_right htext]
      exact ⟨cs', rfl, hbehind⟩

theorem Parallel.spaced {behindWord leads : Bool} {tokens : List Token}
    (h : Parallel cs cs') (hled : Led leads tokens)
    (hspaced : Spaced Literal behindWord tokens cs tail) :
    exists tail' : List Char,
      Spaced Literal behindWord tokens cs' tail' ∧ Parallel tail tail' := by
  induction tokens generalizing leads behindWord cs cs' with
  | nil =>
      cases hspaced
      exact ⟨cs', Spaced.nil behindWord cs', h⟩
  | cons token tokens ih =>
      rcases spaced_cons_iff.mp hspaced with ⟨hends, hbegins⟩
      have hskip := h.skipTrivia
      generalize Script.skipTrivia cs = behind at hbegins hskip
      cases hbegins with
      | @intro _ _ _ rest _ hwritten hlater =>
          have hlater' : (token.isWord = true -> EndsWord rest) ∧
              exists leads : Bool, Led leads tokens := by
            cases token with
            | word =>
                exact ⟨fun _ => endsWord_of_spaced hled.left hlater, true, hled.right⟩
            | mark c =>
                exact ⟨nofun, c == '{' || c == ',', hled⟩
            | literal =>
                exact ⟨nofun, false, hled.right⟩
          rcases hlater' with ⟨hstops, _, hled'⟩
          rcases hskip.token hwritten hstops with ⟨rest', hbehind', hrest⟩
          rcases ih hrest hled' hlater with ⟨tail', hnew, htail⟩
          refine ⟨tail', spaced_cons_iff.mpr ⟨?_, ?_⟩, htail⟩
          · exact fun hwords => h.endsWord (hends hwords)
          · rw [hbehind']
            exact Begins.intro hwritten hnew

/-!
# Behind the module
-/

theorem hasAttributes_cons_of_isBlank (hblank : isBlank c = true) (cs : List Char) :
    hasAttributes (c :: cs) = false := by
  rw [hasAttributes, word?_cons_eq_none (isWordStart_eq_false_of_isBlank hblank)]

theorem Parallel.hasAttributes (h : Parallel cs cs')
    (hattributes : hasAttributes cs = true) : hasAttributes cs' = true := by
  rcases hasAttributes_iff.mp hattributes with ⟨word, tail, hword, hbegins⟩
  cases hbegins with
  | intro hwritten hlater =>
      have hled : Led true [.mark '{'] := trivial
      rcases h.token hwritten fun _ => endsWord_of_spaced (List.cons_ne_nil _ _) hlater with
        ⟨rest', rfl, hrest⟩
      rcases hrest.spaced hled hlater with ⟨tail', hlater', _⟩
      exact hasAttributes_iff.mpr ⟨word, tail', hword, Begins.intro hwritten hlater'⟩

theorem Parallel.hasAttributes_dropWhile (h : Parallel cs cs')
    (hattributes : Import.hasAttributes (cs.dropWhile isSpace) = true) :
    Import.hasAttributes (cs'.dropWhile isSpace) = true := by
  induction h with
  | nil =>
      exact hattributes
  | @blank c c' cs cs' hc hc' hspace _ ih =>
      by_cases hsame : isSpace c = true
      · rw [List.dropWhile_cons_of_pos hsame] at hattributes
        rcases hspace with heq | ⟨hnone, _⟩
        · rw [List.dropWhile_cons_of_pos (heq ▸ hsame)]
          exact ih hattributes
        · rw [hattributes] at hnone
          cases hnone
      · rw [List.dropWhile_cons_of_neg hsame, hasAttributes_cons_of_isBlank hc] at hattributes
        cases hattributes
  | @part last c text cs cs' hend hend' hlater ih =>
      by_cases hspace : isSpace c = true
      · cases eq_nil_of_partEnd_blank (isBlank_of_isSpace hspace) hend
        rw [List.nil_append, List.dropWhile_cons_of_pos hspace] at hattributes ⊢
        exact ih hattributes
      · rw [List.dropWhile_cons_of_neg hspace] at hattributes ⊢
        exact (Parallel.part hend hend' hlater).hasAttributes hattributes

theorem Parallel.finish?_eq_none (h : Parallel cs cs') (hfinish : finish? cs = none) :
    finish? cs' = none := by
  rw [finish?_eq_none_iff] at hfinish ⊢
  exact h.hasAttributes_dropWhile hfinish

theorem Parallel.clause?_eq_none (h : Parallel cs cs') (hclause : clause? cs = none) :
    clause? cs' = none := by
  rw [clause?_eq_none_iff_forall] at hclause ⊢
  intro form tail' hspaced
  rcases h.symm.spaced form.led hspaced with ⟨tail, hold, htail⟩
  exact htail.symm.finish?_eq_none (hclause form tail hold)

/-!
# A declaration in both texts

A semicolon that belongs to a declaration in one text may stand behind it in the
other, if a space is exchanged for a blank of another kind.  The scan finds the
same behind it.
-/

theorem scan_semicolon {space : List Char} (total : Nat) (state : State)
    (hspace : forall c, c ∈ space -> isBlank c = true) (rest : List Char) :
    scan total { state with last := .punctuation ';' } (space ++ ';' :: rest) =
      scan total { state with last := .punctuation ';' } rest := by
  have hblanks := Runs.of_trivia (Trivia.of_blanks hspace)
    { state with last := .punctuation ';' } (';' :: rest)
  have hsemicolon := Runs.of_pass
    (State.step_punctuation { state with last := .punctuation ';' } (c := ';')
      (by decide) rest)
  rw [(hblanks.trans hsemicolon).scan]

theorem scan_of_finish? (total : Nat) (state : State) (h : finish? cs = some rest) :
    scan total { state with last := .punctuation ';' } rest =
      scan total { state with last := .punctuation ';' } cs := by
  rcases finish?_eq_some_iff.mp h with ⟨space, hspace, rfl⟩ | ⟨rfl, _⟩
  · rw [scan_semicolon total state fun c hc => isBlank_of_isSpace (hspace c hc)]
  · rfl

theorem Parallel.semicolon {space : List Char}
    (hspace : forall c, c ∈ space -> isSpace c = true)
    (h : Parallel (space ++ ';' :: rest) cs') :
    exists space' rest' : List Char,
      (forall c, c ∈ space' -> isBlank c = true) ∧ cs' = space' ++ ';' :: rest' ∧
        Parallel rest rest' := by
  induction space generalizing cs' with
  | nil =>
      rw [List.nil_append] at h
      generalize hcs : ';' :: rest = cs at h
      cases h with
      | nil =>
          cases hcs
      | blank hc =>
          cases hcs
          cases hc
      | @part last c text cs cs' hend _ hlater =>
          rcases List.cons_eq_cons.mp hcs with ⟨rfl, rfl⟩
          have hstep := State.step_punctuation { depth := 1, last } (c := ';') (by decide)
            (text ++ cs)
          rw [partEnd, hstep] at hend
          cases List.append_left_eq_self.mp hend
          exact ⟨[], cs', nofun, rfl, hlater⟩
  | cons c space ih =>
      have hblank := isBlank_of_isSpace (hspace c List.mem_cons_self)
      have hlater : exists (c' : Char) (later' : List Char),
          isBlank c' = true ∧ cs' = c' :: later' ∧
            Parallel (space ++ ';' :: rest) later' := by
        rw [List.cons_append] at h
        generalize hcs : c :: (space ++ ';' :: rest) = cs at h
        cases h with
        | nil =>
            cases hcs
        | blank _ hc' _ hlater =>
            cases hcs
            exact ⟨_, _, hc', rfl, hlater⟩
        | part hend _ hlater =>
            rcases List.cons_eq_cons.mp hcs with ⟨rfl, htext⟩
            cases eq_nil_of_partEnd_blank hblank hend
            exact ⟨c, _, hblank, rfl, htext ▸ hlater⟩
      rcases hlater with ⟨c', later', hc', rfl, hlater⟩
      rcases ih (fun d hd => hspace d (List.mem_cons_of_mem c hd)) hlater with
        ⟨space', rest', hspace', rfl, hrest⟩
      exact ⟨c' :: space', rest', List.forall_mem_cons.mpr ⟨hc', hspace'⟩, rfl, hrest⟩

theorem Parallel.clause?_eq_some {clause : Clause} {behind behind' : List Char}
    (h : Parallel (behind ++ rest) (behind' ++ rest'))
    (hlength : rest.length = rest'.length)
    (hclause : clause? (behind ++ rest) = some (clause, rest)) :
    exists left : List Char,
      clause? (behind' ++ rest') = some (clause, left) ∧
        forall (total : Nat) (state : State),
          scan total { state with last := .punctuation ';' } left =
            scan total { state with last := .punctuation ';' } rest' := by
  rcases clause?_eq_some_iff.mp hclause with ⟨form, tail, hform, hbegins, hend⟩
  rcases h.spaced form.led (Form.spaced_iff.mpr hbegins) with ⟨tail', hspaced, htail⟩
  cases hend' : finish? tail' with
  | none =>
      rw [htail.symm.finish?_eq_none hend'] at hend
      cases hend
  | some left =>
      refine ⟨left, clause?_eq_some_iff.mpr
        ⟨form, tail', hform, Form.spaced_iff.mp hspaced, hend'⟩, ?_⟩
      intro total state
      rw [scan_of_finish? total state hend']
      rcases hspaced.exists_append with ⟨front, hfront, _⟩
      rcases finish?_eq_some_iff.mp hend with ⟨space, hspace, rfl⟩ | ⟨rfl, _⟩
      · rcases htail.semicolon hspace with ⟨space', later', hspace', rfl, hlater⟩
        have hsplit : behind' ++ rest' = (front ++ (space' ++ [';'])) ++ later' := by
          rw [hfront]
          simp only [List.append_assoc, List.singleton_append]
        rw [scan_semicolon total state hspace',
          (List.append_inj' hsplit (hlength.symm.trans hlater.length_eq)).right]
      · rw [(List.append_inj' hfront (hlength.symm.trans htail.length_eq)).right]

end

end Import
end RemoteImports
