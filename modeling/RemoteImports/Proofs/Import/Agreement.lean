import RemoteImports.Proofs.Import.Runs
import RemoteImports.Proofs.Script.Locality

/-!
# Steps that do not see the difference

Two states agree if they are equally deep in brackets and the last tokens allow
the same to follow.  From states that agree, a step that ends before texts that
begin alike does the same in both; only the clause behind a word `import` may
tell the texts apart.
-/

namespace RemoteImports
namespace Import

open Script

structure State.Agrees (state state' : State) : Prop where
  depth : state.depth = state'.depth
  allowsRegex : state.last.allowsRegex = state'.last.allowsRegex
  property : state.last = .punctuation '.' <-> state'.last = .punctuation '.'

def State.BehindWord (state : State) : Prop :=
  state.depth = 0 ∧ exists beforeOperand : Bool, state.last = .word beforeOperand

theorem State.Agrees.rfl {state : State} : state.Agrees state :=
  ⟨Eq.refl _, Eq.refl _, Iff.rfl⟩

structure Step.Agrees (step step' : Step) (rest rest' : List Char) : Prop where
  clause : step.clause = none
  clause' : step'.clause = none
  rest : step.rest = rest
  rest' : step'.rest = rest'
  state : step.state.Agrees step'.state

section

variable {state state' : State} {last : Last} {c : Char} {text rest rest' : List Char}

theorem State.Agrees.pass {skipped skipped' : List Char} (h : state.Agrees state')
    (last : Last) (hskipped : skipped = rest) (hskipped' : skipped' = rest') :
    (state.pass last skipped).Agrees (state'.pass last skipped') rest rest' :=
  ⟨Eq.refl _, Eq.refl _, hskipped, hskipped', ⟨h.depth, Eq.refl _, Iff.rfl⟩⟩

theorem State.Agrees.passBlank {skipped skipped' : List Char} (h : state.Agrees state')
    (hskipped : skipped = rest) (hskipped' : skipped' = rest') :
    (state.pass state.last skipped).Agrees (state'.pass state'.last skipped')
      rest rest' :=
  ⟨Eq.refl _, Eq.refl _, hskipped, hskipped', h⟩

theorem State.Agrees.stepWord {word : List Char} (h : state.Agrees state')
    (hnone : (state.stepWord word rest).clause = none)
    (hclause : state.depth = 0 -> clause? rest = none -> clause? rest' = none) :
    (state.stepWord word rest).Agrees (state'.stepWord word rest') rest rest' := by
  unfold State.stepWord at hnone ⊢
  by_cases himport : word = ['i', 'm', 'p', 'o', 'r', 't'] ∧ state.depth = 0 ∧
      state.last ≠ .punctuation '.'
  · have himport' : word = ['i', 'm', 'p', 'o', 'r', 't'] ∧ state'.depth = 0 ∧
        state'.last ≠ .punctuation '.' :=
      ⟨himport.left, h.depth ▸ himport.right.left,
        mt h.property.mpr himport.right.right⟩
    rw [if_pos himport] at hnone ⊢
    rw [if_pos himport']
    cases hread : clause? rest with
    | none =>
        rw [hclause himport.right.left hread]
        exact h.pass _ (Eq.refl _) (Eq.refl _)
    | some found =>
        rw [hread] at hnone
        cases hnone
  · have himport' : ¬ (word = ['i', 'm', 'p', 'o', 'r', 't'] ∧ state'.depth = 0 ∧
        state'.last ≠ .punctuation '.') := by
      rintro ⟨hword, hdepth, hlast⟩
      exact himport ⟨hword, h.depth.trans hdepth, mt h.property.mp hlast⟩
    rw [if_neg himport, if_neg himport']
    exact h.pass _ (Eq.refl _) (Eq.refl _)

theorem State.Agrees.stepWord_append (h : state.Agrees state')
    (halike : Alike rest rest')
    (hnone : (state.stepWord (c :: (text ++ rest).takeWhile isWordPart)
      ((text ++ rest).dropWhile isWordPart)).clause = none)
    (hrest : (state.stepWord (c :: (text ++ rest).takeWhile isWordPart)
      ((text ++ rest).dropWhile isWordPart)).rest = rest)
    (hclause : (state.stepWord (c :: (text ++ rest).takeWhile isWordPart)
        ((text ++ rest).dropWhile isWordPart)).state.BehindWord ->
      clause? rest = none -> clause? rest' = none) :
    (state.stepWord (c :: (text ++ rest).takeWhile isWordPart)
        ((text ++ rest).dropWhile isWordPart)).Agrees
      (state'.stepWord (c :: (text ++ rest').takeWhile isWordPart)
        ((text ++ rest').dropWhile isWordPart)) rest rest' := by
  rw [State.stepWord_eq_pass hnone] at hrest hclause
  have hdrop : (text ++ rest).dropWhile isWordPart = rest := hrest
  have hends : EndsWord rest := hdrop ▸ endsWord_dropWhile (text ++ rest)
  have hpart := forall_of_dropWhile_append hdrop
  rw [takeWhile_append_of_endsWord hpart hends, hdrop] at hnone ⊢
  rw [takeWhile_append_of_endsWord hpart (halike.endsWord hends),
    dropWhile_append_of_endsWord hpart (halike.endsWord hends)]
  exact h.stepWord hnone fun hdepth => hclause ⟨hdepth, _, Eq.refl _⟩

theorem State.Agrees.stepToken (h : state.Agrees state') (halike : Alike rest rest')
    (hnone : (state.stepToken c (text ++ rest)).clause = none)
    (hrest : (state.stepToken c (text ++ rest)).rest = rest)
    (hclause : (state.stepToken c (text ++ rest)).state.BehindWord ->
      clause? rest = none -> clause? rest' = none) :
    (state.stepToken c (text ++ rest)).Agrees (state'.stepToken c (text ++ rest'))
      rest rest' := by
  unfold State.stepToken at hnone hrest hclause ⊢
  by_cases hquote : isQuote c = true
  · rw [if_pos hquote] at hrest ⊢
    rw [if_pos hquote]
    exact h.pass _ hrest (skipString_alike hquote halike hrest)
  rw [if_neg hquote] at hnone hrest hclause ⊢
  rw [if_neg hquote]
  by_cases htemplate : c = '`'
  · rw [if_pos htemplate] at hrest ⊢
    rw [if_pos htemplate]
    exact h.pass _ hrest (skipTemplate_alike halike hrest)
  rw [if_neg htemplate] at hnone hrest hclause ⊢
  rw [if_neg htemplate]
  by_cases hslash : c = '/'
  · rw [if_pos hslash] at hrest ⊢
    rw [if_pos hslash, ← h.allowsRegex]
    by_cases hregex : state.last.allowsRegex = true
    · rw [if_pos hregex] at hrest ⊢
      rw [if_pos hregex]
      exact h.pass _ hrest (skipRegex_alike halike hrest)
    · rw [if_neg hregex] at hrest ⊢
      rw [if_neg hregex]
      exact h.pass _ hrest (append_eq_self hrest)
  rw [if_neg hslash] at hnone hrest hclause ⊢
  rw [if_neg hslash]
  by_cases hopen : c = '{' ∨ c = '(' ∨ c = '['
  · rw [if_pos hopen] at hrest ⊢
    rw [if_pos hopen]
    have hdepth : State.Agrees { state with depth := state.depth + 1 }
        { state' with depth := state'.depth + 1 } :=
      ⟨congrArg (· + 1) h.depth, h.allowsRegex, h.property⟩
    exact hdepth.pass _ hrest (append_eq_self hrest)
  rw [if_neg hopen] at hnone hrest hclause ⊢
  rw [if_neg hopen]
  by_cases hclose : c = '}' ∨ c = ')' ∨ c = ']'
  · rw [if_pos hclose] at hrest ⊢
    rw [if_pos hclose]
    have hdepth : State.Agrees { state with depth := state.depth - 1 }
        { state' with depth := state'.depth - 1 } :=
      ⟨congrArg (· - 1) h.depth, h.allowsRegex, h.property⟩
    exact hdepth.pass _ hrest (append_eq_self hrest)
  rw [if_neg hclose] at hnone hrest hclause ⊢
  rw [if_neg hclose]
  by_cases hdigit : c.isDigit = true
  · rw [if_pos hdigit] at hrest ⊢
    rw [if_pos hdigit]
    refine h.pass _ hrest (dropWhile_alike ?_ halike hrest)
    intro c d hc hd
    rw [isWordPart_of_isAlpha hc, isWordPart_of_isAlpha hd]
    rfl
  rw [if_neg hdigit] at hnone hrest hclause ⊢
  rw [if_neg hdigit]
  by_cases hstart : isWordStart c = true
  · rw [if_pos hstart] at hnone hrest hclause ⊢
    rw [if_pos hstart]
    exact h.stepWord_append halike hnone hrest hclause
  rw [if_neg hstart] at hrest ⊢
  rw [if_neg hstart]
  exact h.pass _ hrest (append_eq_self hrest)

theorem State.Agrees.step (h : state.Agrees state') (halike : Alike rest rest')
    (hnone : (state.step c (text ++ rest)).clause = none)
    (hrest : (state.step c (text ++ rest)).rest = rest)
    (hclause : (state.step c (text ++ rest)).state.BehindWord ->
      clause? rest = none -> clause? rest' = none) :
    (state.step c (text ++ rest)).Agrees (state'.step c (text ++ rest')) rest rest' := by
  have hbehind := halike.append text
  unfold State.step at hnone hrest hclause ⊢
  by_cases hblank : isBlank c = true
  · rw [if_pos hblank] at hrest ⊢
    rw [if_pos hblank]
    exact h.passBlank hrest (append_eq_self hrest)
  rw [if_neg hblank] at hnone hrest hclause ⊢
  rw [if_neg hblank]
  by_cases hline : c = '/' ∧ (text ++ rest).head? = some '/'
  · rw [if_pos hline] at hrest ⊢
    rw [hbehind.head?_eq_some_iff (by decide)] at hline
    rw [if_pos hline]
    exact h.passBlank hrest (skipLine_alike halike hrest)
  rw [if_neg hline] at hnone hrest hclause ⊢
  rw [hbehind.head?_eq_some_iff (by decide)] at hline
  rw [if_neg hline]
  by_cases hblock : c = '/' ∧ (text ++ rest).head? = some '*'
  · rw [if_pos hblock] at hrest ⊢
    rw [hbehind.head?_eq_some_iff (by decide)] at hblock
    rw [if_pos hblock]
    exact h.passBlank hrest (skipBlock_drop_alike halike hrest)
  rw [if_neg hblock] at hnone hrest hclause ⊢
  rw [hbehind.head?_eq_some_iff (by decide)] at hblock
  rw [if_neg hblock]
  exact h.stepToken halike hnone hrest hclause

/-!
# From one state

Two steps from the same state come to the same state.
-/

theorem State.step_of_isWordStart (state : State) (h : isWordStart c = true)
    (cs : List Char) :
    state.step c cs =
      state.stepWord (c :: cs.takeWhile isWordPart) (cs.dropWhile isWordPart) := by
  have hword : IsWord (c :: cs.takeWhile isWordPart) :=
    ⟨h, List.all_eq_true.mp List.all_takeWhile⟩
  have hstep := state.step_word hword (endsWord_dropWhile cs)
  rwa [List.takeWhile_append_dropWhile] at hstep

/-- What follows makes no difference but at a word. -/
theorem State.stepToken_state (state : State) (hstart : ¬ isWordStart c = true)
    (cs cs' : List Char) :
    (state.stepToken c cs).state = (state.stepToken c cs').state := by
  unfold State.stepToken
  by_cases hquote : isQuote c = true
  · rw [if_pos hquote, if_pos hquote]
    rfl
  rw [if_neg hquote, if_neg hquote]
  by_cases htemplate : c = '`'
  · rw [if_pos htemplate, if_pos htemplate]
    rfl
  rw [if_neg htemplate, if_neg htemplate]
  by_cases hslash : c = '/'
  · rw [if_pos hslash, if_pos hslash]
    by_cases hregex : state.last.allowsRegex = true
    · rw [if_pos hregex, if_pos hregex]
      rfl
    · rw [if_neg hregex, if_neg hregex]
      rfl
  rw [if_neg hslash, if_neg hslash]
  by_cases hopen : c = '{' ∨ c = '(' ∨ c = '['
  · rw [if_pos hopen, if_pos hopen]
    rfl
  rw [if_neg hopen, if_neg hopen]
  by_cases hclose : c = '}' ∨ c = ')' ∨ c = ']'
  · rw [if_pos hclose, if_pos hclose]
    rfl
  rw [if_neg hclose, if_neg hclose]
  by_cases hdigit : c.isDigit = true
  · rw [if_pos hdigit, if_pos hdigit]
    rfl
  · rw [if_neg hdigit, if_neg hdigit, if_neg hstart, if_neg hstart]
    rfl

theorem State.step_state (state : State) {cs cs' : List Char}
    (hstart : ¬ isWordStart c = true)
    (hslash : cs.head? = some '/' <-> cs'.head? = some '/')
    (hstar : cs.head? = some '*' <-> cs'.head? = some '*') :
    (state.step c cs).state = (state.step c cs').state := by
  unfold State.step
  by_cases hblank : isBlank c = true
  · rw [if_pos hblank, if_pos hblank]
    rfl
  rw [if_neg hblank, if_neg hblank]
  by_cases hline : c = '/' ∧ cs.head? = some '/'
  · rw [if_pos hline, if_pos (hline.imp_right hslash.mp)]
    rfl
  rw [if_neg hline, if_neg (mt (And.imp_right hslash.mpr) hline)]
  by_cases hblock : c = '/' ∧ cs.head? = some '*'
  · rw [if_pos hblock, if_pos (hblock.imp_right hstar.mp)]
    rfl
  · rw [if_neg hblock, if_neg (mt (And.imp_right hstar.mpr) hblock)]
    exact state.stepToken_state hstart _ _

theorem State.step_state_alike (halike : Alike rest rest')
    (hnone : (state.step c (text ++ rest)).clause = none)
    (hnone' : (state.step c (text ++ rest')).clause = none)
    (hrest : (state.step c (text ++ rest)).rest = rest) :
    (state.step c (text ++ rest)).state = (state.step c (text ++ rest')).state := by
  by_cases hstart : isWordStart c = true
  · rw [state.step_of_isWordStart hstart] at hnone hrest hnone' ⊢
    rw [state.step_of_isWordStart hstart]
    rw [State.stepWord_eq_pass hnone] at hrest ⊢
    rw [State.stepWord_eq_pass hnone']
    have hdrop : (text ++ rest).dropWhile isWordPart = rest := hrest
    have hends : EndsWord rest := hdrop ▸ endsWord_dropWhile (text ++ rest)
    have hpart := forall_of_dropWhile_append hdrop
    rw [takeWhile_append_of_endsWord hpart hends,
      takeWhile_append_of_endsWord hpart (halike.endsWord hends)]
    rfl
  · exact state.step_state hstart ((halike.append text).head?_eq_some_iff (by decide))
      ((halike.append text).head?_eq_some_iff (by decide))

end

end Import
end RemoteImports
