import RemoteImports.Proofs.Import.Reading
import RemoteImports.Proofs.Import.Runs

/-!
# Barriers

A declaration that is read from some place in a script does not go beyond the
next place where the scan found one, nor beyond a declaration of constants: a
word stands there that cannot be part of a declaration that began before it.

While it is read, a declaration goes along with the scan, since both take the
same tokens.  So it either ends before such a barrier or comes to stand before
it with tokens left, of which the first is a word.
-/

namespace RemoteImports
namespace Import

open Script

def keywords : List (List Char) :=
  [['a', 's'], ['f', 'r', 'o', 'm'], ['w', 'i', 't', 'h'], ['a', 's', 's', 'e', 'r', 't']]

structure Apart (rest : List Char) : Prop where
  comma : (skipTrivia rest).head? ≠ some ','
  source : forall behind : List Char,
    after? ['f', 'r', 'o', 'm'] (skipTrivia rest) = some behind ->
      literal? (skipTrivia behind) = none

/-- A word that is no keyword, and behind it nothing that could follow a name. -/
inductive Barred : List Char -> Prop where
  | intro {cs word rest : List Char} :
      word? cs = some (word, rest) -> word ∉ keywords -> Apart rest -> Barred cs

def Final (state : State) (cs : List Char) : Prop :=
  cs = [] ∨ state.depth = 0 ∧ Barred cs

def Follows (word : List Char) (later : List Token) : Prop :=
  word ∈ keywords ∨ (exists tokens, later = .mark ',' :: tokens) ∨
    exists source, later = fromTokens source

inductive Guarded : Nat -> List Token -> Nat -> Prop where
  | nil (depth : Nat) : Guarded depth [] depth
  | word {depth last : Nat} {word : List Char} {tokens : List Token} :
      tokens ≠ [] -> (depth = 0 -> Follows word tokens) -> Guarded depth tokens last ->
      Guarded depth (.word word :: tokens) last
  | literal {depth last : Nat} {tokens : List Token} (value : List Char) :
      Guarded depth tokens last -> Guarded depth (.literal value :: tokens) last
  | opening {depth last : Nat} {tokens : List Token} :
      Guarded (depth + 1) tokens last -> Guarded depth (.mark '{' :: tokens) last
  | closing {depth last : Nat} {tokens : List Token} :
      Guarded depth tokens last -> Guarded (depth + 1) (.mark '}' :: tokens) last
  | mark {depth last : Nat} {c : Char} {tokens : List Token} :
      c ∈ ['*', ','] -> Guarded depth tokens last ->
      Guarded depth (.mark c :: tokens) last

/-!
# Declarations are guarded
-/

theorem guarded_fromTokens (source : List Char) : Guarded 0 (fromTokens source) 0 := by
  refine Guarded.word (List.cons_ne_nil _ _) ?_ (Guarded.literal source (Guarded.nil 0))
  intro _
  exact Or.inl (by decide)

theorem Item.guarded {depth last : Nat} {tokens : List Token} (item : Item)
    (hne : tokens ≠ []) (h : Guarded (depth + 1) tokens last) :
    Guarded (depth + 1) (item.tokens ++ tokens) last := by
  have hword : forall (word : List Char) {tokens : List Token}, tokens ≠ [] ->
      Guarded (depth + 1) tokens last ->
      Guarded (depth + 1) (.word word :: tokens) last := by
    intro word tokens hne h
    refine Guarded.word hne ?_ h
    rintro ⟨⟩
  cases item with
  | plain name =>
      exact hword name hne h
  | renamed name binding =>
      exact hword name (List.cons_ne_nil _ _)
        (hword _ (List.cons_ne_nil _ _) (hword binding hne h))
  | quoted name binding =>
      exact Guarded.literal name (hword _ (List.cons_ne_nil _ _) (hword binding hne h))

theorem guarded_itemTokens {depth last : Nat} {tokens : List Token}
    (trailing : Bool) (items : List Item)
    (hne : tokens ≠ []) (h : Guarded (depth + 1) tokens last) :
    Guarded (depth + 1) (itemTokens trailing items ++ tokens) last := by
  induction items with
  | nil =>
      exact h
  | cons item items ih =>
      rw [itemTokens, List.append_assoc]
      split
      · exact item.guarded hne h
      · exact item.guarded (List.cons_ne_nil _ _) (Guarded.mark (by decide) ih)

theorem Group.guarded (group : Group) (source : List Char) :
    Guarded 0 (group.tokens ++ fromTokens source) 0 := by
  have hfrom := guarded_fromTokens source
  cases group with
  | whole binding =>
      refine Guarded.mark (by decide) ?_
      refine Guarded.word (List.cons_ne_nil _ _) (fun _ => Or.inl (by decide)) ?_
      refine Guarded.word (List.cons_ne_nil _ _) ?_ hfrom
      intro _
      exact Or.inr (Or.inr ⟨source, rfl⟩)
  | named items trailing =>
      rw [Group.tokens, List.cons_append, List.append_assoc]
      apply Guarded.opening
      exact guarded_itemTokens trailing items (List.cons_ne_nil _ _)
        (Guarded.closing hfrom)

theorem Form.guarded (form : Form) : Guarded 0 form.tokens 0 := by
  rcases form with ⟨default, group, source⟩
  cases default with
  | none =>
      cases group with
      | none =>
          exact Guarded.literal source (Guarded.nil 0)
      | some group =>
          exact group.guarded source
  | some name =>
      cases group with
      | none =>
          refine Guarded.word (List.cons_ne_nil _ _) ?_ (guarded_fromTokens source)
          intro _
          exact Or.inr (Or.inr ⟨source, rfl⟩)
      | some group =>
          refine Guarded.word (List.cons_ne_nil _ _) ?_
            (Guarded.mark (by decide) (group.guarded source))
          intro _
          exact Or.inr (Or.inl ⟨_, rfl⟩)

/-!
# Going along with the scan
-/

section

variable {state last : State} {c : Char} {cs rest tail : List Char}

theorem Final.head? (h : Final last rest) :
    forall c, rest.head? = some c -> isWordStart c = true := by
  intro c hc
  rcases h with hnil | ⟨_, hbarred⟩
  · rw [hnil] at hc
    cases hc
  · cases hbarred with
    | @intro word behind hread _ _ =>
        rcases word?_eq_some_iff.mp hread with ⟨hsplit, hword, _⟩
        rw [hsplit] at hc
        cases word with
        | nil =>
            exact hword.elim
        | cons d word =>
            cases hc
            exact hword.left

theorem Runs.past (h : Runs state (c :: cs) last rest) (hfinal : Final last rest)
    (hc : isWordStart c = false) :
    Runs (state.step c cs).state (state.step c cs).rest last rest := by
  cases h with
  | refl =>
      have hstart := hfinal.head? c rfl
      rw [hc] at hstart
      cases hstart
  | step _ hlater =>
      exact hlater

theorem Runs.past_trivia {gap : List Char} (hgap : Trivia gap)
    (h : Runs state (gap ++ cs) last rest) (hfinal : Final last rest) :
    Runs state cs last rest := by
  induction hgap with
  | nil =>
      exact h
  | blank hblank _ ih =>
      have hlater := h.past hfinal (isWordStart_eq_false_of_isBlank hblank)
      rw [state.step_blank hblank] at hlater
      exact ih hlater
  | @line body gap hbody _ ih =>
      have hstep := state.step_line (body ++ '\n' :: (gap ++ cs))
      rw [List.cons_append, List.cons_append, List.append_assoc, List.cons_append] at h
      have hline := h.past hfinal (by decide)
      rw [hstep, skipLine_append hbody] at hline
      have hlater := Runs.past hline hfinal (by decide)
      rw [State.step_blank _ (by decide)] at hlater
      exact ih hlater
  | @block body gap hbody _ ih =>
      have hstep := state.step_block (body ++ '*' :: '/' :: (gap ++ cs))
      rw [List.cons_append, List.cons_append, List.append_assoc, List.cons_append,
        List.cons_append] at h
      have hlater := h.past hfinal (by decide)
      rw [hstep, skipBlock_append hbody] at hlater
      exact ih hlater

theorem Runs.past_literal {text value : List Char} (h : Runs state (text ++ cs) last rest)
    (hfinal : Final last rest) (hliteral : Literal text value) :
    exists next : State, next.depth = state.depth ∧ Runs next cs last rest := by
  cases hliteral with
  | intro hquote hquoted =>
      rw [List.cons_append] at h
      have hlater := h.past hfinal (isWordStart_eq_false_of_isQuote hquote)
      rw [state.step_literal hquote hquoted] at hlater
      exact ⟨{ state with last := .value }, rfl, hlater⟩

theorem Runs.past_word {word : List Char} (h : Runs state (word ++ cs) last rest)
    (hword : IsWord word) (hends : EndsWord cs) :
    last = state ∧ rest = word ++ cs ∨
      exists next : State, next.depth = state.depth ∧ Runs next cs last rest := by
  cases word with
  | nil =>
      exact hword.elim
  | cons c word =>
      rw [List.cons_append] at h ⊢
      cases h with
      | refl =>
          exact Or.inl ⟨rfl, rfl⟩
      | step hclause hlater =>
          rw [state.step_word hword hends] at hclause hlater
          rw [State.stepWord_eq_pass hclause] at hlater
          exact Or.inr ⟨{ state with last := .word (operandWords.contains (c :: word)) },
            rfl, hlater⟩

theorem State.step_mark (state : State) (hc : c ∈ ['*', ',', '{', '}']) (cs : List Char) :
    (state.step c cs).rest = cs ∧
      (state.step c cs).state.depth =
        if c = '{' then state.depth + 1
        else if c = '}' then state.depth - 1
        else state.depth := by
  simp only [List.mem_cons, List.not_mem_nil, or_false] at hc
  rcases hc with rfl | rfl | rfl | rfl <;> exact ⟨rfl, rfl⟩

theorem Runs.past_mark (h : Runs state (c :: cs) last rest) (hfinal : Final last rest)
    (hc : c ∈ ['*', ',', '{', '}']) :
    exists next : State,
      next.depth =
        (if c = '{' then state.depth + 1
        else if c = '}' then state.depth - 1
        else state.depth) ∧
      Runs next cs last rest := by
  have hstart : isWordStart c = false := by
    simp only [List.mem_cons, List.not_mem_nil, or_false] at hc
    rcases hc with rfl | rfl | rfl | rfl <;> decide
  have hlater := h.past hfinal hstart
  rcases state.step_mark hc cs with ⟨hrest, hdepth⟩
  rw [hrest] at hlater
  exact ⟨_, hdepth, hlater⟩

theorem endsWord_of_spaced {tokens : List Token} (hne : tokens ≠ [])
    (h : Spaced Literal true tokens cs tail) : EndsWord cs := by
  cases tokens with
  | nil =>
      exact absurd rfl hne
  | cons token tokens =>
      exact h.endsWord

/-- Before a barrier, no row of tokens has a name that is followed as it must
be. -/
theorem Barred.not_follows {word : List Char} {tokens : List Token}
    (hbarred : Barred (word ++ cs)) (hword : IsWord word) (hne : tokens ≠ [])
    (hlater : Spaced Literal true tokens cs tail) : ¬ Follows word tokens := by
  intro hfollows
  cases tokens with
  | nil =>
      exact hne rfl
  | cons token tokens =>
      have hread := word?_eq_some_iff.mpr ⟨rfl, hword, hlater.endsWord⟩
      have hbegins := (spaced_cons_iff.mp hlater).right
      cases hbarred with
      | intro hword hkeyword hapart =>
          rw [hread] at hword
          cases hword
          rcases hfollows with hmem | ⟨later, hmark⟩ | ⟨source, hsource⟩
          · exact hkeyword hmem
          · rw [hmark] at hbegins
            have hcomma := hapart.comma
            generalize skipTrivia cs = behind at hbegins hcomma
            cases hbegins with
            | intro hwritten _ =>
                cases hwritten
                exact hcomma rfl
          · rw [hsource, begins_from_iff] at hbegins
            rcases hbegins with ⟨behind, hbehind, hliteral⟩
            rw [hapart.source behind hbehind] at hliteral
            cases hliteral

theorem Spaced.runs {behindWord : Bool} {tokens : List Token} {depth depth' : Nat}
    (h : Spaced Literal behindWord tokens cs tail)
    (hguarded : Guarded depth tokens depth') (hdepth : state.depth = depth)
    (hrun : Runs state cs last rest) (hfinal : Final last rest) :
    exists next : State, next.depth = depth' ∧ Runs next tail last rest := by
  induction h generalizing state depth with
  | nil behindWord tail =>
      cases hguarded
      exact ⟨state, hdepth, hrun⟩
  | cons hgap _ hwritten hlater ih =>
      have hbehind := hrun.past_trivia hgap hfinal
      cases hguarded with
      | word hne hfollows hguarded =>
          cases hwritten with
          | word hword =>
              have hends : EndsWord _ := endsWord_of_spaced hne hlater
              rcases hbehind.past_word hword hends with
                ⟨rfl, rfl⟩ | ⟨next, hnext, hbeyond⟩
              · rcases hfinal with hnil | ⟨hzero, hbarred⟩
                · rw [(List.append_eq_nil_iff.mp hnil).left] at hword
                  exact hword.elim
                · exact absurd (hfollows (hdepth.symm.trans hzero))
                    (hbarred.not_follows hword hne hlater)
              · exact ih hguarded (hnext.trans hdepth) hbeyond
      | literal value hguarded =>
          cases hwritten with
          | literal hliteral =>
              rcases hbehind.past_literal hfinal hliteral with ⟨next, hnext, hbeyond⟩
              exact ih hguarded (hnext.trans hdepth) hbeyond
      | opening hguarded =>
          cases hwritten
          rcases hbehind.past_mark hfinal (by decide) with ⟨next, hnext, hbeyond⟩
          exact ih hguarded (hnext.trans (congrArg (· + 1) hdepth)) hbeyond
      | closing hguarded =>
          cases hwritten
          rcases hbehind.past_mark hfinal (by decide) with ⟨next, hnext, hbeyond⟩
          exact ih hguarded (hnext.trans (congrArg (· - 1) hdepth)) hbeyond
      | mark hmark hguarded =>
          cases hwritten with
          | mark hc =>
              rcases hbehind.past_mark hfinal hc with ⟨next, hnext, hbeyond⟩
              simp only [List.mem_cons, List.not_mem_nil, or_false] at hmark
              rcases hmark with rfl | rfl
              · exact ih hguarded (hnext.trans hdepth) hbeyond
              · exact ih hguarded (hnext.trans hdepth) hbeyond

end

end Import
end RemoteImports
