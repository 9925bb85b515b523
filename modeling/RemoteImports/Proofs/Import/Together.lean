import RemoteImports.Proofs.Import.Abreast
import RemoteImports.Proofs.Import.Part

/-!
# Reading up to a part

Two texts are the same up to a place where a part stands in one and a part that
may stand for it in the other.  A declaration that is read from before that
place does not tell the two apart: its tokens go along with the scan, and there
they either end or find a comment that is passed over.
-/

namespace RemoteImports
namespace Import

open Script

inductive Together (mid : State) (front front' : List Char) :
    State -> List Char -> List Char -> Prop where
  | here : Together mid front front' mid front front'
  | pass {state next : State} {c : Char} {text cs cs' : List Char} :
      state.step c (text ++ cs) = { clause := none, state := next, rest := cs } ->
      state.step c (text ++ cs') = { clause := none, state := next, rest := cs' } ->
      Together mid front front' next cs cs' ->
      Together mid front front' state (c :: (text ++ cs)) (c :: (text ++ cs'))

def Led (leads : Bool) : List Token -> Prop
  | [] => True
  | .word _ :: tokens => tokens ≠ [] ∧ Led true tokens
  | .mark c :: tokens => Led (c == '{' || c == ',') tokens
  | .literal _ :: tokens => leads = true ∧ Led false tokens

/-!
# Declarations are led
-/

theorem led_fromTokens (leads : Bool) (source : List Char) :
    Led leads (fromTokens source) :=
  ⟨List.cons_ne_nil _ _, rfl, trivial⟩

theorem Item.led {tokens : List Token} (item : Item) (hne : tokens ≠ [])
    (h : Led true tokens) : Led true (item.tokens ++ tokens) := by
  cases item with
  | plain name =>
      exact ⟨hne, h⟩
  | renamed name binding =>
      exact ⟨List.cons_ne_nil _ _, List.cons_ne_nil _ _, hne, h⟩
  | quoted name binding =>
      exact ⟨rfl, List.cons_ne_nil _ _, hne, h⟩

theorem led_itemTokens (trailing : Bool) (items : List Item) {tokens : List Token}
    (h : Led false tokens) :
    Led true (itemTokens trailing items ++ .mark '}' :: tokens) := by
  induction items with
  | nil =>
      exact h
  | cons item items ih =>
      rw [itemTokens, List.append_assoc]
      split
      · exact item.led (List.cons_ne_nil _ _) h
      · exact item.led (List.cons_ne_nil _ _) ih

theorem Group.led (leads : Bool) (group : Group) (source : List Char) :
    Led leads (group.tokens ++ fromTokens source) := by
  cases group with
  | whole binding =>
      exact ⟨List.cons_ne_nil _ _, List.cons_ne_nil _ _, led_fromTokens true source⟩
  | named items trailing =>
      rw [Group.tokens, List.cons_append, List.append_assoc]
      exact led_itemTokens trailing items (led_fromTokens false source)

theorem Form.led (form : Form) : Led true form.tokens := by
  rcases form with ⟨default, group, source⟩
  cases default with
  | none =>
      cases group with
      | none =>
          exact ⟨rfl, trivial⟩
      | some group =>
          exact group.led true source
  | some name =>
      cases group with
      | none =>
          exact ⟨List.cons_ne_nil _ _, led_fromTokens true source⟩
      | some group =>
          exact ⟨List.cons_ne_nil _ _, group.led true source⟩

/-!
# Going along with the scan
-/

section

variable {mid state next : State} {kind : Last} {front front' : List Char}
  {c : Char} {text cs cs' rest tail : List Char}

theorem Masked.symm (h : Masked mid front front') : Masked mid front' front := by
  rcases h.head with ⟨c, behind, behind', hfront, hfront', hc, hleads⟩
  exact ⟨⟨c, behind', behind, hfront', hfront, hc, hleads⟩,
    h.trivia.imp Eq.symm And.symm⟩

theorem Together.symm (h : Together mid front front' state cs cs') :
    Together mid front' front state cs' cs := by
  induction h with
  | here =>
      exact Together.here
  | pass hstep hstep' _ ih =>
      exact Together.pass hstep' hstep ih

theorem Together.alike (h : Together mid front front' state cs cs')
    (hmasked : Masked mid front front') : Alike cs cs' := by
  cases h with
  | here =>
      rcases hmasked.head with ⟨c, behind, behind', rfl, rfl, _, _⟩
      exact Alike.same c behind behind'
  | pass =>
      exact Alike.same _ _ _

theorem State.pass_eq_iff :
    state.pass kind cs = { clause := none, state := next, rest } <->
      next = { state with last := kind } ∧ cs = rest := by
  simp [State.pass, eq_comm]

theorem State.eq_of_step_blank (hblank : isBlank c = true)
    (h : state.step c (text ++ rest) = { clause := none, state := next, rest }) :
    next = state ∧ text = [] := by
  rw [state.step_blank hblank, State.pass_eq_iff] at h
  exact ⟨h.left, List.append_left_eq_self.mp h.right⟩

/-- Blanks and comments are passed over by the scan and by the reader, in both
of two texts that go on alike as far as the marks of a comment go. -/
theorem step_trivia (c : Char)
    (hslash : cs.head? = some '/' <-> cs'.head? = some '/')
    (hstar : cs.head? = some '*' <-> cs'.head? = some '*') :
    (forall state : State, exists skipped skipped' : List Char,
      state.step c cs = state.pass state.last skipped ∧
      state.step c cs' = state.pass state.last skipped' ∧
      skipTrivia (c :: cs) = skipTrivia skipped ∧
      skipTrivia (c :: cs') = skipTrivia skipped') ∨
    skipTrivia (c :: cs) = c :: cs ∧ skipTrivia (c :: cs') = c :: cs' := by
  by_cases hblank : isBlank c = true
  · left
    intro state
    exact ⟨cs, cs', state.step_blank hblank cs, state.step_blank hblank cs',
      skipTrivia_cons_of_isBlank hblank cs, skipTrivia_cons_of_isBlank hblank cs'⟩
  by_cases hline : c = '/' ∧ cs.head? = some '/'
  · left
    intro state
    rcases hline with ⟨rfl, hhead⟩
    rcases List.head?_eq_some_iff.mp (hslash.mp hhead) with ⟨inside', rfl⟩
    rcases List.head?_eq_some_iff.mp hhead with ⟨inside, rfl⟩
    exact ⟨skipLine inside, skipLine inside', state.step_line inside,
      state.step_line inside', skipTrivia_line inside, skipTrivia_line inside'⟩
  by_cases hblock : c = '/' ∧ cs.head? = some '*'
  · left
    intro state
    rcases hblock with ⟨rfl, hhead⟩
    rcases List.head?_eq_some_iff.mp (hstar.mp hhead) with ⟨inside', rfl⟩
    rcases List.head?_eq_some_iff.mp hhead with ⟨inside, rfl⟩
    exact ⟨skipBlock inside, skipBlock inside', state.step_block inside,
      state.step_block inside', skipTrivia_block inside, skipTrivia_block inside'⟩
  · right
    have hline' := hline
    have hblock' := hblock
    rw [hslash] at hline'
    rw [hstar] at hblock'
    rw [skipTrivia, if_neg hblank, if_neg hline, if_neg hblock,
      skipTrivia, if_neg hblank, if_neg hline', if_neg hblock']
    exact ⟨rfl, rfl⟩

theorem Together.skipTrivia (h : Together mid front front' state cs cs')
    (hmasked : Masked mid front front') :
    Script.skipTrivia cs = Script.skipTrivia cs' ∨
      Together mid front front' state (Script.skipTrivia cs) (Script.skipTrivia cs') := by
  induction h with
  | here =>
      rcases hmasked.trivia with hsame | ⟨hfront, hfront'⟩
      · exact Or.inl hsame
      · rw [hfront, hfront']
        exact Or.inr Together.here
  | @pass state next c text cs cs' hstep hstep' hlater ih =>
      have halike := (hlater.alike hmasked).append text
      rcases step_trivia c (halike.head?_eq_some_iff (by decide))
          (halike.head?_eq_some_iff (by decide)) with
        htrivia | ⟨hself, hself'⟩
      · rcases htrivia state with ⟨skipped, skipped', hpass, hpass', hskip, hskip'⟩
        rw [hpass, State.pass_eq_iff] at hstep
        rw [hpass', State.pass_eq_iff] at hstep'
        rcases hstep with ⟨rfl, rfl⟩
        rcases hstep' with ⟨_, rfl⟩
        rw [hskip, hskip']
        exact ih
      · rw [hself, hself']
        exact Or.inr (Together.pass hstep hstep' hlater)

theorem Together.dropWhile_isSpace (h : Together mid front front' state cs cs')
    (hmasked : Masked mid front front') :
    Together mid front front' state (cs.dropWhile isSpace) (cs'.dropWhile isSpace) := by
  induction h with
  | here =>
      rcases hmasked.head with ⟨c, behind, behind', rfl, rfl, hc, _⟩
      have hspace : ¬ isSpace c = true := by
        simp only [List.mem_cons, List.not_mem_nil, or_false] at hc
        rcases hc with rfl | rfl | rfl | rfl <;> decide
      rw [List.dropWhile_cons_of_neg hspace, List.dropWhile_cons_of_neg hspace]
      exact Together.here
  | @pass state next c text cs cs' hstep hstep' hlater ih =>
      by_cases hspace : isSpace c = true
      · rcases State.eq_of_step_blank (isBlank_of_isSpace hspace) hstep with ⟨rfl, rfl⟩
        rw [List.dropWhile_cons_of_pos hspace, List.dropWhile_cons_of_pos hspace]
        exact ih
      · rw [List.dropWhile_cons_of_neg hspace, List.dropWhile_cons_of_neg hspace]
        exact Together.pass hstep hstep' hlater

theorem State.step_mark_last (state : State) (hc : c ∈ ['*', ',', '{', '}'])
    (cs : List Char) : (state.step c cs).state.last = .punctuation c := by
  simp only [List.mem_cons, List.not_mem_nil, or_false] at hc
  rcases hc with rfl | rfl | rfl | rfl <;> rfl

theorem Masked.not_written {token : Token} {tokens : List Token}
    (h : Masked mid (text ++ rest) front') (hled : Led mid.last.leads (token :: tokens)) :
    ¬ token.Written Literal text := by
  intro hwritten
  rcases h.head with ⟨c, behind, behind', hfront, _, hc, hleads⟩
  have hmark : isWordStart c = false ∧ c ∉ ['*', ',', '{', '}'] := by
    simp only [List.mem_cons, List.not_mem_nil, or_false] at hc
    rcases hc with rfl | rfl | rfl | rfl <;> decide
  cases hwritten with
  | word hword =>
      cases text with
      | nil =>
          exact hword.elim
      | cons d text =>
          cases hfront
          have hstart := hword.left
          rw [hmark.left] at hstart
          cases hstart
  | mark hmem =>
      cases hfront
      exact hmark.right hmem
  | literal hliteral =>
      cases hliteral with
      | intro hquote _ =>
          cases hfront
          have hbehind := hled.left
          rw [hleads hquote] at hbehind
          cases hbehind

/-- Behind a token that is read from before the part, the texts still go on
together, and the scan has passed over the same token. -/
theorem Together.token {token : Token} {tokens : List Token}
    (h : Together mid front front' state (text ++ rest) cs')
    (hmasked : Masked mid front front') (hwritten : token.Written Literal text)
    (hlater : Spaced Literal token.isWord tokens rest tail)
    (hled : Led state.last.leads (token :: tokens)) :
    exists (rest' : List Char) (next : State),
      cs' = text ++ rest' ∧ Led next.last.leads tokens ∧
        Together mid front front' next rest rest' := by
  generalize hcs : text ++ rest = cs at h
  cases h with
  | here =>
      rw [← hcs] at hmasked
      exact absurd hwritten (hmasked.not_written hled)
  | @pass state next c text' cs cs' hstep _ hbehind =>
      cases hwritten with
      | word hword =>
          cases text with
          | nil =>
              exact hword.elim
          | cons d text =>
              rw [List.cons_append] at hcs
              rcases List.cons_eq_cons.mp hcs with ⟨rfl, htext⟩
              have hends : EndsWord rest := endsWord_of_spaced hled.left hlater
              rw [← htext, state.step_word hword hends] at hstep
              have hnone := congrArg Step.clause hstep
              rw [State.stepWord_eq_pass hnone, State.pass_eq_iff] at hstep
              rcases hstep with ⟨hnext, rfl⟩
              rw [List.append_cancel_right htext]
              refine ⟨cs', next, rfl, ?_, hbehind⟩
              rw [hnext]
              exact hled.right
      | mark hmark =>
          rw [List.singleton_append] at hcs
          rcases List.cons_eq_cons.mp hcs with ⟨rfl, htext⟩
          have hrest := (state.step_mark hmark (text' ++ cs)).left
          have hlast := state.step_mark_last hmark (text' ++ cs)
          rw [hstep] at hrest hlast
          have hnil : text' = [] := List.append_left_eq_self.mp hrest.symm
          subst hnil
          rw [List.nil_append] at htext
          rw [htext]
          refine ⟨cs', next, rfl, ?_, hbehind⟩
          rw [hlast]
          exact hled
      | literal hliteral =>
          cases hliteral with
          | @intro quote inside _ hquote hquoted =>
              rw [List.cons_append] at hcs
              rcases List.cons_eq_cons.mp hcs with ⟨rfl, htext⟩
              rw [← htext, state.step_literal hquote hquoted, State.pass_eq_iff] at hstep
              rcases hstep with ⟨hnext, rfl⟩
              rw [List.append_cancel_right htext]
              refine ⟨cs', next, rfl, ?_, hbehind⟩
              rw [hnext]
              exact hled.right

theorem Together.spaced {behindWord : Bool} {tokens : List Token}
    (h : Together mid front front' state cs cs') (hmasked : Masked mid front front')
    (hspaced : Spaced Literal behindWord tokens cs tail)
    (hled : Led state.last.leads tokens) :
    exists tail' : List Char,
      Spaced Literal behindWord tokens cs' tail' ∧
        (tail = tail' ∨ exists next : State, Together mid front front' next tail tail') := by
  induction tokens generalizing state behindWord cs cs' with
  | nil =>
      cases hspaced
      exact ⟨cs', Spaced.nil behindWord cs', Or.inr ⟨state, h⟩⟩
  | cons token tokens ih =>
      rcases spaced_cons_iff.mp hspaced with ⟨hends, hbegins⟩
      have hends' : (behindWord && token.isWord) = true -> EndsWord cs' :=
        fun hwords => (h.alike hmasked).endsWord (hends hwords)
      rcases h.skipTrivia hmasked with hsame | hskip
      · rw [hsame] at hbegins
        exact ⟨tail, spaced_cons_iff.mpr ⟨hends', hbegins⟩, Or.inl rfl⟩
      · generalize Script.skipTrivia cs = behind at hbegins hskip
        cases hbegins with
        | intro hwritten hlater =>
            rcases hskip.token hmasked hwritten hlater hled with
              ⟨rest', next, hbehind', hled', hrest⟩
            rcases ih hrest hlater hled' with ⟨tail', hlater', htail⟩
            refine ⟨tail', spaced_cons_iff.mpr ⟨hends', ?_⟩, htail⟩
            rw [hbehind']
            exact Begins.intro hwritten hlater'

/-!
# Behind the module
-/

theorem Together.hasAttributes (h : Together mid front front' state cs cs')
    (hmasked : Masked mid front front') (hattributes : hasAttributes cs = true) :
    hasAttributes cs' = true := by
  rcases hasAttributes_iff.mp hattributes with ⟨word, tail, hword, hbegins⟩
  cases hbegins with
  | intro hwritten hlater =>
      have hled : Led state.last.leads [.word word, .mark '{'] :=
        ⟨List.cons_ne_nil _ _, trivial⟩
      rcases h.token hmasked hwritten hlater hled with ⟨rest', next, hcs', hled', hrest⟩
      rcases hrest.spaced hmasked hlater hled' with ⟨tail', hlater', _⟩
      rw [hcs']
      exact hasAttributes_iff.mpr ⟨word, tail', hword, Begins.intro hwritten hlater'⟩

theorem Together.finish?_eq_none (h : Together mid front front' state cs cs')
    (hmasked : Masked mid front front') (hfinish : finish? cs = none) :
    finish? cs' = none := by
  rw [finish?_eq_none_iff] at hfinish ⊢
  exact (h.dropWhile_isSpace hmasked).hasAttributes hmasked hfinish

/-- Where a word `import` begins no declaration in one text, it begins none in
the other. -/
theorem Together.clause?_eq_none (h : Together mid front front' state cs cs')
    (hmasked : Masked mid front front') (hleads : state.last.leads = true)
    (hclause : clause? cs = none) : clause? cs' = none := by
  rw [clause?_eq_none_iff_forall] at hclause ⊢
  intro form tail' hspaced
  have hled : Led state.last.leads form.tokens := hleads ▸ form.led
  rcases h.symm.spaced hmasked.symm hspaced hled with ⟨tail, hold, htail⟩
  rcases htail with rfl | ⟨next, htail⟩
  · exact hclause form tail' hold
  · exact htail.symm.finish?_eq_none hmasked (hclause form tail hold)

theorem Together.clause?_append {clause : Clause} {behind : List Char}
    (h : Together mid front front' state cs cs') (hmasked : Masked mid front front')
    (hclause : clause? (behind ++ cs) = some (clause, cs)) :
    clause? (behind ++ cs') = some (clause, cs') := by
  have hbehind := (h.dropWhile_isSpace hmasked).symm
  refine Import.clause?_append (fun between => Import.finish?_append ?_ ?_) hclause
  · exact hbehind.hasAttributes hmasked.symm
  · exact (hbehind.alike hmasked.symm).head?_eq_some (by decide)

end

end Import
end RemoteImports
