import RemoteImports.Proofs.Script.Literal
import RemoteImports.Proofs.Script.Trivia

/-!
# What passing over a part depends on

To pass over a comment, a literal, a template or a regular expression, nothing
is looked at but the part itself and one character behind it.  What follows may
be put in place of something else that begins with the same character, or with
another letter where a letter stood.
-/

namespace RemoteImports
namespace Script

inductive Alike : List Char -> List Char -> Prop where
  | nil : Alike [] []
  | same (c : Char) (cs cs' : List Char) : Alike (c :: cs) (c :: cs')
  | letter {c c' : Char} (cs cs' : List Char) :
      c.isAlpha = true -> c'.isAlpha = true -> Alike (c :: cs) (c' :: cs')

section

variable {rest rest' : List Char}

theorem Alike.symm (h : Alike rest rest') : Alike rest' rest := by
  cases h with
  | nil =>
      exact Alike.nil
  | same c cs cs' =>
      exact Alike.same c cs' cs
  | letter cs cs' hc hc' =>
      exact Alike.letter cs' cs hc' hc

theorem Alike.append (h : Alike rest rest') (text : List Char) :
    Alike (text ++ rest) (text ++ rest') := by
  cases text with
  | nil =>
      exact h
  | cons c text =>
      exact Alike.same c _ _

theorem Alike.eq_nil (h : Alike rest rest') (hnil : rest = []) : rest' = [] := by
  subst hnil
  cases h
  rfl

theorem Alike.head?_eq_some (h : Alike rest rest') {c : Char} (hc : c.isAlpha = false)
    (hhead : rest.head? = some c) : rest'.head? = some c := by
  cases h with
  | nil =>
      cases hhead
  | same =>
      exact hhead
  | letter _ _ hletter =>
      cases hhead
      rw [hletter] at hc
      cases hc

theorem Alike.head?_eq_some_iff (h : Alike rest rest') {c : Char}
    (hc : c.isAlpha = false) : rest.head? = some c <-> rest'.head? = some c :=
  ⟨h.head?_eq_some hc, h.symm.head?_eq_some hc⟩

theorem isWordPart_of_isAlpha {c : Char} (h : c.isAlpha = true) :
    isWordPart c = true := by
  rw [isWordPart, isWordStart, h]
  rfl

theorem Alike.endsWord (h : Alike rest rest') (hends : EndsWord rest) :
    EndsWord rest' := by
  intro c hc
  cases h with
  | nil =>
      cases hc
  | same =>
      exact hends c hc
  | letter _ _ hletter =>
      have hpart := hends _ rfl
      rw [isWordPart_of_isAlpha hletter] at hpart
      cases hpart

theorem exists_append_of_suffix {part cs text : List Char}
    (h : part ++ cs = text ++ rest) (hrest : rest <:+ cs) :
    exists later : List Char, text = part ++ later ∧ cs = later ++ rest := by
  rcases hrest with ⟨later, rfl⟩
  rw [← List.append_assoc] at h
  exact ⟨later, (List.append_cancel_right h).symm, rfl⟩

theorem append_eq_self {text : List Char} (h : text ++ rest = rest) :
    text ++ rest' = rest' := by
  have htext : text = [] := List.append_left_eq_self.mp h
  rw [htext, List.nil_append]

theorem eq_nil_of_suffix_drop (h : rest <:+ rest.drop 1) : rest = [] := by
  cases rest with
  | nil =>
      rfl
  | cons c cs =>
      exact absurd h.length_le (Nat.not_succ_le_self cs.length)

theorem drop_alike {text : List Char} (halike : Alike rest rest')
    (h : (text ++ rest).drop 1 = rest) : (text ++ rest').drop 1 = rest' := by
  cases text with
  | nil =>
      have hsuffix : rest <:+ rest.drop 1 := ⟨[], h.symm⟩
      rw [halike.eq_nil (eq_nil_of_suffix_drop hsuffix)]
      rfl
  | cons c text =>
      exact append_eq_self h

theorem forall_of_dropWhile_append {p : Char -> Bool} {text : List Char}
    (h : (text ++ rest).dropWhile p = rest) : forall c, c ∈ text -> p c = true := by
  induction text with
  | nil =>
      intro c hmem
      cases hmem
  | cons d text ih =>
      rw [List.cons_append, List.dropWhile_cons] at h
      split at h
      · rename_i hd
        intro c hmem
        cases hmem with
        | head =>
            exact hd
        | tail _ hlater =>
            exact ih h c hlater
      · have hlength := congrArg List.length h
        rw [List.length_cons, List.length_append] at hlength
        omega

theorem dropWhile_alike {p : Char -> Bool} {text : List Char}
    (hp : forall c d : Char, c.isAlpha = true -> d.isAlpha = true -> p c = p d)
    (halike : Alike rest rest') (h : (text ++ rest).dropWhile p = rest) :
    (text ++ rest').dropWhile p = rest' := by
  have htext := forall_of_dropWhile_append h
  rw [List.dropWhile_append_of_pos htext] at h ⊢
  have hnot := List.head?_dropWhile_not p rest
  rw [h] at hnot
  cases halike with
  | nil =>
      rfl
  | same c cs cs' =>
      exact List.dropWhile_cons_of_neg (by simpa using hnot)
  | @letter c c' cs cs' hc hc' =>
      exact List.dropWhile_cons_of_neg (by simpa [hp c c' hc hc'] using hnot)

theorem skipLine_alike {text : List Char} (halike : Alike rest rest')
    (h : skipLine (text ++ rest) = rest) : skipLine (text ++ rest') = rest' := by
  apply dropWhile_alike _ halike h
  intro c d hc hd
  have hne : forall c : Char, c.isAlpha = true -> (c != '\n') = true := by
    intro c hc
    rw [bne_iff_ne]
    rintro rfl
    cases hc
  rw [hne c hc, hne d hd]

theorem skipBlock_alike {text : List Char} (halike : Alike rest rest')
    (h : skipBlock (text ++ rest) = rest) : skipBlock (text ++ rest') = rest' := by
  generalize hcs : text ++ rest = cs at h
  fun_induction skipBlock cs generalizing text with
  | case1 =>
      rcases List.append_eq_nil_iff.mp hcs with ⟨rfl, hnil⟩
      rw [halike.eq_nil hnil]
      rfl
  | case2 cs =>
      subst h
      have htext : text = ['*', '/'] := List.append_cancel_right hcs
      rw [htext]
      rfl
  | case3 c cs hnext ih =>
      have hsuffix : rest <:+ cs := h ▸ skipBlock_suffix cs
      rcases @exists_append_of_suffix _ [c] _ _ hcs.symm hsuffix with
        ⟨later, rfl, rfl⟩
      have hhead : ¬ (c = '*' ∧ (later ++ rest').head? = some '/') := by
        rintro ⟨hc, hslash⟩
        rw [← (halike.append later).head?_eq_some_iff (by decide)] at hslash
        rcases List.head?_eq_some_iff.mp hslash with ⟨behind, hbehind⟩
        exact hnext behind hc hbehind
      rw [List.singleton_append, List.cons_append, skipBlock_cons hhead]
      exact ih rfl h

theorem skipBlock_drop_alike {text : List Char} (halike : Alike rest rest')
    (h : skipBlock ((text ++ rest).drop 1) = rest) :
    skipBlock ((text ++ rest').drop 1) = rest' := by
  cases text with
  | nil =>
      have hsuffix := skipBlock_suffix (rest.drop 1)
      rw [List.nil_append] at h
      rw [h] at hsuffix
      rw [halike.eq_nil (eq_nil_of_suffix_drop hsuffix)]
      rfl
  | cons c text =>
      exact skipBlock_alike halike h

theorem skipString_alike {quote : Char} {text : List Char}
    (hquote : isQuote quote = true) (halike : Alike rest rest')
    (h : skipString quote (text ++ rest) = rest) :
    skipString quote (text ++ rest') = rest' := by
  have hne : quote ≠ '\\' ∧ quote ≠ '\n' := by
    rw [isQuote, Bool.or_eq_true, beq_iff_eq, beq_iff_eq] at hquote
    rcases hquote with rfl | rfl <;> decide
  generalize hcs : text ++ rest = cs at h
  fun_induction skipString quote cs generalizing text with
  | case1 =>
      rcases List.append_eq_nil_iff.mp hcs with ⟨rfl, hnil⟩
      rw [halike.eq_nil hnil]
      rfl
  | case2 cs ih =>
      have hsuffix : rest <:+ cs := h ▸ skipString_suffix quote cs
      rcases @exists_append_of_suffix _ ['\\', '\r', '\n'] _ _ hcs.symm hsuffix with
        ⟨later, rfl, rfl⟩
      change skipString quote ('\\' :: '\r' :: '\n' :: (later ++ rest')) = rest'
      rw [skipString]
      exact ih rfl h
  | case3 c cs hnext ih =>
      have hsuffix : rest <:+ cs := h ▸ skipString_suffix quote cs
      rcases @exists_append_of_suffix _ ['\\', c] _ _ hcs.symm hsuffix with
        ⟨later, rfl, rfl⟩
      have hreturn : c = '\r' -> (later ++ rest').head? ≠ some '\n' := by
        intro hc hline
        rw [← (halike.append later).head?_eq_some_iff (by decide)] at hline
        rcases List.head?_eq_some_iff.mp hline with ⟨behind, hbehind⟩
        exact hnext behind hc hbehind
      change skipString quote ('\\' :: c :: (later ++ rest')) = rest'
      rw [skipString_escape hreturn]
      exact ih rfl h
  | case4 cs =>
      subst h
      have htext : text = [] := List.append_cancel_right hcs
      rcases List.head?_eq_some_iff.mp (halike.head?_eq_some (by decide) rfl) with
        ⟨later, rfl⟩
      rw [htext, List.nil_append, skipString, if_pos rfl]
      · intro _ hslash
        cases hslash
      · intro _ _ hslash
        cases hslash
  | case5 cs =>
      subst h
      have htext : text = [quote] := List.append_cancel_right hcs
      rw [htext, List.singleton_append]
      exact Quoted.close.skipString hquote rest'
  | case6 c cs _ hslash hline hclose ih =>
      have hsuffix : rest <:+ cs := h ▸ skipString_suffix quote cs
      rcases @exists_append_of_suffix _ [c] _ _ hcs.symm hsuffix with
        ⟨later, rfl, rfl⟩
      change skipString quote (c :: (later ++ rest')) = rest'
      by_cases hc : c = '\\'
      · -- a backslash ends the text, and so does the other one
        have hnil : later ++ rest = [] := by
          cases hcs : later ++ rest with
          | nil =>
              rfl
          | cons d behind =>
              exact (hslash d behind hc hcs).elim
        rcases List.append_eq_nil_iff.mp hnil with ⟨rfl, hrest⟩
        rw [halike.eq_nil hrest, hc]
        simp [skipString, hne.left.symm]
      · rw [skipString_plain hclose hc hline]
        exact ih rfl h

theorem skipRegex_cons {inClass : Bool} {c : Char} {cs : List Char}
    (h : c = '\\' -> cs = []) :
    skipRegex inClass (c :: cs) =
      if c = '[' then skipRegex true cs
      else if c = ']' then skipRegex false cs
      else if c = '/' ∧ !inClass then cs.dropWhile isWordPart
      else if c = '\n' then c :: cs
      else skipRegex inClass cs := by
  rw [skipRegex]
  intro d behind hc hcs
  rw [h hc] at hcs
  cases hcs

theorem skipRegex_alike {inClass : Bool} {text : List Char} (halike : Alike rest rest')
    (h : skipRegex inClass (text ++ rest) = rest) :
    skipRegex inClass (text ++ rest') = rest' := by
  generalize hcs : text ++ rest = cs at h
  fun_induction skipRegex inClass cs generalizing text with
  | case1 =>
      rcases List.append_eq_nil_iff.mp hcs with ⟨rfl, hnil⟩
      rw [halike.eq_nil hnil, List.nil_append, skipRegex]
  | case2 inClass c cs ih =>
      have hsuffix : rest <:+ cs := h ▸ skipRegex_suffix inClass cs
      rcases @exists_append_of_suffix _ ['\\', c] _ _ hcs.symm hsuffix with
        ⟨later, rfl, rfl⟩
      change skipRegex inClass ('\\' :: c :: (later ++ rest')) = rest'
      rw [skipRegex]
      exact ih rfl h
  | case3 inClass cs _ ih =>
      have hsuffix : rest <:+ cs := h ▸ skipRegex_suffix true cs
      rcases @exists_append_of_suffix _ ['['] _ _ hcs.symm hsuffix with
        ⟨later, rfl, rfl⟩
      change skipRegex inClass ('[' :: (later ++ rest')) = rest'
      rw [skipRegex_cons (by rintro ⟨⟩), if_pos rfl]
      exact ih rfl h
  | case4 inClass cs _ _ ih =>
      have hsuffix : rest <:+ cs := h ▸ skipRegex_suffix false cs
      rcases @exists_append_of_suffix _ [']'] _ _ hcs.symm hsuffix with
        ⟨later, rfl, rfl⟩
      change skipRegex inClass (']' :: (later ++ rest')) = rest'
      rw [skipRegex_cons (by rintro ⟨⟩), if_neg (by decide), if_pos rfl]
      exact ih rfl h
  | case5 inClass c cs _ hopen hclose hend =>
      have hsuffix : rest <:+ cs := h ▸ List.dropWhile_suffix _
      rcases @exists_append_of_suffix _ [c] _ _ hcs.symm hsuffix with
        ⟨later, rfl, rfl⟩
      change skipRegex inClass (c :: (later ++ rest')) = rest'
      rw [skipRegex_cons, if_neg hopen, if_neg hclose, if_pos hend]
      · apply dropWhile_alike _ halike h
        intro c d hc hd
        rw [isWordPart_of_isAlpha hc, isWordPart_of_isAlpha hd]
      · intro hc
        rw [hc] at hend
        cases hend.left
  | case6 inClass cs =>
      subst h
      have htext : text = [] := List.append_cancel_right hcs
      rcases List.head?_eq_some_iff.mp (halike.head?_eq_some (by decide) rfl) with
        ⟨later, rfl⟩
      rw [htext, List.nil_append, skipRegex_cons (by rintro ⟨⟩)]
      simp
  | case7 inClass c cs hslash hopen hclose hend hline ih =>
      have hsuffix : rest <:+ cs := h ▸ skipRegex_suffix inClass cs
      rcases @exists_append_of_suffix _ [c] _ _ hcs.symm hsuffix with
        ⟨later, rfl, rfl⟩
      change skipRegex inClass (c :: (later ++ rest')) = rest'
      have hlast : c = '\\' -> later ++ rest' = [] := by
        intro hc
        apply (halike.append later).eq_nil
        cases hcs : later ++ rest with
        | nil =>
            rfl
        | cons d behind =>
            exact (hslash d behind hc hcs).elim
      rw [skipRegex_cons hlast, if_neg hopen, if_neg hclose, if_neg hend, if_neg hline]
      exact ih rfl h

/-!
# Templates

A template is passed over in steps of one character, and in the code of a
substitution of one part.  A step looks at nothing behind what it takes but one
character, and then the same holds of all steps together.
-/

def textStep (stack : List Open) (c : Char) (cs : List Char) : List Open × List Char :=
  if c = '`' then (stack, cs)
  else if c = '\\' then (.text :: stack, cs.drop 1)
  else if c = '$' ∧ cs.head? = some '{' then (.code 1 :: .text :: stack, cs.drop 1)
  else (.text :: stack, cs)

def codeStep (braces : Nat) (stack : List Open) (c : Char) (cs : List Char) :
    List Open × List Char :=
  if c = '{' then (.code (braces + 1) :: stack, cs)
  else if c = '}' then
    (if braces <= 1 then stack else .code (braces - 1) :: stack, cs)
  else if isQuote c then (.code braces :: stack, skipString c cs)
  else if c = '`' then (.text :: .code braces :: stack, cs)
  else if c = '/' ∧ cs.head? = some '/' then (.code braces :: stack, skipLine cs)
  else if c = '/' ∧ cs.head? = some '*' then
    (.code braces :: stack, skipBlock (cs.drop 1))
  else (.code braces :: stack, cs)

def Open.step (stack : List Open) (c : Char) (cs : List Char) :
    Open -> List Open × List Char
  | .text => textStep stack c cs
  | .code braces => codeStep braces stack c cs

theorem skipOpen_cons (inner : Open) (stack : List Open) (c : Char) (cs : List Char) :
    skipOpen (inner :: stack) (c :: cs) =
      skipOpen (inner.step stack c cs).fst (inner.step stack c cs).snd := by
  cases inner with
  | text =>
      rw [skipOpen, Open.step, textStep]
      repeat' split
      all_goals rfl
  | code braces =>
      rw [skipOpen, Open.step, codeStep]
      repeat' split
      all_goals rfl

theorem Open.step_suffix (inner : Open) (stack : List Open) (c : Char)
    (cs : List Char) : (inner.step stack c cs).snd <:+ cs := by
  cases inner with
  | text =>
      rw [Open.step, textStep]
      repeat' split
      · exact List.suffix_rfl
      · exact List.drop_suffix 1 cs
      · exact List.drop_suffix 1 cs
      · exact List.suffix_rfl
  | code braces =>
      rw [Open.step, codeStep]
      repeat' split
      · exact List.suffix_rfl
      · exact List.suffix_rfl
      · exact List.suffix_rfl
      · exact skipString_suffix c cs
      · exact List.suffix_rfl
      · exact skipLine_suffix cs
      · exact skipBlock_drop_suffix cs
      · exact List.suffix_rfl

theorem textStep_alike {stack : List Open} {c : Char} {text : List Char}
    (halike : Alike rest rest') (h : (textStep stack c (text ++ rest)).snd = rest) :
    textStep stack c (text ++ rest') =
      ((textStep stack c (text ++ rest)).fst, rest') := by
  unfold textStep at h ⊢
  by_cases hend : c = '`'
  · rw [if_pos hend] at h
    rw [if_pos hend, if_pos hend, append_eq_self h]
  rw [if_neg hend] at h
  rw [if_neg hend, if_neg hend]
  by_cases hslash : c = '\\'
  · rw [if_pos hslash] at h
    rw [if_pos hslash, if_pos hslash, drop_alike halike h]
  rw [if_neg hslash] at h
  rw [if_neg hslash, if_neg hslash]
  have hhead : (text ++ rest).head? = some '{' <-> (text ++ rest').head? = some '{' :=
    (halike.append text).head?_eq_some_iff (by decide)
  by_cases hopen : c = '$' ∧ (text ++ rest).head? = some '{'
  · rw [if_pos hopen] at h
    rw [if_pos hopen, if_pos (hopen.imp_right hhead.mp), drop_alike halike h]
  · rw [if_neg hopen] at h
    rw [if_neg hopen, if_neg (mt (And.imp_right hhead.mpr) hopen), append_eq_self h]

theorem codeStep_alike {braces : Nat} {stack : List Open} {c : Char} {text : List Char}
    (halike : Alike rest rest')
    (h : (codeStep braces stack c (text ++ rest)).snd = rest) :
    codeStep braces stack c (text ++ rest') =
      ((codeStep braces stack c (text ++ rest)).fst, rest') := by
  unfold codeStep at h ⊢
  by_cases hopen : c = '{'
  · rw [if_pos hopen] at h
    rw [if_pos hopen, if_pos hopen, append_eq_self h]
  rw [if_neg hopen] at h
  rw [if_neg hopen, if_neg hopen]
  by_cases hclose : c = '}'
  · rw [if_pos hclose] at h
    rw [if_pos hclose, if_pos hclose, append_eq_self h]
  rw [if_neg hclose] at h
  rw [if_neg hclose, if_neg hclose]
  by_cases hquote : isQuote c = true
  · rw [if_pos hquote] at h
    rw [if_pos hquote, if_pos hquote, skipString_alike hquote halike h]
  rw [if_neg hquote] at h
  rw [if_neg hquote, if_neg hquote]
  by_cases htemplate : c = '`'
  · rw [if_pos htemplate] at h
    rw [if_pos htemplate, if_pos htemplate, append_eq_self h]
  rw [if_neg htemplate] at h
  rw [if_neg htemplate, if_neg htemplate]
  have hslash : (text ++ rest).head? = some '/' <-> (text ++ rest').head? = some '/' :=
    (halike.append text).head?_eq_some_iff (by decide)
  by_cases hline : c = '/' ∧ (text ++ rest).head? = some '/'
  · rw [if_pos hline] at h
    rw [if_pos hline, if_pos (hline.imp_right hslash.mp), skipLine_alike halike h]
  rw [if_neg hline] at h
  rw [if_neg hline, if_neg (mt (And.imp_right hslash.mpr) hline)]
  have hstar : (text ++ rest).head? = some '*' <-> (text ++ rest').head? = some '*' :=
    (halike.append text).head?_eq_some_iff (by decide)
  by_cases hblock : c = '/' ∧ (text ++ rest).head? = some '*'
  · rw [if_pos hblock] at h
    rw [if_pos hblock, if_pos (hblock.imp_right hstar.mp),
      skipBlock_drop_alike halike h]
  · rw [if_neg hblock] at h
    rw [if_neg hblock, if_neg (mt (And.imp_right hstar.mpr) hblock), append_eq_self h]

theorem Open.step_alike {inner : Open} {stack : List Open} {c : Char} {text : List Char}
    (halike : Alike rest rest') (h : (inner.step stack c (text ++ rest)).snd = rest) :
    inner.step stack c (text ++ rest') =
      ((inner.step stack c (text ++ rest)).fst, rest') := by
  cases inner with
  | text =>
      exact textStep_alike halike h
  | code braces =>
      exact codeStep_alike halike h

theorem exists_parts {front cs text skipped : List Char}
    (h : text ++ rest = front ++ cs) (hskipped : skipped <:+ cs)
    (hrest : rest <:+ skipped) :
    exists part later : List Char,
      text = front ++ (part ++ later) ∧ cs = part ++ (later ++ rest) ∧
        skipped = later ++ rest := by
  rcases hrest with ⟨later, rfl⟩
  rcases hskipped with ⟨part, rfl⟩
  refine ⟨part, later, ?_, rfl, rfl⟩
  have heq : text ++ rest = (front ++ (part ++ later)) ++ rest := by
    rw [h, List.append_assoc, List.append_assoc]
  exact List.append_cancel_right heq

theorem skipOpen_alike {stack : List Open} {text : List Char}
    (halike : Alike rest rest') (h : skipOpen stack (text ++ rest) = rest) :
    skipOpen stack (text ++ rest') = rest' := by
  generalize hcs : text ++ rest = cs at h
  induction hlength : cs.length using Nat.strongRecOn generalizing stack text cs with
  | ind n ih =>
      cases stack with
      | nil =>
          rw [skipOpen] at h ⊢
          exact append_eq_self (hcs.trans h)
      | cons inner stack =>
          cases cs with
          | nil =>
              rcases List.append_eq_nil_iff.mp hcs with ⟨rfl, hnil⟩
              rw [halike.eq_nil hnil, List.nil_append, skipOpen]
              rintro ⟨⟩
          | cons c cs =>
              rw [skipOpen_cons] at h
              have hrest := h ▸ skipOpen_suffix _ _
              rcases @exists_parts _ [c] _ _ _ hcs (inner.step_suffix stack c cs) hrest
                with ⟨part, later, rfl, rfl, hlater⟩
              have hshorter :=
                (inner.step_suffix stack c (part ++ (later ++ rest))).length_le
              rw [List.append_assoc, List.append_assoc, List.singleton_append,
                skipOpen_cons, inner.step_alike (halike.append later) hlater]
              exact ih _ (hlength ▸ Nat.lt_succ_of_le hshorter) _ hlater.symm h rfl

theorem skipTemplate_alike {text : List Char} (halike : Alike rest rest')
    (h : skipTemplate (text ++ rest) = rest) : skipTemplate (text ++ rest') = rest' :=
  skipOpen_alike halike h

end

end Script
end RemoteImports
