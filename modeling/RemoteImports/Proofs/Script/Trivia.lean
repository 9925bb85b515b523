import RemoteImports.Script.Skip

/-!
# Words and what stands between them

A word ends where no character can go on with it.  Between words and other
tokens stand blanks and comments, in any number.  The functions that read a
word and that pass over blanks and comments are told here by what they take
from the front of a text.
-/

namespace RemoteImports
namespace Script

/-!
## Words
-/

def IsWord : List Char -> Prop
  | [] => False
  | c :: cs => isWordStart c = true ∧ forall d, d ∈ cs -> isWordPart d = true

instance : DecidablePred IsWord
  | [] => inferInstanceAs (Decidable False)
  | c :: cs => decidable_of_iff (isWordStart c = true ∧ cs.all isWordPart = true)
      (and_congr_right fun _ => List.all_eq_true)

def EndsWord (rest : List Char) : Prop :=
  forall c, rest.head? = some c -> isWordPart c = false

theorem isDigit_iff {c : Char} :
    c.isDigit = true <-> 48 <= c.toNat ∧ c.toNat <= 57 := by
  simp [Char.isDigit, UInt32.le_iff_toNat_le, ← Char.toNat_val]

theorem isAlpha_iff {c : Char} :
    c.isAlpha = true <->
      65 <= c.toNat ∧ c.toNat <= 90 ∨ 97 <= c.toNat ∧ c.toNat <= 122 := by
  have hcases : c.isAlpha =
      (decide (c.val >= 'A'.val ∧ c.val <= 'Z'.val) ||
        (decide (c.val >= 'a'.val) && decide (c.val <= 'z'.val))) := rfl
  rw [hcases]
  simp [UInt32.le_iff_toNat_le, ← Char.toNat_val]

theorem isWordStart_iff {c : Char} :
    isWordStart c = true <->
      65 <= c.toNat ∧ c.toNat <= 90 ∨ 97 <= c.toNat ∧ c.toNat <= 122 ∨
        c.toNat = 95 ∨ c.toNat = 36 ∨ 128 <= c.toNat := by
  have hcode : forall d : Char, c = d <-> c.toNat = d.toNat :=
    fun d => Char.toNat_inj.symm
  simp [isWordStart, isAlpha_iff, hcode, or_assoc]

theorem isDigit_eq_false_of_isWordStart {c : Char} (h : isWordStart c = true) :
    c.isDigit = false := by
  rw [isWordStart_iff] at h
  rw [Bool.eq_false_iff]
  intro hdigit
  rw [isDigit_iff] at hdigit
  omega

theorem ne_of_isWordStart {c d : Char} (h : isWordStart c = true)
    (hd : isWordStart d = false) : c ≠ d := by
  rintro rfl
  rw [h] at hd
  cases hd

theorem isWordPart_of_isWordStart {c : Char} (h : isWordStart c = true) :
    isWordPart c = true := by
  rw [isWordPart, h, Bool.true_or]

theorem IsWord.part {word : List Char} (h : IsWord word) :
    forall c, c ∈ word -> isWordPart c = true := by
  cases word with
  | nil =>
      exact h.elim
  | cons c cs =>
      intro d hmem
      cases hmem with
      | head =>
          exact isWordPart_of_isWordStart h.left
      | tail _ hlater =>
          exact h.right d hlater

theorem IsWord.append {word later : List Char} (hword : IsWord word)
    (hlater : forall c, c ∈ later -> isWordPart c = true) : IsWord (word ++ later) := by
  cases word with
  | nil =>
      exact hword.elim
  | cons c word =>
      refine ⟨hword.left, ?_⟩
      intro d hd
      rcases List.mem_append.mp hd with hin | hin
      · exact hword.right d hin
      · exact hlater d hin

theorem IsWord.head?_append_ne {word : List Char} {c : Char} (h : IsWord word)
    (hc : isWordStart c = false) (rest : List Char) : (word ++ rest).head? ≠ some c := by
  cases word with
  | nil =>
      exact h.elim
  | cons d word =>
      rintro ⟨⟩
      exact ne_of_isWordStart h.left hc rfl

theorem endsWord_cons {c : Char} (hc : isWordPart c = false) (rest : List Char) :
    EndsWord (c :: rest) := by
  rintro d ⟨⟩
  exact hc

theorem endsWord_blank (rest : List Char) : EndsWord (' ' :: rest) :=
  endsWord_cons rfl rest

theorem takeWhile_append_of_endsWord {cs rest : List Char}
    (h : forall c, c ∈ cs -> isWordPart c = true) (hrest : EndsWord rest) :
    (cs ++ rest).takeWhile isWordPart = cs := by
  rw [List.takeWhile_append_of_pos h]
  cases rest with
  | nil =>
      simp
  | cons c rest =>
      simp [hrest c rfl]

theorem dropWhile_append_of_endsWord {cs rest : List Char}
    (h : forall c, c ∈ cs -> isWordPart c = true) (hrest : EndsWord rest) :
    (cs ++ rest).dropWhile isWordPart = rest := by
  rw [List.dropWhile_append_of_pos h]
  cases rest with
  | nil =>
      rfl
  | cons c rest =>
      simp [hrest c rfl]

theorem endsWord_dropWhile (cs : List Char) : EndsWord (cs.dropWhile isWordPart) := by
  intro c hc
  exact Bool.eq_false_iff.mpr fun h => by
    have hnot := List.head?_dropWhile_not isWordPart cs
    rw [hc] at hnot
    simp [h] at hnot

theorem word?_cons_eq_none {c : Char} (h : isWordStart c = false) (cs : List Char) :
    word? (c :: cs) = none := by
  rw [word?, h, if_neg Bool.false_ne_true]

theorem word?_eq_some_iff {cs word rest : List Char} :
    word? cs = some (word, rest) <->
      cs = word ++ rest ∧ IsWord word ∧ EndsWord rest := by
  constructor
  · intro h
    refine ⟨(word?_append h).symm, ?_⟩
    cases cs with
    | nil =>
        cases h
    | cons c cs =>
        rw [word?] at h
        split at h
        · rename_i hstart
          cases h
          refine ⟨⟨hstart, ?_⟩, endsWord_dropWhile cs⟩
          intro d hmem
          exact List.all_eq_true.mp List.all_takeWhile d hmem
        · cases h
  · rintro ⟨rfl, hword, hrest⟩
    cases word with
    | nil =>
        exact hword.elim
    | cons c cs =>
        rw [List.cons_append, word?, if_pos hword.left,
          takeWhile_append_of_endsWord hword.right hrest,
          dropWhile_append_of_endsWord hword.right hrest]

theorem after?_eq_some_iff {cs word rest : List Char} :
    after? word cs = some rest <-> word? cs = some (word, rest) := by
  unfold after?
  cases word? cs with
  | none =>
      simp
  | some found =>
      simp only [Option.some.injEq, Prod.ext_iff]
      split
      · rename_i heq
        simp [heq]
      · rename_i hne
        simp [hne]

/-!
## Blanks and comments
-/

/-- A run of blanks and of comments that end. -/
inductive Trivia : List Char -> Prop where
  | nil : Trivia []
  | blank {c : Char} {cs : List Char} :
      isBlank c = true -> Trivia cs -> Trivia (c :: cs)
  | line {body cs : List Char} :
      '\n' ∉ body -> Trivia cs -> Trivia ('/' :: '/' :: (body ++ '\n' :: cs))
  | block {body cs : List Char} :
      ¬ ['*', '/'] <:+: body -> Trivia cs ->
      Trivia ('/' :: '*' :: (body ++ '*' :: '/' :: cs))

theorem isWordPart_of_isBlank {c : Char} (h : isBlank c = true) :
    isWordPart c = false := by
  have hfeed : c.toNat = 12 -> c = '\x0C' := by
    intro heq
    apply Char.toNat_inj.mp
    exact heq
  simp only [isBlank, Bool.or_eq_true, beq_iff_eq] at h
  rcases h with (((rfl | rfl) | rfl) | rfl) | h
  · decide
  · decide
  · decide
  · decide
  · rw [hfeed h]
    decide

theorem isBlank_eq_false_of_isWordStart {c : Char} (h : isWordStart c = true) :
    isBlank c = false := by
  rw [Bool.eq_false_iff]
  intro hblank
  have hpart := isWordPart_of_isWordStart h
  rw [isWordPart_of_isBlank hblank] at hpart
  cases hpart

theorem isQuote_eq_false_of_isWordStart {c : Char} (h : isWordStart c = true) :
    isQuote c = false := by
  rw [isQuote, Bool.or_eq_false_iff, beq_eq_false_iff_ne, beq_eq_false_iff_ne]
  exact ⟨ne_of_isWordStart h (by decide), ne_of_isWordStart h (by decide)⟩

theorem isBlank_eq_false_of_isQuote {c : Char} (h : isQuote c = true) :
    isBlank c = false ∧ c ≠ '/' := by
  rw [isQuote, Bool.or_eq_true, beq_iff_eq, beq_iff_eq] at h
  rcases h with rfl | rfl <;> decide

theorem isWordStart_eq_false_of_isBlank {c : Char} (h : isBlank c = true) :
    isWordStart c = false := by
  rw [Bool.eq_false_iff]
  intro hstart
  rw [isBlank_eq_false_of_isWordStart hstart] at h
  cases h

theorem isWordStart_eq_false_of_isQuote {c : Char} (h : isQuote c = true) :
    isWordStart c = false := by
  rw [Bool.eq_false_iff]
  intro hstart
  rw [isQuote_eq_false_of_isWordStart hstart] at h
  cases h

theorem Trivia.endsWord {gap : List Char} (h : Trivia gap) (hne : gap ≠ [])
    (rest : List Char) : EndsWord (gap ++ rest) := by
  intro c hc
  cases h with
  | nil =>
      exact absurd rfl hne
  | blank hblank _ =>
      cases hc
      exact isWordPart_of_isBlank hblank
  | line | block =>
      cases hc
      decide

theorem Trivia.of_blanks {text : List Char}
    (h : forall c, c ∈ text -> isBlank c = true) : Trivia text := by
  induction text with
  | nil =>
      exact Trivia.nil
  | cons c text ih =>
      exact Trivia.blank (h c List.mem_cons_self)
        (ih fun d hmem => h d (List.mem_cons_of_mem c hmem))

theorem skipLine_append {body : List Char} (h : '\n' ∉ body) (rest : List Char) :
    skipLine (body ++ '\n' :: rest) = '\n' :: rest := by
  have hbody : forall c, c ∈ body -> (c != '\n') = true := by
    intro c hmem
    rw [bne_iff_ne]
    exact ne_of_mem_of_not_mem hmem h
  rw [skipLine, List.dropWhile_append_of_pos hbody]
  rfl

theorem skipBlock_cons {c : Char} {cs : List Char}
    (h : ¬ (c = '*' ∧ cs.head? = some '/')) : skipBlock (c :: cs) = skipBlock cs := by
  rw [skipBlock]
  intro rest hc hcs
  rw [hcs] at h
  exact h ⟨hc, rfl⟩

theorem skipBlock_append {body : List Char} (h : ¬ ['*', '/'] <:+: body)
    (rest : List Char) : skipBlock (body ++ '*' :: '/' :: rest) = rest := by
  induction body with
  | nil =>
      rw [List.nil_append, skipBlock]
  | cons c body ih =>
      have hnext : ¬ (c = '*' ∧ (body ++ '*' :: '/' :: rest).head? = some '/') := by
        rintro ⟨rfl, hhead⟩
        cases body with
        | nil =>
            cases hhead
        | cons d body =>
            cases hhead
            exact h ⟨[], body, rfl⟩
      rw [List.cons_append, skipBlock_cons hnext]
      exact ih fun hinfix => h (List.infix_cons hinfix)

theorem skipBlock_eq {cs : List Char} (h : skipBlock cs ≠ []) :
    exists body : List Char,
      ¬ ['*', '/'] <:+: body ∧ cs = body ++ '*' :: '/' :: skipBlock cs := by
  fun_induction skipBlock cs with
  | case1 =>
      exact absurd rfl h
  | case2 cs =>
      refine ⟨[], ?_, rfl⟩
      rw [List.infix_nil]
      exact List.cons_ne_nil _ _
  | case3 c cs hnext ih =>
      rcases ih h with ⟨body, hbody, hcs⟩
      refine ⟨c :: body, ?_, congrArg (c :: ·) hcs⟩
      rw [List.infix_cons_iff]
      rintro (hfirst | hinfix)
      · cases body with
        | nil =>
            simp at hfirst
        | cons d body =>
            simp only [List.cons_prefix_cons, List.nil_prefix, and_true] at hfirst
            exact hnext _ hfirst.left.symm (by rw [hcs, ← hfirst.right]; rfl)
      · exact hbody hinfix

theorem skipTrivia_line (cs : List Char) :
    skipTrivia ('/' :: '/' :: cs) = skipTrivia (skipLine cs) := by
  rw [skipTrivia, if_neg (by decide), if_pos ⟨rfl, rfl⟩]
  rfl

theorem skipTrivia_block (cs : List Char) :
    skipTrivia ('/' :: '*' :: cs) = skipTrivia (skipBlock cs) := by
  rw [skipTrivia, if_neg (by decide), if_neg (by simp), if_pos ⟨rfl, rfl⟩]
  rfl

theorem skipTrivia_append {gap : List Char} (h : Trivia gap) (rest : List Char) :
    skipTrivia (gap ++ rest) = skipTrivia rest := by
  induction h with
  | nil =>
      rfl
  | blank hblank _ ih =>
      rw [List.cons_append, skipTrivia, if_pos hblank, ih]
  | @line body cs hbody _ ih =>
      rw [List.cons_append, List.cons_append, List.append_assoc, List.cons_append,
        skipTrivia_line, skipLine_append hbody, skipTrivia, if_pos (by decide), ih]
  | @block body cs hbody _ ih =>
      rw [List.cons_append, List.cons_append, List.append_assoc, List.cons_append,
        List.cons_append, skipTrivia_block, skipBlock_append hbody, ih]

theorem skipLine_eq (cs : List Char) :
    skipLine cs = [] ∨
      exists body later : List Char,
        '\n' ∉ body ∧ skipLine cs = '\n' :: later ∧ cs = body ++ '\n' :: later := by
  have hsplit : cs.takeWhile (· != '\n') ++ skipLine cs = cs :=
    List.takeWhile_append_dropWhile
  have hbody : '\n' ∉ cs.takeWhile (· != '\n') := by
    intro hmem
    cases List.all_eq_true.mp List.all_takeWhile _ hmem
  cases hline : skipLine cs with
  | nil =>
      exact Or.inl rfl
  | cons c later =>
      have hc : c = '\n' := by
        have hnot := List.head?_dropWhile_not (· != '\n') cs
        rw [← skipLine, hline] at hnot
        simpa using hnot
      rw [hc] at hline ⊢
      rw [hline] at hsplit
      exact Or.inr ⟨_, later, hbody, rfl, hsplit.symm⟩

@[simp] theorem skipTrivia_nil : skipTrivia [] = [] := by
  rw [skipTrivia]

theorem skipTrivia_cons_of_ne {c : Char} (hblank : isBlank c = false) (hslash : c ≠ '/')
    (rest : List Char) : skipTrivia (c :: rest) = c :: rest := by
  rw [skipTrivia, hblank, if_neg Bool.false_ne_true, if_neg fun h => hslash h.left,
    if_neg fun h => hslash h.left]

theorem IsWord.skipTrivia_append {word : List Char} (h : IsWord word) (rest : List Char) :
    skipTrivia (word ++ rest) = word ++ rest := by
  cases word with
  | nil =>
      exact h.elim
  | cons c word =>
      exact skipTrivia_cons_of_ne (isBlank_eq_false_of_isWordStart h.left)
        (ne_of_isWordStart h.left (by decide)) (word ++ rest)

theorem skipTrivia_cons_of_isBlank {c : Char} (h : isBlank c = true)
    (cs : List Char) : skipTrivia (c :: cs) = skipTrivia cs := by
  rw [skipTrivia, if_pos h]

theorem skipTrivia_ne_of_isBlank {c : Char} (h : isBlank c = true)
    (cs : List Char) : skipTrivia (c :: cs) ≠ c :: cs := by
  intro heq
  rw [skipTrivia_cons_of_isBlank h] at heq
  have hlength := (skipTrivia_suffix cs).length_le
  rw [heq, List.length_cons] at hlength
  omega

/-- What is passed over before a token is a run of blanks and comments. -/
theorem skipTrivia_eq {cs : List Char} (h : skipTrivia cs ≠ []) :
    exists gap : List Char, Trivia gap ∧ cs = gap ++ skipTrivia cs := by
  fun_induction skipTrivia cs with
  | case1 =>
      exact absurd rfl h
  | case2 c cs hblank ih =>
      rcases ih h with ⟨gap, hgap, hcs⟩
      exact ⟨c :: gap, Trivia.blank hblank hgap, congrArg (c :: ·) hcs⟩
  | case3 c cs _ hline _ ih =>
      rcases hline with ⟨rfl, hslash⟩
      rcases List.head?_eq_some_iff.mp hslash with ⟨inside, rfl⟩
      rcases ih h with ⟨gap, hgap, hcs⟩
      have hinside : skipLine ('/' :: inside) = skipLine inside := rfl
      rw [hinside] at hcs h ⊢
      rcases skipLine_eq inside with hnil | ⟨body, later, hbody, hline, hsplit⟩
      · rw [hnil, skipTrivia_nil] at h
        exact absurd rfl h
      · rw [hline] at hcs ⊢
        cases hgap with
        | nil =>
            exact absurd hcs.symm (skipTrivia_ne_of_isBlank (by decide) later)
        | @blank c gap _ hgap =>
            refine ⟨'/' :: '/' :: (body ++ '\n' :: gap), Trivia.line hbody hgap, ?_⟩
            have hlater := (List.cons.inj hcs).right
            calc '/' :: '/' :: inside
                = '/' :: '/' :: (body ++ '\n' :: later) := by
                  rw [← hsplit]
              _ = '/' :: '/' :: (body ++ '\n' ::
                    (gap ++ skipTrivia ('\n' :: later))) :=
                  congrArg (fun text => '/' :: '/' :: (body ++ '\n' :: text)) hlater
              _ = _ := by
                  simp only [List.cons_append, List.append_assoc]
        | line | block =>
            cases hcs
  | case4 c cs _ _ hblock _ ih =>
      rcases hblock with ⟨rfl, hstar⟩
      rcases List.head?_eq_some_iff.mp hstar with ⟨inside, rfl⟩
      rcases ih h with ⟨gap, hgap, hcs⟩
      have hne : skipBlock inside ≠ [] := by
        intro hnil
        rw [List.drop_one, List.tail_cons, hnil, skipTrivia_nil] at h
        exact h rfl
      rcases skipBlock_eq hne with ⟨body, hbody, hsplit⟩
      refine ⟨'/' :: '*' :: (body ++ '*' :: '/' :: gap), Trivia.block hbody hgap, ?_⟩
      rw [List.drop_one, List.tail_cons] at hcs ⊢
      calc '/' :: '*' :: inside
          = '/' :: '*' :: (body ++ '*' :: '/' :: skipBlock inside) := by rw [← hsplit]
        _ = '/' :: '*' :: (body ++ '*' :: '/' :: (gap ++ skipTrivia (skipBlock inside))) := by
            rw [← hcs]
        _ = _ := by
            simp only [List.cons_append, List.append_assoc]
  | case5 c cs =>
      exact ⟨[], Trivia.nil, rfl⟩

end Script
end RemoteImports
