import RemoteImports.Proofs.Script.Locality

/-!
# The code of a substitution

The code in a template is passed over by its braces, quotes and comments alone.
All other characters are passed over one at a time, and a slash that begins no
comment is one of them: regular expressions are not known there.
-/

namespace RemoteImports
namespace Script

def partMarks : List Char := ['"', '\'', '`', '/']

def codeMarks : List Char := '{' :: '}' :: partMarks

/-- Before the text `rest`, a text with its braces in pairs, without quotes and
without comments. -/
inductive Bland (rest : List Char) : Nat -> List Char -> Prop where
  | nil : Bland rest 0 []
  | opening {braces : Nat} {text : List Char} :
      Bland rest (braces + 1) text -> Bland rest braces ('{' :: text)
  | closing {braces : Nat} {text : List Char} :
      Bland rest braces text -> Bland rest (braces + 1) ('}' :: text)
  | slash {braces : Nat} {text : List Char} :
      (text ++ rest).head? ≠ some '/' -> (text ++ rest).head? ≠ some '*' ->
      Bland rest braces text -> Bland rest braces ('/' :: text)
  | plain {braces : Nat} {c : Char} {text : List Char} :
      c ∉ codeMarks -> Bland rest braces text -> Bland rest braces (c :: text)

section

variable {stack outer : List Open} {braces : Nat} {c : Char} {text cs rest : List Char}

/-!
# What is open inside and outside
-/

theorem Open.step_append (inner : Open) (stack outer : List Open) (c : Char)
    (cs : List Char) :
    inner.step (stack ++ outer) c cs =
      ((inner.step stack c cs).fst ++ outer, (inner.step stack c cs).snd) := by
  cases inner with
  | text =>
      rw [Open.step, Open.step, textStep, textStep]
      repeat' split
      all_goals rfl
  | code braces =>
      rw [Open.step, Open.step, codeStep, codeStep]
      repeat' split
      all_goals rfl

/-- What is open outside waits until what is open inside has ended. -/
theorem skipOpen_append (stack outer : List Open) (cs : List Char) :
    skipOpen (stack ++ outer) cs = skipOpen outer (skipOpen stack cs) := by
  induction hlength : cs.length using Nat.strongRecOn generalizing stack cs with
  | ind n ih =>
      cases stack with
      | nil =>
          rw [List.nil_append, skipOpen.eq_1]
      | cons inner stack =>
          cases cs with
          | nil =>
              cases outer with
              | nil =>
                  rw [List.append_nil, skipOpen.eq_1]
              | cons next outer =>
                  rw [List.cons_append, skipOpen, skipOpen, skipOpen] <;> rintro ⟨⟩
          | cons c cs =>
              have hshorter := (inner.step_suffix stack c cs).length_le
              rw [List.cons_append, skipOpen_cons, skipOpen_cons, inner.step_append]
              exact ih _ (hlength ▸ Nat.lt_succ_of_le hshorter) _ _ rfl

/-!
# Steps in code
-/

theorem skipOpen_opening (cs : List Char) :
    skipOpen (.code braces :: outer) ('{' :: cs) =
      skipOpen (.code (braces + 1) :: outer) cs := by
  rw [skipOpen_cons]
  rfl

theorem skipOpen_closing (cs : List Char) :
    skipOpen (.code (braces + 2) :: outer) ('}' :: cs) =
      skipOpen (.code (braces + 1) :: outer) cs := by
  rw [skipOpen_cons]
  rfl

theorem skipOpen_end (cs : List Char) :
    skipOpen (.code 1 :: outer) ('}' :: cs) = skipOpen outer cs := by
  rw [skipOpen_cons]
  rfl

theorem skipOpen_quote (h : isQuote c = true) (cs : List Char) :
    skipOpen (.code braces :: outer) (c :: cs) =
      skipOpen (.code braces :: outer) (skipString c cs) := by
  have hopen : c ≠ '{' ∧ c ≠ '}' := by
    rw [isQuote, Bool.or_eq_true, beq_iff_eq, beq_iff_eq] at h
    rcases h with rfl | rfl <;> decide
  rw [skipOpen_cons, Open.step, codeStep, if_neg hopen.left, if_neg hopen.right, if_pos h]

theorem skipOpen_template (cs : List Char) :
    skipOpen (.code braces :: outer) ('`' :: cs) =
      skipOpen (.code braces :: outer) (skipTemplate cs) := by
  rw [skipOpen_cons, skipTemplate]
  exact skipOpen_append [.text] (.code braces :: outer) cs

theorem skipOpen_line (cs : List Char) :
    skipOpen (.code braces :: outer) ('/' :: '/' :: cs) =
      skipOpen (.code braces :: outer) (skipLine cs) := by
  rw [skipOpen_cons]
  rfl

theorem skipOpen_block (cs : List Char) :
    skipOpen (.code braces :: outer) ('/' :: '*' :: cs) =
      skipOpen (.code braces :: outer) (skipBlock cs) := by
  rw [skipOpen_cons]
  rfl

theorem skipOpen_slash (hline : cs.head? ≠ some '/') (hblock : cs.head? ≠ some '*') :
    skipOpen (.code braces :: outer) ('/' :: cs) =
      skipOpen (.code braces :: outer) cs := by
  rw [skipOpen_cons, Open.step, codeStep, if_neg (by decide), if_neg (by decide),
    if_neg (by decide), if_neg (by decide), if_neg fun h => hline h.right,
    if_neg fun h => hblock h.right]

theorem skipOpen_plain (h : c ∉ codeMarks) (cs : List Char) :
    skipOpen (.code braces :: outer) (c :: cs) =
      skipOpen (.code braces :: outer) cs := by
  simp only [codeMarks, partMarks, List.mem_cons, List.not_mem_nil, or_false, not_or] at h
  rcases h with ⟨hopen, hclose, hdouble, hsingle, htemplate, hslash⟩
  have hquote : ¬ isQuote c = true := by
    rw [isQuote, Bool.or_eq_true, beq_iff_eq, beq_iff_eq]
    exact not_or.mpr ⟨hdouble, hsingle⟩
  rw [skipOpen_cons, Open.step, codeStep, if_neg hopen, if_neg hclose, if_neg hquote,
    if_neg htemplate, if_neg fun h => hslash h.left, if_neg fun h => hslash h.left]

/-!
# Texts in code
-/

theorem skipOpen_append_plain (h : forall c, c ∈ text -> c ∉ codeMarks) (cs : List Char) :
    skipOpen (.code braces :: outer) (text ++ cs) =
      skipOpen (.code braces :: outer) cs := by
  induction text with
  | nil =>
      rfl
  | cons c text ih =>
      rw [List.cons_append, skipOpen_plain (h c List.mem_cons_self)]
      exact ih fun d hmem => h d (List.mem_cons_of_mem c hmem)

theorem not_mem_codeMarks_of_isBlank (h : isBlank c = true) : c ∉ codeMarks := by
  intro hmem
  simp only [codeMarks, partMarks, List.mem_cons, List.not_mem_nil, or_false] at hmem
  rcases hmem with rfl | rfl | rfl | rfl | rfl | rfl <;> cases h

theorem not_mem_codeMarks_of_isWordPart (h : isWordPart c = true) : c ∉ codeMarks := by
  intro hmem
  simp only [codeMarks, partMarks, List.mem_cons, List.not_mem_nil, or_false] at hmem
  rcases hmem with rfl | rfl | rfl | rfl | rfl | rfl <;> cases h

theorem Trivia.skipOpen {gap : List Char} (h : Trivia gap) (cs : List Char) :
    skipOpen (.code braces :: outer) (gap ++ cs) =
      skipOpen (.code braces :: outer) cs := by
  induction h with
  | nil =>
      rfl
  | blank hblank _ ih =>
      rw [List.cons_append, skipOpen_plain (not_mem_codeMarks_of_isBlank hblank), ih]
  | @line body gap hbody _ ih =>
      rw [List.cons_append, List.cons_append, List.append_assoc, List.cons_append,
        skipOpen_line, skipLine_append hbody, skipOpen_plain (by decide), ih]
  | @block body gap hbody _ ih =>
      rw [List.cons_append, List.cons_append, List.append_assoc, List.cons_append,
        List.cons_append, skipOpen_block, skipBlock_append hbody, ih]

theorem head?_append_brace_ne (h : cs.head? ≠ some c) (hc : c ≠ '}') (rest : List Char) :
    (cs ++ '}' :: rest).head? ≠ some c := by
  cases cs with
  | nil =>
      rintro ⟨⟩
      exact hc rfl
  | cons d cs =>
      exact h

theorem Bland.skipOpen (h : Bland rest braces text) (n : Nat) (tail : List Char) :
    skipOpen (.code (braces + n + 1) :: outer) (text ++ (rest ++ '}' :: tail)) =
      skipOpen (.code (n + 1) :: outer) (rest ++ '}' :: tail) := by
  induction h with
  | nil =>
      rw [Nat.zero_add]
      rfl
  | @opening braces text _ ih =>
      rw [List.cons_append, skipOpen_opening, ← ih]
      congr 3
      omega
  | @closing braces text _ ih =>
      have hcount : braces + 1 + n + 1 = braces + n + 2 := by
        omega
      rw [List.cons_append, hcount, skipOpen_closing, ih]
  | slash hline hblock _ ih =>
      have hline' := head?_append_brace_ne hline (by decide) tail
      have hblock' := head?_append_brace_ne hblock (by decide) tail
      rw [List.append_assoc] at hline' hblock'
      rw [List.cons_append, skipOpen_slash hline' hblock', ih]
  | plain hplain _ ih =>
      rw [List.cons_append, skipOpen_plain hplain, ih]

end

end Script
end RemoteImports
