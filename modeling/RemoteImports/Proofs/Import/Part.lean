import RemoteImports.Proofs.Import.Runs
import RemoteImports.Proofs.Script.Locality

/-!
# Parts that are passed over whole

A comment, a template, a regular expression and a literal are passed over in one
step, and the step depends on nothing but where the part ends.  A part may stand
for another of its kind if neither can be read by a declaration that began
before it: a comment is passed over there as well, and no declaration goes on
with a template, with a regular expression or, behind most tokens, with a
literal.
-/

namespace RemoteImports
namespace Import

open Script

inductive Part where
  | line
  | block
  | template
  | regex
  | quoted (quote : Char)

def Part.opening : Part -> List Char
  | line => ['/', '/']
  | block => ['/', '*']
  | template => ['`']
  | regex => ['/']
  | quoted quote => [quote]

def Part.skip : Part -> List Char -> List Char
  | line => skipLine
  | block => skipBlock
  | template => skipTemplate
  | regex => skipRegex false
  | quoted quote => skipString quote

/-- Before the text `rest`, just this piece of text is taken as such a part. -/
inductive Part.Takes (part : Part) (rest : List Char) : List Char -> Prop where
  | intro {inside : List Char} :
      part.skip (inside ++ rest) = rest ->
      (part = .regex -> inside.head? ≠ some '/' ∧ inside.head? ≠ some '*') ->
      Takes part rest (part.opening ++ inside)

def Last.leads : Last -> Bool
  | start => false
  | punctuation c => c == '{' || c == ','
  | word _ => true
  | value => false

/-- The states in which the scan meets such a part where no declaration can
read it. -/
def Part.Met (state : State) : Part -> Prop
  | line | block | template => True
  | regex => state.last.allowsRegex = true
  | quoted quote => isQuote quote = true ∧ state.last.leads = false

def Part.isComment : Part -> Bool
  | line | block => true
  | template | regex | quoted _ => false

def Part.last (last : Last) (part : Part) : Last :=
  if part.isComment then last else .value

structure Masked (state : State) (cs cs' : List Char) : Prop where
  head : exists (c : Char) (behind behind' : List Char),
    cs = c :: behind ∧ cs' = c :: behind' ∧ c ∈ ['/', '`', '"', '\''] ∧
      (isQuote c = true -> state.last.leads = false)
  trivia : skipTrivia cs = skipTrivia cs' ∨ skipTrivia cs = cs ∧ skipTrivia cs' = cs'

section

variable {state : State} {part : Part} {c : Char} {piece piece' inside rest : List Char}

/-!
# The step over a part
-/

theorem head?_of_skipRegex_eq_self {cs : List Char} (h : skipRegex false cs = cs) :
    cs.head? ≠ some '/' ∧ cs.head? ≠ some '*' := by
  have hlonger : forall {c : Char} {cs skipped : List Char}, skipped <:+ cs ->
      skipped ≠ c :: cs := by
    rintro c cs skipped hsuffix rfl
    exact absurd hsuffix.length_le (Nat.not_succ_le_self cs.length)
  cases cs with
  | nil =>
      exact ⟨nofun, nofun⟩
  | cons c cs =>
      simp only [List.head?_cons, ne_eq, Option.some.injEq]
      constructor
      · rintro rfl
        rw [skipRegex_cons (by rintro ⟨⟩)] at h
        exact hlonger (List.dropWhile_suffix isWordPart) h
      · rintro rfl
        rw [skipRegex_cons (by rintro ⟨⟩)] at h
        exact hlonger (skipRegex_suffix false cs) h

theorem head?_of_takes_regex (hskip : skipRegex false (inside ++ rest) = rest)
    (hfirst : inside.head? ≠ some '/' ∧ inside.head? ≠ some '*') :
    (inside ++ rest).head? ≠ some '/' ∧ (inside ++ rest).head? ≠ some '*' := by
  cases inside with
  | nil =>
      exact head?_of_skipRegex_eq_self hskip
  | cons c inside =>
      exact hfirst

theorem mem_of_isQuote (h : isQuote c = true) : c ∈ ['/', '`', '"', '\''] := by
  rw [isQuote, Bool.or_eq_true, beq_iff_eq, beq_iff_eq] at h
  rcases h with rfl | rfl <;> decide

theorem Part.runs (hmet : part.Met state) (htakes : part.Takes rest piece) :
    Runs state (piece ++ rest) { state with last := part.last state.last } rest := by
  cases htakes with
  | @intro inside hskip hregex =>
      rw [List.append_assoc]
      cases part with
      | line =>
          have hstep := state.step_line (inside ++ rest)
          rw [show skipLine (inside ++ rest) = rest from hskip] at hstep
          exact Runs.of_pass hstep
      | block =>
          have hstep := state.step_block (inside ++ rest)
          rw [show skipBlock (inside ++ rest) = rest from hskip] at hstep
          exact Runs.of_pass hstep
      | template =>
          have hstep := state.step_template (inside ++ rest)
          rw [show skipTemplate (inside ++ rest) = rest from hskip] at hstep
          exact Runs.of_pass hstep
      | regex =>
          have hhead := head?_of_takes_regex hskip (hregex rfl)
          have hstep := state.step_slash hhead.left hhead.right
          rw [if_pos (show state.last.allowsRegex = true from hmet),
            show skipRegex false (inside ++ rest) = rest from hskip] at hstep
          exact Runs.of_pass hstep
      | quoted quote =>
          have hstep := state.step_quote hmet.left (inside ++ rest)
          rw [show skipString quote (inside ++ rest) = rest from hskip] at hstep
          exact Runs.of_pass hstep

/-!
# What a declaration sees of a part
-/

theorem skipTrivia_slash {cs : List Char}
    (h : cs.head? ≠ some '/' ∧ cs.head? ≠ some '*') :
    skipTrivia ('/' :: cs) = '/' :: cs := by
  rw [skipTrivia, if_neg (by decide), if_neg fun hline => h.left hline.right,
    if_neg fun hblock => h.right hblock.right]

/-- A comment is passed over, and the other parts stand where they are. -/
theorem Part.skipTrivia (hmet : part.Met state) (htakes : part.Takes rest piece) :
    Script.skipTrivia (piece ++ rest) =
      if part.isComment then Script.skipTrivia rest else piece ++ rest := by
  cases htakes with
  | @intro inside hskip hregex =>
      rw [List.append_assoc]
      cases part with
      | line =>
          exact (skipTrivia_line (inside ++ rest)).trans (congrArg Script.skipTrivia hskip)
      | block =>
          exact (skipTrivia_block (inside ++ rest)).trans (congrArg Script.skipTrivia hskip)
      | template =>
          exact skipTrivia_cons_of_ne (by decide) (by decide) (inside ++ rest)
      | regex =>
          have hhead := head?_of_takes_regex hskip (hregex rfl)
          exact skipTrivia_slash hhead
      | quoted quote =>
          have hquote := isBlank_eq_false_of_isQuote hmet.left
          exact skipTrivia_cons_of_ne hquote.left hquote.right (inside ++ rest)

theorem Part.head (hmet : part.Met state) :
    exists (c : Char) (behind : List Char),
      part.opening = c :: behind ∧ c ∈ ['/', '`', '"', '\''] ∧
        (isQuote c = true -> state.last.leads = false) := by
  cases part with
  | line | block | template | regex =>
      exact ⟨_, _, rfl, by decide, fun hquote => by cases hquote⟩
  | quoted quote =>
      exact ⟨quote, [], rfl, mem_of_isQuote hmet.left, fun _ => hmet.right⟩

end

end Import
end RemoteImports
