import RemoteImports.Import.Clause
import RemoteImports.Text.Bytes

/-!
# Finding the imports of a script

A script is gone through token by token, at the grain that finding imports needs: which
parts are comments, text literals, templates or regular expressions, how deep in brackets
a place is, and whether a slash divides or begins a regular expression. A declaration is
one only outside all brackets and where `import` is no property.
-/

namespace RemoteImports
namespace Import

open Script

/-- The last token, as far as what may follow depends on it. -/
inductive Last where
  | start
  | punctuation (c : Char)
  | word (beforeOperand : Bool)
  | value
deriving DecidableEq

/-- The words behind which a slash begins a regular expression. -/
def operandWords : List (List Char) :=
  ["return", "typeof", "instanceof", "in", "of", "new", "delete", "void", "throw", "case", "do",
    "else", "yield", "await"].map String.toList

/-- Whether a slash behind the last token begins a regular expression. -/
def Last.allowsRegex : Last -> Bool
  | start => true
  | punctuation c => c != ')' && c != ']'
  | word beforeOperand => beforeOperand
  | value => false

/-- How deep in brackets the scan is, and the last token. -/
structure State where
  depth : Nat
  last : Last
deriving DecidableEq

def State.start : State := { depth := 0, last := .start }

/-- What one step yields: a declaration that was read, if any, the next state and the text
left. -/
structure Step where
  clause : Option Clause
  state : State
  rest : List Char

def State.pass (state : State) (last : Last) (rest : List Char) : Step :=
  { clause := none, state := { state with last }, rest }

def State.stepWord (state : State) (word rest : List Char) : Step :=
  let plain := state.pass (.word (operandWords.contains word)) rest
  if word = ['i', 'm', 'p', 'o', 'r', 't'] ∧ state.depth = 0 ∧ state.last ≠ .punctuation '.' then
    match clause? rest with
    | some (clause, rest) =>
      { clause := some clause, state := { state with last := .punctuation ';' }, rest }
    | none => plain
  else plain

/-- The step at a character that begins no blank and no comment. -/
def State.stepToken (state : State) (c : Char) (cs : List Char) : Step :=
  if isQuote c then state.pass .value (skipString c cs)
  else if c = '`' then state.pass .value (skipTemplate cs)
  else if c = '/' then
    if state.last.allowsRegex then state.pass .value (skipRegex false cs)
    else state.pass (.punctuation c) cs
  else if c = '{' ∨ c = '(' ∨ c = '[' then
    { state with depth := state.depth + 1 }.pass (.punctuation c) cs
  else if c = '}' ∨ c = ')' ∨ c = ']' then
    { state with depth := state.depth - 1 }.pass (.punctuation c) cs
  else if c.isDigit then state.pass .value (cs.dropWhile fun d => isWordPart d || d == '.')
  else if isWordStart c then
    state.stepWord (c :: cs.takeWhile isWordPart) (cs.dropWhile isWordPart)
  else state.pass (.punctuation c) cs

def State.step (state : State) (c : Char) (cs : List Char) : Step :=
  if isBlank c then state.pass state.last cs
  else if c = '/' ∧ cs.head? = some '/' then state.pass state.last (skipLine cs)
  else if c = '/' ∧ cs.head? = some '*' then state.pass state.last (skipBlock (cs.drop 1))
  else state.stepToken c cs

theorem finish?_suffix {cs rest : List Char} (h : finish? cs = some rest) : rest <:+ cs := by
  simp only [finish?] at h
  split at h
  · simp at h
  · split at h
    · rename_i r hb
      simp only [Option.some.injEq] at h
      have hdrop : ';' :: r <:+ cs := hb ▸ List.dropWhile_suffix _
      exact h ▸ (List.suffix_cons ';' r).trans hdrop
    · simp only [Option.some.injEq] at h
      exact h ▸ List.suffix_rfl

theorem source?_suffix {cs rest : List Char} {source : String}
    (h : source? cs = some (source, rest)) : rest <:+ cs := by
  simp only [source?, Option.bind_eq_bind, Option.bind_eq_some_iff, Option.pure_def,
    Option.some.injEq, Prod.mk.injEq, Prod.exists] at h
  rcases h with ⟨_, r1, h1, _, h2, _, rfl⟩
  exact (finish?_suffix h2).trans (literal?_suffix h1)

theorem bracedList?_suffix {cs rest : List Char} {specifiers : List Specifier}
    (h : bracedList? cs = some (specifiers, rest)) : rest <:+ cs := by
  fun_induction bracedList? cs generalizing specifiers rest with
  | case1 =>
      simp at h
  | case2 cs inside heq =>
      simp only [Option.some.injEq, Prod.mk.injEq] at h
      have hopen : '}' :: inside <:+ cs := heq ▸ skipTrivia_suffix cs
      exact h.2 ▸ (List.suffix_cons '}' inside).trans hopen
  | case3 =>
      simp at h
  | case4 =>
      simp at h
  | case5 cs c inside heq _ specifier rest' hentry ih =>
      simp only [Option.map_eq_some_iff, Prod.exists, Prod.mk.injEq] at h
      rcases h with ⟨_, r, hr, _, rfl⟩
      have hopen : c :: inside <:+ cs := heq ▸ skipTrivia_suffix cs
      have hcomma := (List.suffix_cons ',' rest').trans (braced?_suffix hentry)
      exact (ih hr).trans (hcomma.trans hopen)
  | case6 cs c inside heq _ specifier rest' hentry =>
      simp only [Option.some.injEq, Prod.mk.injEq] at h
      have hopen : c :: inside <:+ cs := heq ▸ skipTrivia_suffix cs
      have hbrace := (List.suffix_cons '}' rest').trans (braced?_suffix hentry)
      exact h.2 ▸ hbrace.trans hopen
  | case7 =>
      simp at h

theorem group?_suffix {cs rest : List Char} {specifiers : List Specifier}
    (h : group? cs = some (specifiers, rest)) : rest <:+ cs := by
  unfold group? at h
  split at h
  · rename_i inside
    simp only [Option.bind_eq_bind, Option.bind_eq_some_iff, Option.pure_def,
      Option.some.injEq, Prod.mk.injEq, Prod.exists] at h
    rcases h with ⟨_, r, h1, _, rfl⟩
    have hinside := (binding?_suffix h1).trans (skipTrivia_suffix inside)
    exact hinside.trans (List.suffix_cons '*' inside)
  · rename_i inside
    simp only [Option.bind_eq_bind, Option.bind_eq_some_iff, Option.pure_def,
      Option.some.injEq, Prod.mk.injEq, Prod.exists] at h
    rcases h with ⟨_, r, h1, _, rfl⟩
    have hinside := (skipTrivia_suffix r).trans (bracedList?_suffix h1)
    exact hinside.trans (List.suffix_cons '{' inside)
  · simp at h

theorem specifiers?_suffix {cs rest : List Char} {specifiers : List Specifier}
    (h : specifiers? cs = some (specifiers, rest)) : rest <:+ cs := by
  unfold specifiers? at h
  split at h
  · exact group?_suffix h
  · rename_i name r hw
    have hname := (skipTrivia_suffix r).trans (word?_suffix hw)
    simp only at h
    split at h
    · rename_i r' heq
      simp only [Option.bind_eq_bind, Option.bind_eq_some_iff, Option.pure_def,
        Option.some.injEq, Prod.mk.injEq, Prod.exists] at h
      rcases h with ⟨_, r'', h1, _, rfl⟩
      have hcomma := (List.suffix_cons ',' r').trans (heq ▸ hname)
      exact (group?_suffix h1).trans ((skipTrivia_suffix r').trans hcomma)
    · simp only [Option.some.injEq, Prod.mk.injEq] at h
      rcases h with ⟨_, rfl⟩
      exact hname

theorem clause?_suffix {cs rest : List Char} {clause : Clause}
    (h : clause? cs = some (clause, rest)) : rest <:+ cs := by
  simp only [clause?] at h
  have htrivia := skipTrivia_suffix cs
  split at h
  · simp only [Option.bind_eq_bind, Option.bind_eq_some_iff, Option.pure_def,
      Option.some.injEq, Prod.mk.injEq, Prod.exists] at h
    rcases h with ⟨_, r, h1, _, rfl⟩
    exact (source?_suffix h1).trans htrivia
  · split at h
    · simp at h
    · simp only [Option.bind_eq_bind, Option.bind_eq_some_iff, Option.pure_def,
        Option.some.injEq, Prod.mk.injEq, Prod.exists] at h
      rcases h with ⟨_, r1, h1, r2, h2, _, r3, h3, _, rfl⟩
      have hspecifiers := (specifiers?_suffix h1).trans htrivia
      have hfrom := (after?_suffix h2).trans hspecifiers
      exact (source?_suffix h3).trans ((skipTrivia_suffix r2).trans hfrom)

theorem State.stepWord_suffix (state : State) (word rest : List Char) :
    (state.stepWord word rest).rest <:+ rest := by
  simp only [stepWord]
  split
  · split
    · rename_i clause r h
      exact clause?_suffix h
    · exact List.suffix_rfl
  · exact List.suffix_rfl

theorem State.stepToken_suffix (state : State) (c : Char) (cs : List Char) :
    (state.stepToken c cs).rest <:+ cs := by
  unfold stepToken
  split
  · exact skipString_suffix c cs
  split
  · exact skipTemplate_suffix cs
  split
  · split
    · exact skipRegex_suffix false cs
    · exact List.suffix_rfl
  split
  · exact List.suffix_rfl
  split
  · exact List.suffix_rfl
  split
  · exact List.dropWhile_suffix _
  split
  · exact (stepWord_suffix _ _ _).trans (List.dropWhile_suffix _)
  · exact List.suffix_rfl

theorem State.step_suffix (state : State) (c : Char) (cs : List Char) :
    (state.step c cs).rest <:+ cs := by
  unfold step
  split
  · exact List.suffix_rfl
  split
  · exact skipLine_suffix cs
  split
  · exact skipBlock_drop_suffix cs
  · exact stepToken_suffix state c cs

/-- The declarations in the rest of a script of `total` bytes, in their order. -/
def scan (total : Nat) (state : State) (cs : List Char) : List Declaration :=
  match cs with
  | [] => []
  | c :: cs =>
    let step := state.step c cs
    have := (state.step_suffix c cs).length_le
    let later := scan total step.state step.rest
    match step.clause with
    | none => later
    | some clause =>
      { specifiers := clause.specifiers
        source := clause.source
        start := total - Text.byteLength (c :: cs)
        stop := total - Text.byteLength step.rest } :: later
termination_by cs.length

/-- A script without its first line, if that line names an interpreter. -/
def skipInterpreter (cs : List Char) : List Char :=
  match cs with
  | '#' :: '!' :: _ => skipLine cs
  | _ => cs

/-- The import declarations at the top level of a script, in their order, with the places
where they are. -/
def declarations (script : String) : List Declaration :=
  let cs := script.toList
  scan (Text.byteLength cs) .start (skipInterpreter cs)

/-- The declarations of a script as they are handed out. Only for a script of fewer than
`placeLimit` bytes are the places sure to be those where they are. -/
def keptDeclarations (script : String) : List Declaration :=
  (declarations script).map Declaration.kept

end Import
end RemoteImports
