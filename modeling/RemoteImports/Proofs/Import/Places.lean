import RemoteImports.Proofs.Import.Agreement
import RemoteImports.Proofs.Import.Derivation
import RemoteImports.Proofs.Import.Octets

/-!
# Scanning by places

The scan may go from place to place among the octets of a script.  A backslash
may bring it to a place within a character or behind the end, but where a word
or a literal is cut out, it is at the beginning of a character.  So it goes to
the end without a slice out of place, and finds the declarations of the script
with their places in 32 bits.
-/

namespace RemoteImports
namespace Import

open Script Text

/-- What one step at a place yields. -/
structure Stride where
  declaration : Option Declaration
  state : State
  place : Nat

def State.reach (state : State) (last : Last) (place : Nat) : Stride :=
  { declaration := none, state := { state with last }, place }

def isNumberPart (c : Char) : Bool :=
  isWordPart c || c == '.'

def State.strideWord (state : State) (cs : List Char) (place : Nat) : Option Stride := do
  let (word, stop) := (← (wordAt cs place).run).getD ([], place)
  let plain := state.reach (.word (operandWords.contains word)) stop
  if word = importWord ∧ state.depth = 0 ∧ state.last ≠ .punctuation '.' then
    match ← (clauseAt cs stop).run with
    | some (clause, behind) =>
      return {
        declaration := some (clause.declaration (kept place) (kept behind))
        state := { state with last := .punctuation ';' }
        place := behind }
    | none => return plain
  else return plain

def State.strideToken (state : State) (cs : List Char) (c : Char) (place : Nat) :
    Option Stride :=
  let bs := (octets cs).drop (place + 1)
  if isQuote c then some (state.reach .value (place + 1 + stringMove c bs))
  else if c = '`' then some (state.reach .value (place + 1 + openMove [.text] bs))
  else if c = '/' then
    if state.last.allowsRegex then some (state.reach .value (place + 1 + regexMove false bs))
    else some (state.reach (.punctuation c) (place + 1))
  else if c = '{' ∨ c = '(' ∨ c = '[' then
    some ({ state with depth := state.depth + 1 }.reach (.punctuation c) (place + 1))
  else if c = '}' ∨ c = ')' ∨ c = ']' then
    some ({ state with depth := state.depth - 1 }.reach (.punctuation c) (place + 1))
  else if c.isDigit then
    some (state.reach .value
      (place + (((octets cs).drop place).takeWhile isNumberPart).length))
  else if isWordStart c then state.strideWord cs place
  else some (state.reach (.punctuation c) (place + 1))

def State.stride (state : State) (cs : List Char) (c : Char) (place : Nat) : Option Stride :=
  if Script.isBlank c then some (state.reach state.last (place + 1))
  else if c = '/' ∧ peek cs (place + 1) = some '/' then
    some (state.reach state.last (place + lineMove ((octets cs).drop place)))
  else if c = '/' ∧ peek cs (place + 1) = some '*' then
    some (state.reach state.last (place + 2 + blockMove ((octets cs).drop (place + 2))))
  else state.strideToken cs c place

def scanAt (cs : List Char) (state : State) (place : Nat) : Option (List Declaration) :=
  match _ : peek cs place with
  | none => some []
  | some c =>
      match state.stride cs c place with
      | none => none
      | some stride =>
          if _ : place < stride.place then
            (scanAt cs stride.state stride.place).map fun later =>
              stride.declaration.toList ++ later
          else none
termination_by (octets cs).length - place
decreasing_by
  have hlt := lt_of_peek ‹_›
  omega

def interpreterEnd (cs : List Char) : Nat :=
  if peek cs 0 = some '#' ∧ peek cs 1 = some '!' then lineMove (octets cs) else 0

def declarationsAt (cs : List Char) : Option (List Declaration) :=
  scanAt cs .start (interpreterEnd cs)

section

variable {cs rest : List Char} {c d : Char} {state : State} {place : Nat}

/-!
# One step
-/

/-- The step at a place does what the step of the scan does, and its place is
where that leaves off.  A declaration does not end behind the end. -/
def Strides (cs : List Char) (place : Nat) (stride : Option Stride) (step : Step) : Prop :=
  exists stop : Nat, Leaves cs stop step.rest ∧
    (forall clause : Clause, step.clause = some clause -> At cs stop step.rest) ∧
    stride = some {
      declaration := step.clause.map fun clause => (clause.declaration place stop).kept
      state := step.state
      place := stop }

theorem strides_reach {last : Last} {stop : Nat} (h : Leaves cs stop rest) :
    Strides cs place (some (state.reach last stop)) (state.pass last rest) :=
  ⟨stop, h, nofun, rfl⟩

theorem State.strideWord_strides (h : At cs place (c :: rest))
    (hstart : isWordStart c = true) :
    Strides cs place (state.strideWord cs place)
      (state.stepWord (c :: rest.takeWhile isWordPart) (rest.dropWhile isWordPart)) := by
  rcases (wordAt_reads h).run_of_some (if_pos hstart) with ⟨⟨_, stop⟩, hrun, rfl, hstop⟩
  have hclause := clauseAt_reads hstop
  rw [strideWord, hrun, stepWord, ← importWord, Option.bind_eq_bind, Option.bind_some,
    Option.getD_some]
  dsimp only at hclause hstop ⊢
  by_cases himport : (c :: rest.takeWhile isWordPart) = importWord ∧ state.depth = 0 ∧
      state.last ≠ .punctuation '.'
  · rw [if_pos himport, if_pos himport]
    cases hread : clause? (rest.dropWhile isWordPart) with
    | none =>
        rw [hclause.run_of_none hread]
        exact strides_reach hstop.toLeaves
    | some found =>
        rcases found with ⟨_, left⟩
        rcases hclause.run_of_some hread with ⟨⟨clause, behind⟩, hrun, rfl, hbehind⟩
        rw [hrun]
        exact ⟨behind, hbehind.toLeaves, fun _ _ => hbehind, rfl⟩
  · rw [if_neg himport, if_neg himport]
    exact strides_reach hstop.toLeaves

theorem uniform_isNumberPart : Uniform isNumberPart := by
  refine ⟨true, fun d h => ?_⟩
  rw [isNumberPart, isWordPart_of_isWordStart (isWordStart_of_high h), Bool.true_or]

theorem isWordStart_of_peek (h : At cs place (c :: rest)) (hpeek : peek cs place = some d) :
    isWordStart d = isWordStart c := by
  have hany := h.peek_any uniform_isWordStart
  rwa [hpeek] at hany

theorem eq_of_peek (h : At cs place (c :: rest)) (hpeek : peek cs place = some d)
    (hstart : ¬ isWordStart c = true) : d = c := by
  rw [(h.peek_eq_some_iff (lt_of_not_isWordStart hstart)).mpr rfl] at hpeek
  exact (Option.some.inj hpeek).symm

theorem State.stride_of_isWordStart (hstart : isWordStart c = true) :
    state.stride cs c place = state.strideWord cs place := by
  have hne : forall d : Char, isWordStart d = false -> c ≠ d :=
    fun d => ne_of_isWordStart hstart
  have hslash := hne '/' (by decide)
  rcases not_bracket_of_isWordStart hstart with ⟨hopen, hclose⟩
  rw [stride, isBlank_eq_false_of_isWordStart hstart, if_neg Bool.false_ne_true,
    if_neg fun h => hslash h.left, if_neg fun h => hslash h.left, strideToken,
    isQuote_eq_false_of_isWordStart hstart, if_neg Bool.false_ne_true,
    if_neg (hne '`' (by decide)), if_neg hslash, if_neg hopen, if_neg hclose,
    isDigit_eq_false_of_isWordStart hstart, if_neg Bool.false_ne_true, if_pos hstart]

theorem State.strideToken_strides (h : At cs place (c :: rest))
    (hnext : At cs (place + 1) rest) (hstart : ¬ isWordStart c = true) :
    Strides cs place (state.strideToken cs c place) (state.stepToken c rest) := by
  rw [strideToken, stepToken, hnext.drop, if_neg hstart, if_neg hstart]
  split
  · rename_i hquote
    exact strides_reach ((passes_string hquote).leaves hnext.toLeaves)
  split
  · exact strides_reach (passes_template.leaves hnext.toLeaves)
  split
  · split
    · exact strides_reach (passes_regex.leaves hnext.toLeaves)
    · exact strides_reach hnext.toLeaves
  split
  · exact strides_reach hnext.toLeaves
  split
  · exact strides_reach hnext.toLeaves
  split
  · rename_i hdigit
    have hnumber : isNumberPart c = true := by
      rw [isNumberPart, isWordPart, hdigit, Bool.or_true, Bool.true_or]
    have hleaves := (passes_dropWhile uniform_isNumberPart).leaves h.toLeaves
    rw [List.dropWhile_cons_of_pos hnumber] at hleaves
    rw [h.drop]
    exact strides_reach hleaves
  · exact strides_reach hnext.toLeaves

theorem State.stride_strides (h : At cs place (c :: rest))
    (hpeek : peek cs place = some d) :
    Strides cs place (state.stride cs d place) (state.step c rest) := by
  have hd := isWordStart_of_peek h hpeek
  by_cases hstart : isWordStart c = true
  · rw [stride_of_isWordStart (hd.trans hstart), state.step_of_isWordStart hstart]
    exact strideWord_strides h hstart
  rw [eq_of_peek h hpeek hstart]
  have hnext := h.next (lt_of_not_isWordStart hstart)
  have hslash := hnext.peek_eq_some_iff (show '/'.toNat < 128 by decide)
  have hstar := hnext.peek_eq_some_iff (show '*'.toNat < 128 by decide)
  rw [stride, step]
  by_cases hblank : Script.isBlank c = true
  · rw [if_pos hblank, if_pos hblank]
    exact strides_reach hnext.toLeaves
  rw [if_neg hblank, if_neg hblank]
  by_cases hline : c = '/' ∧ rest.head? = some '/'
  · rw [if_pos (hline.imp_right hslash.mpr), if_pos hline, h.drop]
    cases hline.left
    exact strides_reach (passes_line.leaves h.toLeaves)
  rw [if_neg (mt (And.imp_right hslash.mp) hline), if_neg hline]
  by_cases hblock : c = '/' ∧ rest.head? = some '*'
  · rw [if_pos (hblock.imp_right hstar.mpr), if_pos hblock]
    rcases List.head?_eq_some_iff.mp hblock.right with ⟨inside, rfl⟩
    have hinside := hnext.next (by decide)
    rw [hinside.drop]
    exact strides_reach (passes_block.leaves hinside.toLeaves)
  · rw [if_neg (mt (And.imp_right hstar.mp) hblock), if_neg hblock]
    exact strideToken_strides h hnext hstart

/-!
# The whole scan
-/

theorem lt_of_leaves {later : List Char} {stop : Nat} (h : At cs place (c :: rest))
    (hlater : Leaves cs stop later) (hsuffix : later <:+ rest) : place < stop := by
  have hfirst := h.length
  have hlast := hlater.length
  have hle := byteLength_le_of_suffix hsuffix
  have hpos := c.utf8Size_pos
  rw [byteLength_cons] at hfirst
  omega

/-- The scan takes one step at a place and goes on from where that leaves off. -/
theorem scanAt_step (state : State) (h : At cs place (c :: rest)) :
    exists stop : Nat, Leaves cs stop (state.step c rest).rest ∧
      (forall clause : Clause, (state.step c rest).clause = some clause ->
        At cs stop (state.step c rest).rest) ∧
      scanAt cs state place =
        (scanAt cs (state.step c rest).state stop).map fun later =>
          ((state.step c rest).clause.map fun clause =>
            (clause.declaration place stop).kept).toList ++ later := by
  have hne : peek cs place ≠ none := by
    intro hnone
    have hhead := h.peek
    rw [hnone, eq_comm, List.head?_eq_none_iff] at hhead
    have hlength := length_octets (c :: rest)
    have hpos := c.utf8Size_pos
    rw [hhead, byteLength_cons, List.length_nil] at hlength
    omega
  rcases Option.ne_none_iff_exists'.mp hne with ⟨d, hpeek⟩
  rcases state.stride_strides h hpeek with ⟨stop, hleaves, hstop, hstride⟩
  have hlt := lt_of_leaves h hleaves (state.step_suffix c rest)
  refine ⟨stop, hleaves, hstop, ?_⟩
  rw [scanAt]
  split
  · rename_i hnone
    exact absurd hnone hne
  · rename_i e hsome
    cases hpeek.symm.trans hsome
    rw [hstride]
    exact dif_pos hlt

theorem scanAt_eq (h : Leaves cs place rest) :
    scanAt cs state place =
      some ((scan (byteLength cs) state rest).map Declaration.kept) := by
  fun_induction scan (byteLength cs) state rest generalizing place with
  | case1 state =>
      have hpeek : peek cs place = none := h.peek
      rw [scanAt]
      split
      · rfl
      · rename_i hsome
        rw [hpeek] at hsome
        cases hsome
  | case2 state c rest step _ later hnone =>
      rename_i ih
      have hplace := h.toAt (List.cons_ne_nil c rest)
      rcases scanAt_step state hplace with ⟨stop, hleaves, _, hscan⟩
      rw [hscan, ih hleaves, show (state.step c rest).clause = none from hnone]
      rfl
  | case3 state c rest step _ later clause hsome =>
      rename_i ih
      have hplace := h.toAt (List.cons_ne_nil c rest)
      rcases scanAt_step state hplace with ⟨stop, hleaves, hstop, hscan⟩
      have hstart := hplace.eq_sub
      have hend := (hstop clause hsome).eq_sub
      rw [hscan, ih hleaves, show (state.step c rest).clause = some clause from hsome, hstart,
        hend]
      rfl

theorem interpreterEnd_leaves (cs : List Char) :
    Leaves cs (interpreterEnd cs) (skipInterpreter cs) := by
  have hbegin : At cs 0 cs := at_append [] cs
  have hhash := hbegin.peek_eq_some_iff (show '#'.toNat < 128 by decide)
  rw [interpreterEnd]
  by_cases hopen : peek cs 0 = some '#' ∧ peek cs 1 = some '!'
  · rw [if_pos hopen]
    rcases List.head?_eq_some_iff.mp (hhash.mp hopen.left) with ⟨later, rfl⟩
    have hbang := (hbegin.next (by decide)).peek_eq_some_iff (show '!'.toNat < 128 by decide)
    rcases List.head?_eq_some_iff.mp (hbang.mp hopen.right) with ⟨line, rfl⟩
    have hline := passes_line.leaves hbegin.toLeaves
    rwa [Nat.zero_add] at hline
  · rw [if_neg hopen, skipInterpreter]
    · exact hbegin.toLeaves
    · rintro line rfl
      have hbang := (hbegin.next (by decide)).peek_eq_some_iff (show '!'.toNat < 128 by decide)
      exact hopen ⟨hhash.mpr rfl, hbang.mpr rfl⟩

/-- No slice is out of place, and what is found is what the scan finds, however
long the script is. -/
theorem declarationsAt_eq (script : String) :
    declarationsAt script.toList = some (keptDeclarations script) :=
  scanAt_eq (interpreterEnd_leaves _)

end

/-!
# The spans of declarations

A span begins with the word `import`, and ends with the module or behind a
semicolon.  No two spans overlap.
-/

theorem Spaced.getLast? {behindWord : Bool} {tokens : List Token} {cs value : List Char}
    (h : Spaced Literal behindWord tokens cs [])
    (hlast : tokens.getLast? = some (.literal value)) :
    exists quote : Char, cs.getLast? = some quote ∧ isQuote quote = true := by
  generalize hend : ([] : List Char) = tail at h
  induction h with
  | nil =>
      cases hlast
  | @cons behindWord token tokens gap text rest tail _ _ hwritten hrest ih =>
      rw [List.getLast?_append, List.getLast?_append]
      cases tokens with
      | nil =>
          cases hlast
          cases hrest
          cases hend
          cases hwritten with
          | literal hliteral =>
              rcases hliteral.getLast? with ⟨quote, hquote, hisQuote⟩
              exact ⟨quote, by rw [hquote]; rfl, hisQuote⟩
      | cons next tokens =>
          rw [List.getLast?_cons_cons] at hlast
          rcases ih hlast hend with ⟨quote, hquote, hisQuote⟩
          exact ⟨quote, by rw [hquote]; rfl, hisQuote⟩

theorem Form.getLast?_tokens (form : Form) :
    form.tokens.getLast? = some (.literal form.source) := by
  rcases form with ⟨default, group, source⟩
  cases default with
  | none =>
      cases group with
      | none =>
          rfl
      | some group =>
          exact List.getLast?_append
  | some name =>
      cases group with
      | none =>
          rfl
      | some group =>
          exact @List.getLast?_append _ (.word name :: .mark ',' :: group.tokens) _

theorem Derives.getLast? {form : Form} {span : List Char} (h : Derives form.tokens span) :
    exists c : Char, span.getLast? = some c ∧ (isQuote c = true ∨ c = ';') := by
  cases h with
  | @intro body ending hbody hending =>
      rcases hbody.getLast? form.getLast?_tokens with ⟨quote, hquote, hisQuote⟩
      rw [List.getLast?_append, List.getLast?_append]
      cases hending with
      | bare =>
          exact ⟨quote, by rw [hquote]; rfl, Or.inl hisQuote⟩
      | semicolon =>
          exact ⟨';', by rw [List.getLast?_append]; rfl, Or.inr rfl⟩

theorem Located.pairwise {before rest : List Char} {declarations : List Declaration}
    (h : Located before rest declarations) :
    declarations.Pairwise fun first later => first.stop <= later.start := by
  induction h with
  | nil =>
      exact List.Pairwise.nil
  | cons _ hdeclaration hlater ih =>
      refine List.Pairwise.cons (fun later hmem => ?_) ih
      rw [hdeclaration]
      exact (hlater.bounds later hmem).left

/-- The places of a declaration cut its span out of the script. -/
theorem slice?_of_mem_declarations {script : String} {declaration : Declaration}
    (h : declaration ∈ declarations script) :
    exists span : List Char,
      slice? script.toList declaration.start declaration.stop = some span ∧
      importWord <+: span ∧
      exists c : Char, span.getLast? = some c ∧ (isQuote c = true ∨ c = ';') := by
  rcases isDerived_of_mem h with
    ⟨before, span, after, hscript, hstart, hstop, ⟨form, hderives⟩, _, _⟩
  refine ⟨span, ?_, ?_, hderives.getLast?⟩
  · rw [List.append_assoc] at hscript
    exact slice?_eq_some_iff.mpr ⟨before, after, hscript, hstart, hstop⟩
  · cases hderives
    exact List.prefix_append _ _

end Import
end RemoteImports
