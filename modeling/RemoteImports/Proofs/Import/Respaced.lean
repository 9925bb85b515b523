import RemoteImports.Proofs.Import.Attributes
import RemoteImports.Proofs.Import.Parallel

/-!
# Exchanging blanks

The scan passes over blanks one at a time, between the parts of a script and
between the tokens of a declaration.  Any of them may be exchanged for another
blank without a change in what is found.  Two things are kept: the end of the
line where a comment, a literal or a regular expression goes up to it, and
whether a space or a tab stands before attributes.

The blanks are those of ASCII.  Other white space of the language is part of a
word.
-/

namespace RemoteImports
namespace Import

open Script

def closes (last : Last) (c : Char) (text : List Char) : Bool :=
  [' ', '\t', '\n', '\r', '\x0C'].all fun d => partEnd last c (text ++ [d]) == [d]

/-- Which characters may be put in place of a blank: whether the part before it
does not end before any blank, the blank, the other character, and the text
behind the blank. -/
abbrev Exchange : Type := Bool -> Char -> Char -> List Char -> Prop

/-- From a state the scan goes over the first text to `rest`, without a
declaration.  The second text is the first up to the exchange of blanks that are
passed over on the way, and ends in `rest'`. -/
inductive Along (swap : Exchange) (last : State) (lastOpen : Bool)
    (rest rest' : List Char) : State -> Bool -> List Char -> List Char -> Prop where
  | here : Along swap last lastOpen rest rest' last lastOpen rest rest'
  | keep {state next : State} {isOpen : Bool} {c : Char} {text cs cs' : List Char} :
      state.step c (text ++ cs) = { clause := none, state := next, rest := cs } ->
      Along swap last lastOpen rest rest' next (!closes state.last c text) cs cs' ->
      Along swap last lastOpen rest rest' state isOpen
        (c :: (text ++ cs)) (c :: (text ++ cs'))
  | exchange {state : State} {isOpen : Bool} {c c' : Char} {cs cs' : List Char} :
      isBlank c = true -> swap isOpen c c' cs ->
      Along swap last lastOpen rest rest' state false cs cs' ->
      Along swap last lastOpen rest rest' state isOpen (c :: cs) (c' :: cs')

/-- The same for a whole text with its declarations.  Inside a declaration no
other begins, so it is gone over as inside brackets. -/
inductive Respaced (swap : Exchange) :
    State -> Bool -> List Char -> List Char -> Prop where
  | last {state last : State} {isOpen lastOpen : Bool} {cs cs' : List Char} :
      Along swap last lastOpen [] [] state isOpen cs cs' -> Respaced swap state isOpen cs cs'
  | declaration {state last inside : State} {isOpen lastOpen : Bool}
      {cs cs' behind behind' rest rest' : List Char} {clause : Clause} :
      Along swap last lastOpen (importWord ++ (behind ++ rest))
        (importWord ++ (behind' ++ rest')) state isOpen cs cs' ->
      last.depth = 0 -> last.last ≠ .punctuation '.' -> EndsWord (behind ++ rest) ->
      clause? (behind ++ rest) = some (clause, rest) ->
      Along swap inside false rest rest' { depth := 1, last := .word false } false
        (behind ++ rest) (behind' ++ rest') ->
      Respaced swap { last with last := .punctuation ';' } false rest rest' ->
      Respaced swap state isOpen cs cs'

/-- The same for scripts, of which the line of an interpreter is a part that goes
up to the end of the line. -/
inductive RespacedScript (swap : Exchange) : String -> String -> Prop where
  | intro {script script' : String} {line cs cs' : List Char} :
      script.toList = line ++ cs -> skipInterpreter script.toList = cs ->
      script'.toList = line ++ cs' -> Respaced swap .start (!line.isEmpty) cs cs' ->
      RespacedScript swap script script'

/-- Any blank for any other, but no end of a line that something goes up to, and
before attributes a space or a tab for a space or a tab only. -/
def betweenBlanks : Exchange := fun isOpen c c' later =>
  isOpen = false ∧ isBlank c' = true ∧
    (isSpace c = isSpace c' ∨ hasAttributes (later.dropWhile isSpace) = false)

section

variable {state next last : State} {isOpen lastOpen : Bool} {kind : Last} {c : Char}
  {text cs cs' rest rest' : List Char}

/-!
# One part
-/

theorem partEnd_of_closes (h : closes kind c text = true) {d : Char}
    (hblank : isBlank d = true) (later : List Char) :
    partEnd kind c (text ++ d :: later) = d :: later := by
  have hmem : d ∈ [' ', '\t', '\n', '\r', '\x0C'] := by
    simp only [isBlank, Bool.or_eq_true, beq_iff_eq] at hblank
    rcases hblank with (((rfl | rfl) | rfl) | rfl) | hfeed
    · decide
    · decide
    · decide
    · decide
    · have hd : d = '\x0C' := Char.toNat_inj.mp hfeed
      rw [hd]
      decide
  have hend := List.all_eq_true.mp h d hmem
  rw [beq_iff_eq] at hend
  exact partEnd_alike (Alike.same d [] later) hend

inductive Meets : Bool -> List Char -> List Char -> Prop where
  | alike {isOpen : Bool} {cs cs' : List Char} : Alike cs cs' -> Meets isOpen cs cs'
  | blanks {c c' : Char} {cs cs' : List Char} :
      isBlank c = true -> isBlank c' = true -> Meets false (c :: cs) (c' :: cs')

theorem Meets.partEnd_eq (h : Meets (!closes kind c text) cs cs')
    (hend : partEnd kind c (text ++ cs) = cs) : partEnd kind c (text ++ cs') = cs' := by
  generalize hopen : (!closes kind c text) = isOpen at h
  cases h with
  | alike halike =>
      exact partEnd_alike halike hend
  | blanks _ hc' =>
      rw [Bool.not_eq_false'] at hopen
      exact partEnd_of_closes hopen hc' _

theorem partEnd_of_isWordStart (hstart : isWordStart c = true) (cs : List Char) :
    partEnd kind c cs = cs.dropWhile isWordPart := by
  have hnone : (State.step { depth := 1, last := kind } c cs).clause = none :=
    State.step_clause_of_depth Nat.one_ne_zero
  rw [State.step_of_isWordStart _ hstart] at hnone
  rw [partEnd, State.step_of_isWordStart _ hstart, State.stepWord_eq_pass hnone]
  rfl

theorem takeWhile_of_dropWhile_append {p : Char -> Bool}
    (h : (text ++ cs).dropWhile p = cs) : (text ++ cs).takeWhile p = text := by
  have hsplit : (text ++ cs).takeWhile p ++ (text ++ cs).dropWhile p = text ++ cs :=
    List.takeWhile_append_dropWhile
  rw [h] at hsplit
  exact List.append_cancel_right hsplit

theorem State.step_clause_of_not_isWordStart (hstart : ¬ isWordStart c = true) :
    (state.step c cs).clause = none := by
  cases hclause : (state.step c cs).clause with
  | none =>
      rfl
  | some clause =>
      rcases state.step_declaration hclause with ⟨_, _, _, behind, htext, _⟩
      rcases List.cons_eq_cons.mp htext with ⟨rfl, _⟩
      exact absurd rfl hstart

theorem Parallel.step (h : Parallel cs cs')
    (hmeets : Meets (!closes state.last c text) cs cs')
    (hstep : state.step c (text ++ cs) = { clause := none, state := next, rest := cs }) :
    state.step c (text ++ cs') = { clause := none, state := next, rest := cs' } := by
  have hnone := congrArg Step.clause hstep
  have hend : partEnd state.last c (text ++ cs) = cs :=
    (State.step_rest hnone).symm.trans (congrArg Step.rest hstep)
  have hend' := hmeets.partEnd_eq hend
  by_cases hstart : isWordStart c = true
  · rw [partEnd_of_isWordStart hstart] at hend hend'
    rw [state.step_of_isWordStart hstart, takeWhile_of_dropWhile_append hend, hend] at hstep
    rw [state.step_of_isWordStart hstart, takeWhile_of_dropWhile_append hend', hend']
    have hnone := congrArg Step.clause hstep
    have hagrees := State.Agrees.rfl.stepWord hnone fun _ => h.clause?_eq_none
    rw [State.stepWord_eq_pass hnone, State.pass_eq_iff] at hstep
    rw [State.stepWord_eq_pass hagrees.clause', State.pass_eq_iff]
    exact ⟨hstep.left, rfl⟩
  · have hnone' : (state.step c (text ++ cs')).clause = none :=
      State.step_clause_of_not_isWordStart hstart
    have hrest' := (State.step_rest hnone').trans hend'
    have hstate := state.step_state hstart (h.append_head?_iff (by decide) text)
      (h.append_head?_iff (by decide) text)
    rw [Step.eq_of_clause_eq_none hnone' hrest', ← hstate, hstep]

/-!
# Between declarations
-/

theorem Along.meets (h : Along betweenBlanks last lastOpen rest rest' state isOpen cs cs')
    (hrest : Meets lastOpen rest rest') : Meets isOpen cs cs' := by
  cases h with
  | here =>
      exact hrest
  | keep =>
      exact Meets.alike (Alike.same _ _ _)
  | exchange hc hswap =>
      rcases hswap with ⟨rfl, hc', _⟩
      exact Meets.blanks hc hc'

theorem Along.parallel
    (h : Along betweenBlanks last lastOpen rest rest' state isOpen cs cs')
    (hrest : Meets lastOpen rest rest') (hparallel : Parallel rest rest') :
    Parallel cs cs' := by
  induction h with
  | here =>
      exact hparallel
  | keep hstep hlater ih =>
      have hend := (State.step_rest (congrArg Step.clause hstep)).symm.trans
        (congrArg Step.rest hstep)
      exact Parallel.part hend ((hlater.meets hrest).partEnd_eq hend) ih
  | exchange hc hswap _ ih =>
      rcases hswap with ⟨_, hc', hspace⟩
      refine Parallel.blank hc hc' (hspace.imp_right fun hnone => ⟨hnone, ?_⟩) ih
      rw [Bool.eq_false_iff] at hnone ⊢
      exact mt ih.symm.hasAttributes_dropWhile hnone

/-- The same is found in both texts if it is found behind them. -/
theorem Along.content
    (h : Along betweenBlanks last lastOpen rest rest' state isOpen cs cs')
    (hrest : Meets lastOpen rest rest') (hparallel : Parallel rest rest') (total total' : Nat)
    (hfound : (scan total' last rest').map Declaration.content =
      (scan total last rest).map Declaration.content) :
    (scan total' state cs').map Declaration.content =
      (scan total state cs).map Declaration.content := by
  induction h with
  | here =>
      exact hfound
  | keep hstep hlater ih =>
      have hstep' := (hlater.parallel hrest hparallel).step (hlater.meets hrest) hstep
      rw [scan_cons_of_none (congrArg Step.clause hstep), hstep,
        scan_cons_of_none (congrArg Step.clause hstep'), hstep']
      exact ih
  | @exchange state _ c c' cs cs' hc hswap _ ih =>
      have hstep := state.step_blank hc cs
      have hstep' := state.step_blank hswap.right.left cs'
      rw [scan_cons_of_none (congrArg Step.clause hstep), hstep,
        scan_cons_of_none (congrArg Step.clause hstep'), hstep']
      exact ih

/-!
# With declarations
-/

structure Respaced.Common (state : State) (isOpen : Bool) (cs cs' : List Char) : Prop where
  meets : Meets isOpen cs cs'
  parallel : Parallel cs cs'
  content : forall total total' : Nat,
    (scan total' state cs').map Declaration.content =
      (scan total state cs).map Declaration.content

theorem Along.common
    (h : Along betweenBlanks last lastOpen rest rest' state isOpen cs cs')
    (hrest : Respaced.Common last lastOpen rest rest') :
    Respaced.Common state isOpen cs cs' :=
  ⟨h.meets hrest.meets, h.parallel hrest.meets hrest.parallel, fun total total' =>
    h.content hrest.meets hrest.parallel total total' (hrest.content total total')⟩

theorem Respaced.Common.declaration {clause : Clause} {inside : State}
    {behind behind' : List Char}
    (hrest : Common { state with last := .punctuation ';' } false rest rest')
    (hdepth : state.depth = 0) (hlast : state.last ≠ .punctuation '.')
    (hends : EndsWord (behind ++ rest))
    (hclause : clause? (behind ++ rest) = some (clause, rest))
    (hinside : Along betweenBlanks inside false rest rest'
      { depth := 1, last := .word false } false (behind ++ rest) (behind' ++ rest')) :
    Common state isOpen (importWord ++ (behind ++ rest))
      (importWord ++ (behind' ++ rest')) := by
  have hbehind := hinside.parallel hrest.meets hrest.parallel
  have hends' := hbehind.endsWord hends
  have hword : Token.Written Literal (.word importWord) importWord :=
    Token.Written.word isWord_importWord
  refine ⟨Meets.alike (Alike.same _ _ _), ?_, ?_⟩
  · exact Parallel.part (hword.partEnd_eq (fun _ => hends) .start)
      (hword.partEnd_eq (fun _ => hends') .start) hbehind
  · intro total total'
    rcases hbehind.clause?_eq_some hrest.parallel.length_eq hclause with
      ⟨left, hclause', hleft⟩
    rw [scan_declaration total hdepth hlast hends hclause,
      scan_declaration total' hdepth hlast hends' hclause', hleft, List.map_cons,
      List.map_cons, hrest.content total total']
    rfl

theorem Respaced.common (h : Respaced betweenBlanks state isOpen cs cs') :
    Common state isOpen cs cs' := by
  induction h with
  | last halong =>
      refine halong.common ⟨Meets.alike Alike.nil, Parallel.nil, ?_⟩
      intro total total'
      rw [scan, scan]
  | declaration halong hdepth hlast hends hclause hinside _ ih =>
      exact halong.common (ih.declaration hdepth hlast hends hclause hinside)

/-!
# The line of an interpreter
-/

theorem Parallel.exists_interpreter (h : Parallel cs cs') {later : List Char}
    (hnew : cs' = '#' :: '!' :: later) :
    exists later : List Char, cs = '#' :: '!' :: later := by
  cases h with
  | nil =>
      cases hnew
  | blank _ hc' =>
      cases hnew
      cases hc'
  | @part last c text cs cs' _ hend' hlater =>
      rcases List.cons_eq_cons.mp hnew with ⟨rfl, hbehind⟩
      cases (List.append_left_eq_self.mp hend' : text = [])
      have hhead := hlater.symm.head?_eq_some (by decide) (congrArg List.head? hbehind)
      rcases List.head?_eq_some_iff.mp hhead with ⟨behind, rfl⟩
      exact ⟨behind, rfl⟩

theorem Respaced.Common.skipInterpreter {line : List Char}
    (h : Common state (!line.isEmpty) cs cs')
    (hskip : Import.skipInterpreter (line ++ cs) = cs) :
    Import.skipInterpreter (line ++ cs') = cs' := by
  cases line with
  | nil =>
      rw [List.nil_append] at hskip ⊢
      apply skipInterpreter_eq_self
      intro later hnew
      rcases h.parallel.exists_interpreter hnew with ⟨behind, rfl⟩
      have hlength := (skipLine_suffix ('!' :: behind)).length_le
      have hline : skipLine ('!' :: behind) = '#' :: '!' :: behind := hskip
      rw [hline] at hlength
      exact absurd hlength (Nat.not_succ_le_self _)
  | cons c line =>
      generalize hopen : (!(c :: line).isEmpty) = isOpen at h
      cases h.meets with
      | alike halike =>
          rw [← hskip] at halike
          refine skipInterpreter_append halike ?_ (by rw [hskip])
          intro later hnew
          rw [hskip]
          exact h.parallel.exists_interpreter hnew
      | blanks =>
          cases hopen

end

/-!
# Scripts
-/

/-- A script with exchanged blanks has declarations of the same bindings and
modules. -/
theorem content_declarations_of_respaced {script script' : String}
    (h : RespacedScript betweenBlanks script script') :
    (declarations script').map Declaration.content =
      (declarations script).map Declaration.content := by
  cases h with
  | @intro line cs cs' hscript hskip hscript' hrespaced =>
      have hcommon := hrespaced.common
      rw [hscript] at hskip
      rw [declarations, declarations, hscript, hscript', hskip, hcommon.skipInterpreter hskip]
      exact hcommon.content _ _

/-- A tab and a form feed for the spaces of a declaration, and a carriage return
for the end of its line. -/
theorem content_declarations_of_respaced_tab :
    RespacedScript betweenBlanks "import 'b' ;\n" "import\t'b'\x0C;\r" ∧
      (declarations "import\t'b'\x0C;\r").map Declaration.content =
        (declarations "import 'b' ;\n").map Declaration.content := by
  have hmodule : State.step ⟨1, .word false⟩ '\'' (['b', '\''] ++ [' ', ';', '\n']) =
      ⟨none, ⟨1, .value⟩, [' ', ';', '\n']⟩ := rfl
  have hsemicolon : State.step ⟨1, .value⟩ ';' ([] ++ ['\n']) =
      ⟨none, ⟨1, .punctuation ';'⟩, ['\n']⟩ := rfl
  have hends : EndsWord ([' ', '\'', 'b', '\'', ' ', ';'] ++ ['\n']) := by
    rintro c ⟨⟩
    rfl
  have hlast : State.start.last ≠ .punctuation '.' := nofun
  have hfinish : finish? [' ', ';', '\n'] = some ['\n'] := finish?_of_semicolon rfl
  have hclause : clause? ([' ', '\'', 'b', '\''] ++ [' ', ';', '\n']) =
      some (Form.clause ⟨none, none, ['b']⟩, ['\n']) :=
    clause?_of_tokens_eq rfl spaced_bare hfinish
  have hinside : Along betweenBlanks ⟨1, .punctuation ';'⟩ false ['\n'] ['\r']
      ⟨1, .word false⟩ false ([' ', '\'', 'b', '\'', ' ', ';'] ++ ['\n'])
      (['\t', '\'', 'b', '\'', '\x0C', ';'] ++ ['\r']) :=
    Along.exchange rfl ⟨rfl, rfl, Or.inl rfl⟩ (Along.keep hmodule
      (Along.exchange rfl ⟨rfl, rfl, Or.inr rfl⟩ (Along.keep hsemicolon Along.here)))
  have hbehind : Respaced betweenBlanks ⟨0, .punctuation ';'⟩ false ['\n'] ['\r'] :=
    Respaced.last (Along.exchange rfl ⟨rfl, rfl, Or.inl rfl⟩ Along.here)
  have hrespaced : RespacedScript betweenBlanks "import 'b' ;\n" "import\t'b'\x0C;\r" :=
    @RespacedScript.intro _ _ _ [] _ _ rfl rfl rfl
      (Respaced.declaration Along.here rfl hlast hends hclause hinside hbehind)
  exact ⟨hrespaced, content_declarations_of_respaced hrespaced⟩

/-!
# Other white space
-/

def isWhiteSpace (c : Char) : Bool :=
  [9, 0xB, 0xC, 0x20, 0xA0, 0xFEFF, 0x1680, 0x202F, 0x205F, 0x3000].contains c.toNat ||
    0x2000 <= c.toNat && c.toNat <= 0x200A

def isLineTerminator (c : Char) : Bool :=
  ['\n', '\r'].contains c || c.toNat == 0x2028 || c.toNat == 0x2029

/-- White space for a space, and the end of a line for another. -/
def betweenWhiteSpace : Exchange := fun _ c c' _ =>
  c = ' ' ∧ isWhiteSpace c' = true ∨ c = '\n' ∧ isLineTerminator c' = true

/-- A space that does not break is part of a word. -/
theorem not_forall_content_declarations_eq :
    ¬ forall script script' : String,
      RespacedScript betweenWhiteSpace script script' ∨
        script'.toList = '\uFEFF' :: script.toList ->
      (declarations script').map Declaration.content =
        (declarations script).map Declaration.content := by
  intro h
  have hmodule : State.step ⟨1, .word false⟩ '\'' (['b', '\''] ++ []) =
      ⟨none, ⟨1, .value⟩, []⟩ := rfl
  have hends : EndsWord ([' ', '\'', 'b', '\''] ++ []) := by
    rintro c ⟨⟩
    rfl
  have hlast : State.start.last ≠ .punctuation '.' := nofun
  have hclause : clause? ([' ', '\'', 'b', '\''] ++ []) =
      some (Form.clause ⟨none, none, ['b']⟩, []) :=
    clause?_of_tokens_eq rfl spaced_bare rfl
  have hinside : Along betweenWhiteSpace ⟨1, .value⟩ false [] [] ⟨1, .word false⟩ false
      ([' ', '\'', 'b', '\''] ++ []) (['\u00A0', '\'', 'b', '\''] ++ []) :=
    Along.exchange rfl (Or.inl ⟨rfl, rfl⟩) (Along.keep hmodule Along.here)
  have hrespaced : RespacedScript betweenWhiteSpace "import 'b'" "import\u00A0'b'" :=
    @RespacedScript.intro _ _ _ [] _ _ rfl rfl rfl
      (Respaced.declaration Along.here rfl hlast hends hclause hinside
        (Respaced.last (@Along.here _ _ false _ _)))
  have hold : (declarations "import 'b'").map Declaration.content = [([], "b")] := by
    decide +kernel
  have hnew : (declarations "import\u00A0'b'").map Declaration.content = [] := by
    decide +kernel
  have hsame := h _ _ (Or.inl hrespaced)
  rw [hold, hnew] at hsame
  cases hsame

end Import
end RemoteImports
