import RemoteImports.Proofs.Import.Barrier
import RemoteImports.Proofs.Script.WellNamed
import RemoteImports.Script.Printer

/-!
# Scanning what is written

The scan passes over written statements and finds no declaration in them.  A
name may be the word `import`, but what is written behind a name is nothing
that a declaration goes on with.
-/

namespace RemoteImports
namespace Import

open Script

def nameMarks : List Char := ['.', '(', ')', '}', ':', ',', ';', '=']

inductive Stops : List Char -> Prop where
  | mark {c : Char} {rest : List Char} : c ∈ nameMarks -> Stops (c :: rest)
  | blank {c : Char} {rest : List Char} : c ∈ nameMarks -> Stops (' ' :: c :: rest)

def Crosses (text rest : List Char) : Prop :=
  forall state : State, exists last : Last,
    Runs state (text ++ rest) { state with last := last } rest

def Ends (text rest : List Char) : Prop :=
  forall state : State, exists c : Char, c ∈ [';', '}'] ∧
    Runs state (text ++ rest) { state with last := .punctuation c } rest

section

variable {c : Char} {first text rest : List Char}

theorem eq_false_of_mark {p : Char -> Bool} (hp : (nameMarks.all fun c => !p c) = true)
    (hc : c ∈ nameMarks) : p c = false := by
  have hnot := List.all_eq_true.mp hp c hc
  rwa [Bool.not_eq_true'] at hnot

theorem skipTrivia_cons_of_mark (hc : c ∈ nameMarks) (rest : List Char) :
    skipTrivia (c :: rest) = c :: rest := by
  have hslash : (c == '/') = false := @eq_false_of_mark c (· == '/') rfl hc
  exact skipTrivia_cons_of_ne (@eq_false_of_mark c isBlank rfl hc)
    (beq_eq_false_iff_ne.mp hslash) rest

theorem Stops.exists_mark (h : Stops rest) :
    exists (c : Char) (behind : List Char),
      skipTrivia rest = c :: behind ∧ c ∈ nameMarks := by
  cases h with
  | @mark c rest hc =>
      exact ⟨c, rest, skipTrivia_cons_of_mark hc rest, hc⟩
  | @blank c rest hc =>
      rw [skipTrivia_cons_of_isBlank rfl]
      exact ⟨c, rest, skipTrivia_cons_of_mark hc rest, hc⟩

theorem Stops.endsWord (h : Stops rest) : EndsWord rest := by
  intro c hc
  cases h with
  | mark hmem =>
      cases hc
      exact @eq_false_of_mark _ isWordPart rfl hmem
  | blank _ =>
      cases hc
      rfl

theorem Stops.literal?_eq_none (h : Stops rest) : literal? (skipTrivia rest) = none := by
  rcases h.exists_mark with ⟨c, behind, hskip, hc⟩
  rw [hskip, literal?, @eq_false_of_mark c isQuote rfl hc, if_neg Bool.false_ne_true]

theorem Stops.clause?_eq_none (h : Stops rest) : clause? rest = none := by
  rcases h.exists_mark with ⟨c, behind, hskip, hc⟩
  have hquote : isQuote c = false := @eq_false_of_mark c isQuote rfl hc
  have hword : word? (c :: behind) = none :=
    word?_cons_eq_none (@eq_false_of_mark c isWordStart rfl hc) behind
  have hgroup : group? (c :: behind) = none := by
    simp only [nameMarks, List.mem_cons, List.not_mem_nil, or_false] at hc
    rcases hc with rfl | rfl | rfl | rfl | rfl | rfl | rfl | rfl <;> rfl
  simp [clause?, hskip, hquote, isTypeOnly, after?, specifiers?, hword, hgroup]

/-!
# Tokens
-/

theorem Crosses.nil (rest : List Char) : Crosses [] rest :=
  fun state => ⟨state.last, Runs.refl state rest⟩

theorem Crosses.append (hfirst : Crosses first (text ++ rest)) (htext : Crosses text rest) :
    Crosses (first ++ text) rest := by
  intro state
  rcases hfirst state with ⟨last, hrun⟩
  rcases htext { state with last := last } with ⟨last', hrun'⟩
  rw [List.append_assoc]
  exact ⟨last', hrun.trans hrun'⟩

theorem Ends.crosses (h : Ends text rest) : Crosses text rest := by
  intro state
  rcases h state with ⟨c, _, hrun⟩
  exact ⟨.punctuation c, hrun⟩

theorem Crosses.ends (hfirst : Crosses first (text ++ rest)) (htext : Ends text rest) :
    Ends (first ++ text) rest := by
  intro state
  rcases hfirst state with ⟨last, hrun⟩
  rcases htext { state with last := last } with ⟨c, hc, hrun'⟩
  rw [List.append_assoc]
  exact ⟨c, hc, hrun.trans hrun'⟩

theorem Crosses.trivia (h : Trivia text) (rest : List Char) : Crosses text rest :=
  fun state => ⟨state.last, Runs.of_trivia h state rest⟩

theorem Crosses.blank (rest : List Char) : Crosses [' '] rest :=
  Crosses.trivia (Trivia.blank rfl Trivia.nil) rest

theorem Crosses.literal (value rest : List Char) : Crosses (writeLiteral value) rest := by
  intro state
  cases literal_writeLiteral value with
  | intro hquote hquoted =>
      exact ⟨.value, Runs.of_pass (state.step_literal hquote hquoted rest)⟩

theorem Stops.stepWord_clause (h : Stops rest) (state : State) (word : List Char) :
    (state.stepWord word rest).clause = none := by
  unfold State.stepWord
  split
  · rw [h.clause?_eq_none]
    rfl
  · rfl

theorem Crosses.word {word : List Char} (hword : IsWord word) (hrest : Stops rest) :
    Crosses word rest := by
  intro state
  cases word with
  | nil =>
      exact hword.elim
  | cons c word =>
      have hstep := state.step_word hword hrest.endsWord
      rw [State.stepWord_eq_pass (hrest.stepWord_clause state _)] at hstep
      exact ⟨_, Runs.of_pass hstep⟩

theorem Crosses.keyword {word : List Char} (hword : IsWord word)
    (hne : word ≠ importWord) (hrest : EndsWord rest) : Crosses word rest := by
  intro state
  cases word with
  | nil =>
      exact hword.elim
  | cons c word =>
      have hstep := state.step_word hword hrest
      rw [State.stepWord, if_neg fun h => hne h.left] at hstep
      exact ⟨_, Runs.of_pass hstep⟩

theorem Crosses.punctuation (hc : c ∈ ['.', ',', ':', ';', '=']) (rest : List Char) :
    Crosses [c] rest :=
  fun state => ⟨.punctuation c, Runs.of_pass (state.step_punctuation hc rest)⟩

theorem Ends.semicolon (rest : List Char) : Ends [';'] rest := by
  intro state
  exact ⟨';', by decide, Runs.of_pass (state.step_punctuation (by decide) rest)⟩

theorem Crosses.runs_between {opening closing : Char} (hopening : opening ∈ ['(', '{'])
    (hclosing : closing ∈ [')', '}']) (h : Crosses text (closing :: rest))
    (state : State) :
    Runs state (opening :: (text ++ [closing]) ++ rest)
      { state with last := .punctuation closing } rest := by
  rcases h { depth := state.depth + 1, last := .punctuation opening } with ⟨last, hrun⟩
  rw [List.cons_append, List.append_assoc]
  apply (Runs.of_pass (state.step_opening hopening _)).trans
  apply hrun.trans
  exact Runs.of_pass (State.step_closing _ hclosing rest)

theorem Crosses.parentheses (h : Crosses text (')' :: rest)) :
    Crosses ('(' :: (text ++ [')'])) rest :=
  fun state => ⟨.punctuation ')', h.runs_between (by decide) (by decide) state⟩

theorem Ends.braces (h : Crosses text ('}' :: rest)) :
    Ends ('{' :: (text ++ ['}'])) rest :=
  fun state => ⟨'}', by decide, h.runs_between (by decide) (by decide) state⟩

/-!
# Expressions
-/

theorem Crosses.separated {texts : List (List Char)}
    (htexts : forall text, text ∈ texts ->
      forall rest : List Char, Stops rest -> Crosses text rest)
    (hrest : Stops rest) : Crosses (Script.separated [',', ' '] texts) rest := by
  induction texts with
  | nil =>
      exact Crosses.nil rest
  | cons text texts ih =>
      have htext := htexts text List.mem_cons_self
      cases texts with
      | nil =>
          rw [Script.separated, List.intercalate_singleton]
          exact htext rest hrest
      | cons next texts =>
          rw [Script.separated, List.intercalate_cons_cons, List.append_assoc]
          apply (htext _ (Stops.mark (by decide))).append
          apply (Crosses.punctuation (by decide) _).append
          apply (Crosses.blank _).append
          exact ih fun text hmem => htexts text (List.mem_cons_of_mem _ hmem)

theorem Crosses.equals (h : Crosses text rest) :
    Crosses ([' '] ++ (['='] ++ ([' '] ++ text))) rest :=
  (Crosses.blank _).append
    ((Crosses.punctuation (by decide) _).append ((Crosses.blank _).append h))

theorem Crosses.comment {body : List Char} (hbody : ¬ ['*', '/'] <:+: body)
    (rest : List Char) : Crosses ('/' :: '*' :: (body ++ ['*', '/', ' '])) rest :=
  Crosses.trivia (Trivia.block hbody (Trivia.blank rfl Trivia.nil)) rest

theorem writeExpr_load (address : Expr) :
    writeExpr (.load address) = importWord ++ '(' :: (writeExpr address ++ [')']) := rfl

theorem writeExpr_await (argument : Expr) :
    writeExpr (.await argument) =
      ['a', 'w', 'a', 'i', 't'] ++ ([' '] ++ writeExpr argument) := rfl

theorem writeExpr_assign (target value : Expr) :
    writeExpr (.assign target value) =
      writeExpr target ++ ([' '] ++ (['='] ++ ([' '] ++ writeExpr value))) :=
  List.append_assoc _ _ _

theorem writeExpr_commented (comment : String) (expr : Expr) :
    writeExpr (.commented comment expr) =
      '/' :: '*' :: (comment.toList ++ ['*', '/', ' ']) ++ writeExpr expr := rfl

mutual

theorem Crosses.expr (expr : Expr) (h : expr.WellNamed) (rest : List Char)
    (hrest : Stops rest) : Crosses (writeExpr expr) rest := by
  cases expr with
  | name name =>
      exact Crosses.word h hrest
  | text value =>
      exact Crosses.literal value.toList rest
  | member object property =>
      have hproperty : Crosses ('.' :: property.toList) rest :=
        (Crosses.punctuation (by decide) _).append (Crosses.word h.right hrest)
      exact (Crosses.expr object h.left _ (Stops.mark (by decide))).append hproperty
  | call callee arguments =>
      have harguments := Crosses.separated (crosses_arguments arguments h.right)
        (Stops.mark (by decide : ')' ∈ nameMarks) : Stops (')' :: rest))
      exact (Crosses.expr callee h.left _ (Stops.mark (by decide))).append
        harguments.parentheses
  | load address =>
      have haddress := Crosses.expr address h (')' :: rest) (Stops.mark (by decide))
      rw [writeExpr_load]
      exact (Crosses.word isWord_importWord (Stops.mark (by decide))).append
        haddress.parentheses
  | await argument =>
      have hargument := Crosses.expr argument h rest hrest
      rw [writeExpr_await]
      exact (Crosses.keyword (by decide) (by decide) (endsWord_blank _)).append
        ((Crosses.blank _).append hargument)
  | assign target value =>
      have hvalue := Crosses.expr value h.right rest hrest
      rw [writeExpr_assign]
      exact (Crosses.expr target h.left _ (Stops.blank (by decide))).append hvalue.equals
  | commented comment expr =>
      have hexpr := Crosses.expr expr h.right rest hrest
      rw [writeExpr_commented]
      exact (Crosses.comment h.left _).append hexpr

theorem crosses_arguments (exprs : List Expr) (h : ArgumentsWellNamed exprs) :
    forall text, text ∈ writeArguments exprs ->
      forall rest : List Char, Stops rest -> Crosses text rest := by
  cases exprs with
  | nil =>
      intro text hmem
      cases hmem
  | cons expr exprs =>
      intro text hmem rest hrest
      cases hmem with
      | head =>
          exact Crosses.expr expr h.left rest hrest
      | tail _ hlater =>
          exact crosses_arguments exprs h.right text hlater rest hrest

end

/-!
# Bindings
-/

theorem Crosses.key (key : Key) (h : key.WellNamed) (hrest : Stops rest) :
    Crosses (writeKey key) rest := by
  cases key with
  | name key =>
      exact Crosses.word h hrest
  | text key =>
      exact Crosses.literal key.toList rest

theorem writeBinding_object (property : Property) (properties : List Property) :
    writeBinding (.object (property :: properties)) =
      '{' :: ([' '] ++
        (Script.separated [',', ' '] (writeProperties (property :: properties)) ++
          [' ']) ++ ['}']) := by
  change ['{', ' '] ++ Script.separated _ (writeProperties (property :: properties)) ++
    [' ', '}'] = _
  simp only [List.append_assoc, List.cons_append, List.nil_append]

mutual

theorem Crosses.binding (binding : Binding) (h : binding.WellNamed) (rest : List Char)
    (hrest : Stops rest) : Crosses (writeBinding binding) rest := by
  cases binding with
  | name name =>
      exact Crosses.word h hrest
  | object properties =>
      cases properties with
      | nil =>
          exact (Ends.braces (Crosses.nil _)).crosses
      | cons property properties =>
          have hproperties := Crosses.separated
            (crosses_properties (property :: properties) h)
            (Stops.blank (by decide : '}' ∈ nameMarks) : Stops (' ' :: '}' :: rest))
          have hinside := (Crosses.blank _).append (hproperties.append (Crosses.blank _))
          rw [writeBinding_object]
          exact (Ends.braces hinside).crosses

theorem crosses_properties (properties : List Property)
    (h : PropertiesWellNamed properties) :
    forall text, text ∈ writeProperties properties ->
      forall rest : List Char, Stops rest -> Crosses text rest := by
  cases properties with
  | nil =>
      intro text hmem
      cases hmem
  | cons property properties =>
      intro text hmem rest hrest
      cases hmem with
      | head =>
          exact Crosses.property property h.left rest hrest
      | tail _ hlater =>
          exact crosses_properties properties h.right text hlater rest hrest

theorem Crosses.property (property : Property) (h : property.WellNamed)
    (rest : List Char) (hrest : Stops rest) : Crosses (writeProperty property) rest := by
  rcases property with ⟨key, value, shorthand⟩
  have hvalue := Crosses.binding value h.right rest hrest
  cases shorthand with
  | true =>
      exact hvalue
  | false =>
      apply (Crosses.key key h.left (Stops.mark (by decide))).append
      exact (Crosses.punctuation (by decide) _).append ((Crosses.blank _).append hvalue)

end

theorem Crosses.declarator (declarator : Declarator) (h : declarator.WellNamed)
    (hrest : Stops rest) : Crosses (writeDeclarator declarator) rest := by
  rcases declarator with ⟨binding, value⟩
  cases value with
  | none =>
      exact (Crosses.binding binding h.binding _ hrest).append (Crosses.nil rest)
  | some value =>
      have hvalue := Crosses.expr value (h.value value rfl) rest hrest
      exact (Crosses.binding binding h.binding _ (Stops.blank (by decide))).append
        hvalue.equals

/-!
# Statements
-/

theorem writeStmts_singleton (layout : Layout) (stmt : Stmt) :
    writeStmts layout [stmt] = writeStmt layout 0 stmt := by
  change writeStmt layout 0 stmt ++ [] = _
  rw [List.append_nil]

theorem writeStmts_cons_cons (layout : Layout) (stmt next : Stmt) (stmts : List Stmt) :
    writeStmts layout (stmt :: next :: stmts) =
      writeStmt layout 0 stmt ++ (layout.line 0 ++ writeStmts layout (next :: stmts)) := by
  change writeStmt layout 0 stmt ++
    (layout.line 0 ++ writeStmt layout 0 next ++ writeLines layout 0 stmts) = _
  rw [List.append_assoc]
  rfl

structure BlankLayout (layout : Layout) : Prop where
  indent : forall c, c ∈ layout.indent -> isBlank c = true
  base : forall c, c ∈ layout.base -> isBlank c = true

theorem Crosses.line {layout : Layout} (h : BlankLayout layout) (depth : Nat)
    (rest : List Char) : Crosses (layout.line depth) rest := by
  refine Crosses.trivia (Trivia.blank rfl (Trivia.of_blanks ?_)) rest
  intro c hc
  rcases List.mem_append.mp hc with hbase | hindent
  · exact h.base c hbase
  · rcases List.mem_flatten.mp hindent with ⟨indent, hmem, hin⟩
    rw [List.mem_replicate] at hmem
    exact h.indent c (hmem.right ▸ hin)

theorem Crosses.spaced {word : List Char} (hword : IsWord word) (hne : word ≠ importWord)
    (rest : List Char) : Crosses (word ++ [' ']) rest :=
  (Crosses.keyword hword hne (endsWord_blank _)).append (Crosses.blank rest)

theorem text_ne_importWord (keyword : Keyword) : keyword.text ≠ importWord := by
  cases keyword with
  | letKeyword =>
      decide
  | constKeyword =>
      decide

theorem writeCaught_some (binding : Binding) :
    writeCaught (some binding) = '(' :: (writeBinding binding ++ [')']) ++ [' '] := by
  rw [writeCaught]
  simp

theorem Crosses.caught (caught : Option Binding)
    (h : forall binding, caught = some binding -> binding.WellNamed) (rest : List Char) :
    Crosses (writeCaught caught) rest := by
  cases caught with
  | none =>
      exact Crosses.nil rest
  | some binding =>
      have hbinding := Crosses.binding binding (h binding rfl) (')' :: ' ' :: rest)
        (Stops.mark (by decide))
      rw [writeCaught_some]
      exact hbinding.parentheses.append (Crosses.blank rest)

theorem writeStmt_tryOnly (layout : Layout) (depth : Nat) (body : List Stmt) :
    writeStmt layout depth (.tryOnly body) =
      ['t', 'r', 'y'] ++ [' '] ++ writeBlock layout depth body := rfl

theorem writeStmt_tryCatch (layout : Layout) (depth : Nat) (body handler : List Stmt)
    (caught : Option Binding) :
    writeStmt layout depth (.tryCatch body caught handler) =
      ['t', 'r', 'y'] ++ [' '] ++ (writeBlock layout depth body ++
        ([' '] ++ (['c', 'a', 't', 'c', 'h'] ++ [' '] ++
          (writeCaught caught ++ writeBlock layout depth handler)))) := by
  change "try ".toList ++ writeBlock layout depth body ++ " catch ".toList ++
    writeCaught caught ++ writeBlock layout depth handler = _
  simp

mutual

theorem Ends.stmt {layout : Layout} (hlayout : BlankLayout layout) (depth : Nat)
    (stmt : Stmt) (h : stmt.WellNamed) (rest : List Char) :
    Ends (writeStmt layout depth stmt) rest := by
  cases stmt with
  | declare keyword declarators =>
      have htexts : forall text, text ∈ declarators.map writeDeclarator ->
          forall rest : List Char, Stops rest -> Crosses text rest := by
        intro text hmem rest hrest
        rcases List.mem_map.mp hmem with ⟨declarator, hin, rfl⟩
        exact Crosses.declarator declarator (h declarator hin) hrest
      have hdeclarators := Crosses.separated htexts
        (Stops.mark (by decide : ';' ∈ nameMarks) : Stops (';' :: rest))
      rw [writeStmt_declare, List.append_cons]
      apply (Crosses.spaced (isWord_text keyword) (text_ne_importWord keyword) _).ends
      exact hdeclarators.ends (Ends.semicolon rest)
  | tryOnly body =>
      rw [writeStmt_tryOnly]
      have hbody := Ends.block hlayout depth body h rest
      exact (Crosses.spaced (by decide) (by decide) _).ends hbody
  | tryCatch body caught handler =>
      rcases h with ⟨hbody, hcaught, hhandler⟩
      rw [writeStmt_tryCatch]
      apply (Crosses.spaced (by decide) (by decide) _).ends
      apply (Ends.block hlayout depth body hbody _).crosses.ends
      apply (Crosses.blank _).ends
      apply (Crosses.spaced (by decide) (by decide) _).ends
      have hblock := Ends.block hlayout depth handler hhandler rest
      exact (Crosses.caught caught hcaught _).ends hblock
  | expr expr =>
      exact (Crosses.expr expr h _ (Stops.mark (by decide))).ends (Ends.semicolon rest)

theorem Ends.block {layout : Layout} (hlayout : BlankLayout layout) (depth : Nat)
    (stmts : List Stmt) (h : BlockWellNamed stmts) (rest : List Char) :
    Ends (writeBlock layout depth stmts) rest := by
  cases stmts with
  | nil =>
      exact Ends.braces (Crosses.nil _)
  | cons stmt stmts =>
      have hstmt := Ends.stmt hlayout (depth + 1) stmt h.left
      have hlines := Crosses.lines hlayout (depth + 1) stmts h.right
      apply Ends.braces
      apply Crosses.append _ (Crosses.line hlayout depth _)
      apply Crosses.append _ (hlines _)
      exact (Crosses.line hlayout (depth + 1) _).append (hstmt _).crosses

theorem Crosses.lines {layout : Layout} (hlayout : BlankLayout layout) (depth : Nat)
    (stmts : List Stmt) (h : BlockWellNamed stmts) (rest : List Char) :
    Crosses (writeLines layout depth stmts) rest := by
  cases stmts with
  | nil =>
      exact Crosses.nil rest
  | cons stmt stmts =>
      have hstmt := Ends.stmt hlayout depth stmt h.left
      have hlines := Crosses.lines hlayout depth stmts h.right rest
      exact ((Crosses.line hlayout depth _).append (hstmt _).crosses).append hlines

end

/-- The scan passes over a list of statements, whatever follows. -/
theorem Ends.stmts {layout : Layout} (hlayout : BlankLayout layout) (stmt : Stmt)
    (stmts : List Stmt) (h : BlockWellNamed (stmt :: stmts)) (rest : List Char) :
    Ends (writeStmts layout (stmt :: stmts)) rest := by
  induction stmts generalizing stmt with
  | nil =>
      rw [writeStmts_singleton]
      exact Ends.stmt hlayout 0 stmt h.left rest
  | cons next stmts ih =>
      rw [writeStmts_cons_cons]
      apply (Ends.stmt hlayout 0 stmt h.left _).crosses.ends
      exact (Crosses.line hlayout 0 _).ends (ih next h.right)

/-!
# Declarations of names are barriers
-/

inductive Declares : List Char -> Prop where
  | nothing (rest : List Char) : Declares (';' :: rest)
  | binding {binding : Binding} {rest : List Char} :
      binding.WellNamed -> Stops rest -> Declares (writeBinding binding ++ rest)

theorem apart_mark (hc : c ∈ [';', '{']) (rest : List Char) : Apart (c :: rest) := by
  simp only [List.mem_cons, List.not_mem_nil, or_false] at hc
  have hskip : skipTrivia (c :: rest) = c :: rest := by
    rcases hc with rfl | rfl <;> exact skipTrivia_cons_of_ne rfl (by decide) rest
  constructor
  · rw [hskip]
    rcases hc with rfl | rfl <;> rintro ⟨⟩
  · rw [hskip]
    rcases hc with rfl | rfl <;> rintro behind ⟨⟩

theorem apart_word {word : List Char} (hword : IsWord word) (hrest : Stops rest) :
    Apart (word ++ rest) := by
  constructor
  · rw [hword.skipTrivia_append]
    exact hword.head?_append_ne rfl rest
  · rw [hword.skipTrivia_append]
    intro behind hfrom
    have hread := word?_eq_some_iff.mpr ⟨rfl, hword, hrest.endsWord⟩
    rw [after?_eq_some_iff, hread, Option.some.injEq, Prod.mk.injEq] at hfrom
    rw [← hfrom.right]
    exact hrest.literal?_eq_none

theorem Declares.apart (h : Declares text) : Apart text := by
  cases h with
  | nothing rest =>
      exact apart_mark (by decide) rest
  | @binding binding rest hbinding hrest =>
      cases binding with
      | name name =>
          exact apart_word hbinding hrest
      | object properties =>
          cases properties with
          | nil =>
              exact apart_mark (by decide) _
          | cons property properties =>
              exact apart_mark (by decide) _

theorem Apart.blank (h : Apart rest) : Apart (' ' :: rest) := by
  constructor
  · rw [skipTrivia_cons_of_isBlank rfl]
    exact h.comma
  · rw [skipTrivia_cons_of_isBlank rfl]
    exact h.source

theorem declares_declarator {declarator : Declarator} (h : declarator.WellNamed)
    (hrest : Stops rest) : Declares (writeDeclarator declarator ++ rest) := by
  rw [writeDeclarator, List.append_assoc]
  cases declarator.value with
  | none =>
      exact Declares.binding h.binding hrest
  | some value =>
      exact Declares.binding h.binding (Stops.blank (by decide))

theorem declares_declarators (declarators : List Declarator)
    (h : forall declarator, declarator ∈ declarators -> declarator.WellNamed)
    (rest : List Char) :
    Declares (Script.separated [',', ' '] (declarators.map writeDeclarator) ++
      ';' :: rest) := by
  cases declarators with
  | nil =>
      exact Declares.nothing rest
  | cons declarator declarators =>
      have hdeclarator := h declarator List.mem_cons_self
      cases declarators with
      | nil =>
          rw [List.map_singleton, Script.separated, List.intercalate_singleton]
          exact declares_declarator hdeclarator (Stops.mark (by decide))
      | cons next declarators =>
          rw [List.map_cons, List.map_cons, Script.separated, List.intercalate_cons_cons,
            List.append_assoc, List.append_assoc]
          exact declares_declarator hdeclarator (Stops.mark (by decide))

theorem barred_declare (layout : Layout) (depth : Nat) (keyword : Keyword)
    {declarators : List Declarator}
    (h : (Stmt.declare keyword declarators).WellNamed) (rest : List Char) :
    Barred (writeStmt layout depth (.declare keyword declarators) ++ rest) := by
  have hdeclares := declares_declarators declarators h rest
  have htext : writeStmt layout depth (.declare keyword declarators) ++ rest =
      keyword.text ++ ' ' :: (Script.separated [',', ' ']
        (declarators.map writeDeclarator) ++ ';' :: rest) := by
    rw [writeStmt_declare]
    simp
  have hread := word?_eq_some_iff.mpr ⟨htext, isWord_text keyword, endsWord_blank _⟩
  have hkeyword : keyword.text ∉ keywords := by
    cases keyword with
    | letKeyword =>
        decide
    | constKeyword =>
        decide
  exact Barred.intro hread hkeyword hdeclares.apart.blank

end

end Import
end RemoteImports
