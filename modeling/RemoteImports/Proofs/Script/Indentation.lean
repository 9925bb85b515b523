import RemoteImports.Proofs.Script.Literal
import RemoteImports.Proofs.Script.Parts

/-!
# Indentation of written statements

What is put before every line but the first shows at the beginnings of lines
only: no text literal is written over several lines.  A writer that keeps count
of the open blocks writes the same text, and every block that it enters it
leaves again.
-/

namespace RemoteImports
namespace Script

/-!
# Names on one line
-/

mutual

/-- No name and no comment of the expression has a line feed inside. -/
def Expr.OnOneLine : Expr -> Prop
  | .name name => '\n' ∉ name.toList
  | .text _ => True
  | .member object property => object.OnOneLine ∧ '\n' ∉ property.toList
  | .call callee arguments => callee.OnOneLine ∧ ArgumentsOnOneLine arguments
  | .load address => address.OnOneLine
  | .await argument => argument.OnOneLine
  | .assign target value => target.OnOneLine ∧ value.OnOneLine
  | .commented comment expr => '\n' ∉ comment.toList ∧ expr.OnOneLine

def ArgumentsOnOneLine : List Expr -> Prop
  | [] => True
  | expr :: exprs => expr.OnOneLine ∧ ArgumentsOnOneLine exprs

end

def Key.OnOneLine : Key -> Prop
  | .name key => '\n' ∉ key.toList
  | .text _ => True

mutual

def Binding.OnOneLine : Binding -> Prop
  | .name name => '\n' ∉ name.toList
  | .object properties => PropertiesOnOneLine properties

def PropertiesOnOneLine : List Property -> Prop
  | [] => True
  | property :: properties => property.OnOneLine ∧ PropertiesOnOneLine properties

def Property.OnOneLine : Property -> Prop
  | .bind key value _ => key.OnOneLine ∧ value.OnOneLine

end

section

variable {c : Char} {text : List Char} {texts : List (List Char)}

/-!
# What is written on one line
-/

theorem newline_not_mem_writeChar (c : Char) : '\n' ∉ writeChar c := by
  unfold writeChar
  split
  · decide
  split
  · decide
  split
  · decide
  split
  · decide
  split
  · decide
  split
  · decide
  split
  · rename_i hcontrol
    rw [isControl_iff] at hcontrol
    simp [newline_not_mem_hexDigits (by omega : c.toNat < 160)]
  · rename_i hline _ _ _ _
    rw [List.mem_singleton]
    exact Ne.symm hline

theorem newline_not_mem_writeLiteral (value : List Char) : '\n' ∉ writeLiteral value := by
  have hvalue : '\n' ∉ value.flatMap writeChar := by
    intro hmem
    rcases List.mem_flatMap.mp hmem with ⟨c, _, hc⟩
    exact newline_not_mem_writeChar c hc
  simp [writeLiteral, hvalue]

theorem newline_not_mem_separated (htexts : forall text, text ∈ texts -> '\n' ∉ text) :
    '\n' ∉ separated [',', ' '] texts := by
  induction texts with
  | nil =>
      exact List.not_mem_nil
  | cons text texts ih =>
      rw [List.forall_mem_cons] at htexts
      cases texts with
      | nil =>
          rw [separated, List.intercalate_singleton]
          exact htexts.left
      | cons next texts =>
          have hlater := ih htexts.right
          rw [separated] at hlater
          rw [separated, List.intercalate_cons_cons]
          simp [htexts.left, hlater]

mutual

theorem Expr.OnOneLine.newline_not_mem (expr : Expr) (h : expr.OnOneLine) :
    '\n' ∉ writeExpr expr := by
  cases expr with
  | name name =>
      unfold writeExpr
      exact h
  | text value =>
      unfold writeExpr
      exact newline_not_mem_writeLiteral value.toList
  | member object property =>
      have hobject := Expr.OnOneLine.newline_not_mem object h.left
      unfold writeExpr
      simp [hobject, h.right]
  | call callee arguments =>
      have hcallee := Expr.OnOneLine.newline_not_mem callee h.left
      have harguments :=
        newline_not_mem_separated (newline_not_mem_writeArguments arguments h.right)
      unfold writeExpr
      simp [hcallee, harguments]
  | load address =>
      have haddress := Expr.OnOneLine.newline_not_mem address h
      unfold writeExpr
      simp [haddress]
  | await argument =>
      have hargument := Expr.OnOneLine.newline_not_mem argument h
      unfold writeExpr
      simp [hargument]
  | assign target value =>
      have htarget := Expr.OnOneLine.newline_not_mem target h.left
      have hvalue := Expr.OnOneLine.newline_not_mem value h.right
      unfold writeExpr
      simp [htarget, hvalue]
  | commented comment expr =>
      have hexpr := Expr.OnOneLine.newline_not_mem expr h.right
      unfold writeExpr
      simp [h.left, hexpr]

theorem newline_not_mem_writeArguments (exprs : List Expr) (h : ArgumentsOnOneLine exprs) :
    forall text, text ∈ writeArguments exprs -> '\n' ∉ text := by
  cases exprs with
  | nil =>
      intro text hmem
      cases hmem
  | cons expr exprs =>
      rw [writeArguments, List.forall_mem_cons]
      exact ⟨Expr.OnOneLine.newline_not_mem expr h.left,
        newline_not_mem_writeArguments exprs h.right⟩

end

theorem Key.OnOneLine.newline_not_mem {key : Key} (h : key.OnOneLine) :
    '\n' ∉ writeKey key := by
  cases key with
  | name key =>
      exact h
  | text value =>
      exact newline_not_mem_writeLiteral value.toList

mutual

theorem Binding.OnOneLine.newline_not_mem (binding : Binding) (h : binding.OnOneLine) :
    '\n' ∉ writeBinding binding := by
  cases binding with
  | name name =>
      exact h
  | object properties =>
      cases properties with
      | nil =>
          simp [writeBinding]
      | cons property properties =>
          have hproperties := newline_not_mem_separated
            (newline_not_mem_writeProperties (property :: properties) h)
          simp [writeBinding, hproperties]

theorem newline_not_mem_writeProperties (properties : List Property)
    (h : PropertiesOnOneLine properties) :
    forall text, text ∈ writeProperties properties -> '\n' ∉ text := by
  cases properties with
  | nil =>
      intro text hmem
      cases hmem
  | cons property properties =>
      rw [writeProperties, List.forall_mem_cons]
      exact ⟨Property.OnOneLine.newline_not_mem property h.left,
        newline_not_mem_writeProperties properties h.right⟩

theorem Property.OnOneLine.newline_not_mem (property : Property) (h : property.OnOneLine) :
    '\n' ∉ writeProperty property := by
  cases property with
  | bind key value shorthand =>
      have hvalue := Binding.OnOneLine.newline_not_mem value h.right
      cases shorthand with
      | true =>
          exact hvalue
      | false =>
          simp [writeProperty, h.left.newline_not_mem, hvalue]

end

theorem newline_not_mem_writeDeclarator {declarator : Declarator}
    (h : declarator.Every Expr.OnOneLine Binding.OnOneLine) :
    '\n' ∉ writeDeclarator declarator := by
  have hbinding := Binding.OnOneLine.newline_not_mem declarator.binding h.binding
  rw [writeDeclarator]
  cases hvalue : declarator.value with
  | none =>
      simp [hbinding]
  | some value =>
      have hexpr := Expr.OnOneLine.newline_not_mem value (h.value value hvalue)
      simp [hbinding, hexpr]

theorem newline_not_mem_writeCaught {caught : Option Binding}
    (h : forall binding, caught = some binding -> binding.OnOneLine) :
    '\n' ∉ writeCaught caught := by
  cases caught with
  | none =>
      exact List.not_mem_nil
  | some binding =>
      have hbinding := Binding.OnOneLine.newline_not_mem binding (h binding rfl)
      simp [writeCaught, hbinding]

/-!
# What is inserted behind line feeds
-/

def indented (base text : List Char) : List Char :=
  text.flatMap fun c => if c = '\n' then '\n' :: base else [c]

variable {base indent : List Char} {depth : Nat}

theorem indented_append (base first second : List Char) :
    indented base (first ++ second) = indented base first ++ indented base second := by
  rw [indented, List.flatMap_append]
  rfl

theorem indented_cons_of_ne (base : List Char) (h : c ≠ '\n') (text : List Char) :
    indented base (c :: text) = c :: indented base text := by
  rw [indented, List.flatMap_cons, if_neg h]
  rfl

theorem indented_of_not_mem (base : List Char) (h : '\n' ∉ text) :
    indented base text = text := by
  induction text with
  | nil =>
      rfl
  | cons c text ih =>
      rw [List.mem_cons, not_or] at h
      rw [indented_cons_of_ne base (Ne.symm h.left), ih h.right]

theorem newline_not_mem_indents (depth : Nat) (h : '\n' ∉ indent) :
    '\n' ∉ (List.replicate depth indent).flatten := by
  intro hmem
  rcases List.mem_flatten.mp hmem with ⟨text, htext, hc⟩
  rw [List.eq_of_mem_replicate htext] at hc
  exact h hc

theorem indented_line (base : List Char) (depth : Nat) (h : '\n' ∉ indent) :
    indented base (Layout.line ⟨indent, []⟩ depth) = Layout.line ⟨indent, base⟩ depth := by
  have hindents := indented_of_not_mem base (newline_not_mem_indents depth h)
  rw [indented] at hindents
  rw [indented, Layout.line, List.nil_append, List.flatMap_cons, hindents, if_pos rfl]
  rfl

mutual

theorem indented_writeStmt (base : List Char) (hindent : '\n' ∉ indent) (depth : Nat)
    (stmt : Stmt) (h : stmt.Every Expr.OnOneLine Binding.OnOneLine) :
    indented base (writeStmt ⟨indent, []⟩ depth stmt) =
      writeStmt ⟨indent, base⟩ depth stmt := by
  cases stmt with
  | declare keyword declarators =>
      have hkeyword : '\n' ∉ keyword.text := by
        cases keyword with
        | letKeyword =>
            decide
        | constKeyword =>
            decide
      have hdeclarators : '\n' ∉ separated [',', ' '] (declarators.map writeDeclarator) := by
        apply newline_not_mem_separated
        rw [List.forall_mem_map]
        exact fun declarator hmem => newline_not_mem_writeDeclarator (h declarator hmem)
      rw [writeStmt_declare, writeStmt_declare]
      apply indented_of_not_mem
      simp [hkeyword, hdeclarators]
  | tryOnly body =>
      have hbody := indented_writeBlock base hindent depth body h
      unfold writeStmt
      rw [indented_append, hbody]
      rfl
  | tryCatch body caught handler =>
      have hbody := indented_writeBlock base hindent depth body h.left
      have hcaught := indented_of_not_mem base (newline_not_mem_writeCaught h.right.left)
      have hhandler := indented_writeBlock base hindent depth handler h.right.right
      unfold writeStmt
      rw [indented_append, indented_append, indented_append, indented_append, hbody, hcaught,
        hhandler]
      rfl
  | expr expr =>
      have hexpr := Expr.OnOneLine.newline_not_mem expr h
      unfold writeStmt
      apply indented_of_not_mem
      simp [hexpr]

theorem indented_writeBlock (base : List Char) (hindent : '\n' ∉ indent) (depth : Nat)
    (stmts : List Stmt) (h : EveryIn Expr.OnOneLine Binding.OnOneLine stmts) :
    indented base (writeBlock ⟨indent, []⟩ depth stmts) =
      writeBlock ⟨indent, base⟩ depth stmts := by
  cases stmts with
  | nil =>
      rfl
  | cons stmt stmts =>
      have hstmt := indented_writeStmt base hindent (depth + 1) stmt h.left
      have hlines := indented_writeLines base hindent (depth + 1) stmts h.right
      rw [writeBlock, writeBlock, indented_cons_of_ne base (by decide), indented_append,
        indented_append, indented_append, indented_append, indented_line base _ hindent,
        indented_line base _ hindent, hstmt, hlines]
      rfl

theorem indented_writeLines (base : List Char) (hindent : '\n' ∉ indent) (depth : Nat)
    (stmts : List Stmt) (h : EveryIn Expr.OnOneLine Binding.OnOneLine stmts) :
    indented base (writeLines ⟨indent, []⟩ depth stmts) =
      writeLines ⟨indent, base⟩ depth stmts := by
  cases stmts with
  | nil =>
      rfl
  | cons stmt stmts =>
      have hstmt := indented_writeStmt base hindent depth stmt h.left
      have hlines := indented_writeLines base hindent depth stmts h.right
      rw [writeLines, writeLines, indented_append, indented_append,
        indented_line base _ hindent, hstmt, hlines]

end

end

/-!
# Writing with a count of the open blocks
-/

/-- What is written so far, and how many blocks are open. -/
structure Emitter where
  written : List Char := []
  level : Nat := 0

namespace Emitter

def put (emitter : Emitter) (text : List Char) : Emitter :=
  { emitter with written := emitter.written ++ text }

def newline (emitter : Emitter) (layout : Layout) : Emitter :=
  emitter.put (layout.line emitter.level)

def enter (emitter : Emitter) : Emitter :=
  { emitter with level := emitter.level + 1 }

def leave (emitter : Emitter) : Emitter :=
  { emitter with level := emitter.level - 1 }

mutual

def stmt (layout : Layout) (emitter : Emitter) : Stmt -> Emitter
  | .declare keyword declarators =>
      (((emitter.put keyword.text).put [' ']).put
        (separated [',', ' '] (declarators.map writeDeclarator))).put [';']
  | .tryOnly body => block layout (emitter.put "try ".toList) body
  | .tryCatch body caught handler =>
      let emitter := block layout (emitter.put "try ".toList) body
      block layout ((emitter.put " catch ".toList).put (writeCaught caught)) handler
  | .expr expr => (emitter.put (writeExpr expr)).put [';']

def block (layout : Layout) (emitter : Emitter) : List Stmt -> Emitter
  | [] => (emitter.put ['{']).put ['}']
  | first :: stmts =>
      let emitter := ((emitter.put ['{']).enter.newline layout).stmt layout first
      ((emitter.lines layout stmts).leave.newline layout).put ['}']

def lines (layout : Layout) (emitter : Emitter) : List Stmt -> Emitter
  | [] => emitter
  | first :: stmts => ((emitter.newline layout).stmt layout first).lines layout stmts

end

def stmts (layout : Layout) (emitter : Emitter) : List Stmt -> Emitter
  | [] => emitter
  | first :: stmts => (emitter.stmt layout first).lines layout stmts

section

variable (layout : Layout) (emitter : Emitter)

theorem put_nil : emitter.put [] = emitter := by
  rw [put, List.append_nil]

theorem put_put (first second : List Char) :
    (emitter.put first).put second = emitter.put (first ++ second) := by
  rw [put, put, put, List.append_assoc]

@[simp]
theorem level_put (text : List Char) : (emitter.put text).level = emitter.level := rfl

@[simp]
theorem level_enter : emitter.enter.level = emitter.level + 1 := rfl

theorem newline_eq_put : emitter.newline layout = emitter.put (layout.line emitter.level) := rfl

/-- A block that is entered and left again leaves its text. -/
theorem leave_put_enter (text : List Char) :
    (emitter.enter.put text).leave = emitter.put text := rfl

mutual

theorem stmt_eq_put (emitter : Emitter) (first : Stmt) :
    emitter.stmt layout first = emitter.put (writeStmt layout emitter.level first) := by
  cases first with
  | declare keyword declarators =>
      simp [stmt, writeStmt_declare, put_put]
  | tryOnly body =>
      unfold writeStmt
      rw [stmt, block_eq_put, put_put, level_put]
  | tryCatch body caught handler =>
      unfold writeStmt
      rw [stmt, block_eq_put, block_eq_put]
      simp only [put_put, level_put, List.append_assoc]
  | expr expr =>
      unfold writeStmt
      rw [stmt, put_put]

theorem block_eq_put (emitter : Emitter) (stmts : List Stmt) :
    emitter.block layout stmts = emitter.put (writeBlock layout emitter.level stmts) := by
  cases stmts with
  | nil =>
      rw [block, writeBlock, put_put]
      rfl
  | cons first stmts =>
      rw [block, writeBlock, stmt_eq_put, lines_eq_put]
      simp only [newline_eq_put, put_put, leave_put_enter, level_put, level_enter,
        List.append_assoc, List.cons_append, List.nil_append]

theorem lines_eq_put (emitter : Emitter) (stmts : List Stmt) :
    emitter.lines layout stmts = emitter.put (writeLines layout emitter.level stmts) := by
  cases stmts with
  | nil =>
      exact (put_nil emitter).symm
  | cons first stmts =>
      rw [lines, writeLines, stmt_eq_put, lines_eq_put]
      simp only [newline_eq_put, put_put, level_put, List.append_assoc]

end

theorem stmts_eq (stmts : List Stmt) :
    (emitter.stmts layout stmts).level = emitter.level ∧
      (({} : Emitter).stmts layout stmts).written = writeStmts layout stmts := by
  cases stmts with
  | nil =>
      exact ⟨rfl, rfl⟩
  | cons first stmts =>
      rw [Emitter.stmts, Emitter.stmts, writeStmts]
      simp only [stmt_eq_put, lines_eq_put, put_put, level_put]
      exact ⟨trivial, List.nil_append _⟩

end

end Emitter

/-- What is put before lines stands behind line feeds only, and behind a list of
statements as many blocks are open as before it. -/
theorem writeStmts_base {indent : List Char} {stmts : List Stmt}
    (hindent : '\n' ∉ indent) (hstmts : EveryIn Expr.OnOneLine Binding.OnOneLine stmts)
    (base : List Char) :
    writeStmts ⟨indent, base⟩ stmts = indented base (writeStmts ⟨indent, []⟩ stmts) ∧
      (({} : Emitter).stmts ⟨indent, base⟩ stmts).written = writeStmts ⟨indent, base⟩ stmts ∧
      forall emitter : Emitter,
        (emitter.stmts ⟨indent, base⟩ stmts).level = emitter.level := by
  refine ⟨?_, (Emitter.stmts_eq _ {} stmts).right, ?_⟩
  · cases stmts with
    | nil =>
        rfl
    | cons stmt stmts =>
        rw [writeStmts, writeStmts, indented_append,
          indented_writeStmt base hindent 0 stmt hstmts.left,
          indented_writeLines base hindent 0 stmts hstmts.right]
  · exact fun emitter => (Emitter.stmts_eq _ emitter stmts).left

/-- A text over two lines is assigned within a block. -/
theorem writeStmts_base_try :
    let stmts : List Stmt :=
      [.tryCatch [.expr (.assign (.name "x") (.text "a\nb"))] (some (.name "err")) []]
    '\n' ∉ [' ', ' '] ∧ EveryIn Expr.OnOneLine Binding.OnOneLine stmts ∧
      writeStmts ⟨[' ', ' '], ['\t']⟩ stmts =
        indented ['\t'] (writeStmts ⟨[' ', ' '], []⟩ stmts) ∧
      (({} : Emitter).stmts ⟨[' ', ' '], ['\t']⟩ stmts).written =
        writeStmts ⟨[' ', ' '], ['\t']⟩ stmts ∧
      forall emitter : Emitter,
        (emitter.stmts ⟨[' ', ' '], ['\t']⟩ stmts).level = emitter.level := by
  intro stmts
  have hindent : '\n' ∉ [' ', ' '] := by
    decide
  have hstmts : EveryIn Expr.OnOneLine Binding.OnOneLine stmts := by
    refine ⟨⟨⟨⟨?_, trivial⟩, trivial⟩, ?_, trivial⟩, trivial⟩
    · change '\n' ∉ "x".toList
      decide
    · rintro binding ⟨⟩
      change '\n' ∉ "err".toList
      decide
  exact ⟨hindent, hstmts, writeStmts_base hindent hstmts ['\t']⟩

end Script
end RemoteImports
