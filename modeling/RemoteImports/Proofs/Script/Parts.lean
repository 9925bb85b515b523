import RemoteImports.Script.Printer

/-!
# Parts of statements

A condition on expressions and one on bindings carry over to the statements that
are made of them, and so does a change of expressions.
-/

namespace RemoteImports
namespace Script

structure Declarator.Every (p : Expr -> Prop) (q : Binding -> Prop)
    (declarator : Declarator) : Prop where
  binding : q declarator.binding
  value : forall value, declarator.value = some value -> p value

mutual

def Stmt.Every (p : Expr -> Prop) (q : Binding -> Prop) : Stmt -> Prop
  | .declare _ declarators =>
      forall declarator, declarator ∈ declarators -> declarator.Every p q
  | .tryOnly body => EveryIn p q body
  | .tryCatch body caught handler =>
      EveryIn p q body ∧ (forall binding, caught = some binding -> q binding) ∧
        EveryIn p q handler
  | .expr expr => p expr

def EveryIn (p : Expr -> Prop) (q : Binding -> Prop) : List Stmt -> Prop
  | [] => True
  | stmt :: stmts => stmt.Every p q ∧ EveryIn p q stmts

end

def Declarator.mapValue (f : Expr -> Expr) (declarator : Declarator) : Declarator :=
  { declarator with value := declarator.value.map f }

mutual

def Stmt.mapExprs (f : Expr -> Expr) : Stmt -> Stmt
  | .declare keyword declarators => .declare keyword (declarators.map (·.mapValue f))
  | .tryOnly body => .tryOnly (mapExprsIn f body)
  | .tryCatch body caught handler => .tryCatch (mapExprsIn f body) caught (mapExprsIn f handler)
  | .expr expr => .expr (f expr)

def mapExprsIn (f : Expr -> Expr) : List Stmt -> List Stmt
  | [] => []
  | stmt :: stmts => stmt.mapExprs f :: mapExprsIn f stmts

end

section

variable {p p' : Expr -> Prop} {q : Binding -> Prop} {f : Expr -> Expr}

/-!
# Conditions on parts
-/

theorem Declarator.Every.mapValue (hf : forall expr, p expr -> p' (f expr))
    {declarator : Declarator} (h : declarator.Every p q) :
    (declarator.mapValue f).Every p' q := by
  refine ⟨h.binding, ?_⟩
  intro value hvalue
  rcases Option.map_eq_some_iff.mp hvalue with ⟨before, hbefore, rfl⟩
  exact hf before (h.value before hbefore)

mutual

theorem Stmt.Every.mapExprs (hf : forall expr, p expr -> p' (f expr)) (stmt : Stmt)
    (h : stmt.Every p q) : (stmt.mapExprs f).Every p' q := by
  cases stmt with
  | declare keyword declarators =>
      intro declarator hmem
      rcases List.mem_map.mp hmem with ⟨before, hbefore, rfl⟩
      exact (h before hbefore).mapValue hf
  | tryOnly body =>
      exact EveryIn.mapExprsIn hf body h
  | tryCatch body caught handler =>
      exact ⟨EveryIn.mapExprsIn hf body h.left, h.right.left,
        EveryIn.mapExprsIn hf handler h.right.right⟩
  | expr expr =>
      exact hf expr h

theorem EveryIn.mapExprsIn (hf : forall expr, p expr -> p' (f expr)) (stmts : List Stmt)
    (h : EveryIn p q stmts) : EveryIn p' q (mapExprsIn f stmts) := by
  cases stmts with
  | nil =>
      trivial
  | cons stmt stmts =>
      exact ⟨Stmt.Every.mapExprs hf stmt h.left, EveryIn.mapExprsIn hf stmts h.right⟩

end

/-!
# Changes that change nothing
-/

theorem Declarator.Every.mapValue_eq (hf : forall expr, p expr -> f expr = expr)
    {declarator : Declarator} (h : declarator.Every p q) :
    declarator.mapValue f = declarator := by
  rcases declarator with ⟨binding, value⟩
  cases value with
  | none =>
      rfl
  | some value =>
      rw [Declarator.mapValue, Option.map_some, hf value (h.value value rfl)]

mutual

theorem Stmt.Every.mapExprs_eq (hf : forall expr, p expr -> f expr = expr) (stmt : Stmt)
    (h : stmt.Every p q) : stmt.mapExprs f = stmt := by
  cases stmt with
  | declare keyword declarators =>
      have hsame : declarators.map (·.mapValue f) = declarators.map id :=
        List.map_congr_left fun declarator hmem => (h declarator hmem).mapValue_eq hf
      rw [Stmt.mapExprs, hsame, List.map_id]
  | tryOnly body =>
      rw [Stmt.mapExprs, EveryIn.mapExprsIn_eq hf body h]
  | tryCatch body caught handler =>
      rw [Stmt.mapExprs, EveryIn.mapExprsIn_eq hf body h.left,
        EveryIn.mapExprsIn_eq hf handler h.right.right]
  | expr expr =>
      rw [Stmt.mapExprs, hf expr h]

theorem EveryIn.mapExprsIn_eq (hf : forall expr, p expr -> f expr = expr) (stmts : List Stmt)
    (h : EveryIn p q stmts) : mapExprsIn f stmts = stmts := by
  cases stmts with
  | nil =>
      rfl
  | cons stmt stmts =>
      rw [Script.mapExprsIn, Stmt.Every.mapExprs_eq hf stmt h.left,
        EveryIn.mapExprsIn_eq hf stmts h.right]

end

/-!
# Changes that are not written
-/

theorem writeDeclarator_mapValue (hf : forall expr, writeExpr (f expr) = writeExpr expr)
    (declarator : Declarator) :
    writeDeclarator (declarator.mapValue f) = writeDeclarator declarator := by
  rcases declarator with ⟨binding, value⟩
  cases value with
  | none =>
      rfl
  | some value =>
      rw [writeDeclarator, writeDeclarator, Declarator.mapValue]
      simp only [Option.map_some, hf]

variable (layout : Layout)

mutual

theorem writeStmt_mapExprs (hf : forall expr, writeExpr (f expr) = writeExpr expr)
    (depth : Nat) (stmt : Stmt) :
    writeStmt layout depth (stmt.mapExprs f) = writeStmt layout depth stmt := by
  cases stmt with
  | declare keyword declarators =>
      have hsame : writeDeclarator ∘ (·.mapValue f) = writeDeclarator :=
        funext (writeDeclarator_mapValue hf)
      rw [Stmt.mapExprs, writeStmt_declare, writeStmt_declare, List.map_map, hsame]
  | tryOnly body =>
      unfold Stmt.mapExprs writeStmt
      rw [writeBlock_mapExprsIn hf depth body]
  | tryCatch body caught handler =>
      unfold Stmt.mapExprs writeStmt
      rw [writeBlock_mapExprsIn hf depth body, writeBlock_mapExprsIn hf depth handler]
  | expr expr =>
      unfold Stmt.mapExprs writeStmt
      rw [hf]

theorem writeBlock_mapExprsIn (hf : forall expr, writeExpr (f expr) = writeExpr expr)
    (depth : Nat) (stmts : List Stmt) :
    writeBlock layout depth (mapExprsIn f stmts) = writeBlock layout depth stmts := by
  cases stmts with
  | nil =>
      rfl
  | cons stmt stmts =>
      rw [mapExprsIn, writeBlock, writeBlock, writeStmt_mapExprs hf (depth + 1) stmt,
        writeLines_mapExprsIn hf (depth + 1) stmts]

theorem writeLines_mapExprsIn (hf : forall expr, writeExpr (f expr) = writeExpr expr)
    (depth : Nat) (stmts : List Stmt) :
    writeLines layout depth (mapExprsIn f stmts) = writeLines layout depth stmts := by
  cases stmts with
  | nil =>
      rfl
  | cons stmt stmts =>
      rw [mapExprsIn, writeLines, writeLines, writeStmt_mapExprs hf depth stmt,
        writeLines_mapExprsIn hf depth stmts]

end

theorem writeStmts_mapExprsIn (hf : forall expr, writeExpr (f expr) = writeExpr expr)
    (stmts : List Stmt) :
    writeStmts layout (mapExprsIn f stmts) = writeStmts layout stmts := by
  cases stmts with
  | nil =>
      rfl
  | cons stmt stmts =>
      rw [mapExprsIn, writeStmts, writeStmts, writeStmt_mapExprs layout hf 0 stmt,
        writeLines_mapExprsIn layout hf 0 stmts]

end

end Script
end RemoteImports
