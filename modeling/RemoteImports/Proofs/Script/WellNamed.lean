import RemoteImports.Proofs.Script.Trivia
import RemoteImports.Script.Printer

/-!
# Well-named statements

Statements hold names as texts.  They are written as they are meant if each
name is a word and no comment has its own end inside.
-/

namespace RemoteImports
namespace Script

mutual

def Expr.WellNamed : Expr -> Prop
  | .name name => IsWord name.toList
  | .text _ => True
  | .member object property => object.WellNamed ∧ IsWord property.toList
  | .call callee arguments => callee.WellNamed ∧ ArgumentsWellNamed arguments
  | .load address => address.WellNamed
  | .await argument => argument.WellNamed
  | .assign target value => target.WellNamed ∧ value.WellNamed
  | .commented comment expr => ¬ ['*', '/'] <:+: comment.toList ∧ expr.WellNamed

def ArgumentsWellNamed : List Expr -> Prop
  | [] => True
  | expr :: exprs => expr.WellNamed ∧ ArgumentsWellNamed exprs

end

def Key.WellNamed : Key -> Prop
  | .name key => IsWord key.toList
  | .text _ => True

mutual

def Binding.WellNamed : Binding -> Prop
  | .name name => IsWord name.toList
  | .object properties => PropertiesWellNamed properties

def PropertiesWellNamed : List Property -> Prop
  | [] => True
  | property :: properties => property.WellNamed ∧ PropertiesWellNamed properties

def Property.WellNamed : Property -> Prop
  | .bind key value _ => key.WellNamed ∧ value.WellNamed

end

structure Declarator.WellNamed (declarator : Declarator) : Prop where
  binding : declarator.binding.WellNamed
  value : forall value, declarator.value = some value -> value.WellNamed

mutual

def Stmt.WellNamed : Stmt -> Prop
  | .declare _ declarators =>
      forall declarator, declarator ∈ declarators -> declarator.WellNamed
  | .tryOnly body => BlockWellNamed body
  | .tryCatch body caught handler =>
      BlockWellNamed body ∧ (forall binding, caught = some binding -> binding.WellNamed) ∧
        BlockWellNamed handler
  | .expr expr => expr.WellNamed

def BlockWellNamed : List Stmt -> Prop
  | [] => True
  | stmt :: stmts => stmt.WellNamed ∧ BlockWellNamed stmts

end

theorem isWord_text (keyword : Keyword) : IsWord keyword.text := by
  cases keyword with
  | letKeyword =>
      decide
  | constKeyword =>
      decide

theorem blockWellNamed_iff {stmts : List Stmt} :
    BlockWellNamed stmts <-> forall stmt, stmt ∈ stmts -> stmt.WellNamed := by
  induction stmts with
  | nil =>
      simp [BlockWellNamed]
  | cons stmt stmts ih =>
      rw [BlockWellNamed, ih, List.forall_mem_cons]

theorem propertiesWellNamed_iff {properties : List Property} :
    PropertiesWellNamed properties <->
      forall property, property ∈ properties -> property.WellNamed := by
  induction properties with
  | nil =>
      simp [PropertiesWellNamed]
  | cons property properties ih =>
      rw [PropertiesWellNamed, ih, List.forall_mem_cons]

end Script
end RemoteImports
