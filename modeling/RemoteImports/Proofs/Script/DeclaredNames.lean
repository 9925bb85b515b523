import RemoteImports.Script.Syntax

/-!
# Declared names

The names that a list of statements declares in the scope it stands in, in the
order of its declarations.  The names that a block or a handler declares for
itself are not among them.
-/

namespace RemoteImports
namespace Script

mutual

def Binding.names : Binding -> List String
  | .name name => [name]
  | .object properties => namesOfProperties properties

def namesOfProperties : List Property -> List String
  | [] => []
  | property :: properties => property.names ++ namesOfProperties properties

def Property.names : Property -> List String
  | .bind _ value _ => value.names

end

def Stmt.declaredNames : Stmt -> List String
  | .declare _ declarators => declarators.flatMap fun declarator =>
      declarator.binding.names
  | _ => []

def declaredNames (stmts : List Stmt) : List String :=
  stmts.flatMap Stmt.declaredNames

@[simp] theorem declaredNames_nil : declaredNames [] = [] := rfl

@[simp] theorem declaredNames_cons (stmt : Stmt) (stmts : List Stmt) :
    declaredNames (stmt :: stmts) = stmt.declaredNames ++ declaredNames stmts := rfl

@[simp] theorem declaredNames_append (first second : List Stmt) :
    declaredNames (first ++ second) = declaredNames first ++ declaredNames second :=
  List.flatMap_append

@[simp] theorem declaredNames_declare (keyword : Keyword) (binding : Binding)
    (value : Option Expr) :
    (Stmt.declare keyword [{ binding, value }]).declaredNames = binding.names := by
  simp [Stmt.declaredNames]

@[simp] theorem declaredNames_tryCatch (body handler : List Stmt)
    (caught : Option Binding) :
    (Stmt.tryCatch body caught handler).declaredNames = [] := rfl

@[simp] theorem names_name (name : String) : (Binding.name name).names = [name] := by
  rw [Binding.names]

@[simp] theorem names_ofNames (key binding : String) :
    (Property.ofNames key binding).names = [binding] := by
  rw [Property.ofNames, Property.names, names_name]

theorem names_object (properties : List Property) :
    (Binding.object properties).names = properties.flatMap Property.names := by
  rw [Binding.names]
  induction properties with
  | nil =>
      rw [namesOfProperties, List.flatMap_nil]
  | cons property properties ih =>
      rw [namesOfProperties, ih, List.flatMap_cons]

end Script
end RemoteImports
