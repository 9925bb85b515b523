import RemoteImports.Proofs.Computation
import RemoteImports.Proofs.Script.DeclaredNames
import RemoteImports.Proofs.Script.Scopes

/-!
# What statements do

The meaning of the statements that replacements are written in.  Loading a
module yields its exports or throws at once; a load is a value like any
other, so that awaiting it changes nothing.  Every load that is tried is
noted.

Where the language would refuse a script or throw an error of its own, a run
ends with a fault.  So it does where a value is asked for more than the
statements here ever ask of it: only objects have properties, only names are
assigned to, and the only functions are those that load a module.
-/

namespace RemoteImports
namespace Script

/-- By whom a module is loaded: the language itself, or an object with a
function for it. -/
inductive Route where
  | builtin
  | importer (name : String)
deriving DecidableEq

inductive Value where
  | undefined
  | text (value : String)
  | object (properties : String -> Value)
  | loading (route : Route)
  | fault

abbrev Exports := String -> Value

abbrev Loads := Route -> String -> Except Value Exports

/-- What a running script works on: the scopes around it, and the loads that
were tried. -/
structure Environment where
  scopes : Scopes Value
  tried : List (Route × String)

/-- A part of a run.  It may throw, and what it did until then stays done. -/
abbrev Running := ExceptT Value (StateM Environment)

def read (name : String) : Running Value := do
  match (<- get).scopes.value? name with
  | some value => return value
  | none => throw .fault

def initialise (name : String) (slot : Slot Value) : Running Unit :=
  modify fun environment =>
    { environment with scopes := environment.scopes.initialise name slot }

def assign (name : String) (value : Value) : Running Unit := do
  let environment <- get
  match environment.scopes.assign? name value with
  | some scopes => set { environment with scopes }
  | none => throw .fault

def tryLoad (loads : Loads) (route : Route) : Value -> Running Value
  | .text address => do
      modify fun environment =>
        { environment with tried := environment.tried ++ [(route, address)] }
      match loads route address with
      | .ok exports => return .object exports
      | .error thrown => throw thrown
  | _ => throw .fault

def Value.get : Value -> String -> Running Value
  | .object properties, name => return properties name
  | _, _ => throw .fault

def Value.call (loads : Loads) : Value -> List Value -> Running Value
  | .loading route, [argument] => tryLoad loads route argument
  | _, _ => throw .fault

mutual

def Expr.eval (loads : Loads) : Expr -> Running Value
  | .name name => read name
  | .text value => return .text value
  | .member object property => do
      let value <- object.eval loads
      value.get property
  | .call callee arguments => do
      let function <- callee.eval loads
      let values <- evalAll loads arguments
      function.call loads values
  | .load address => do
      let value <- address.eval loads
      tryLoad loads .builtin value
  | .await argument => argument.eval loads
  | .assign (.name name) expr => do
      let value <- expr.eval loads
      assign name value
      return value
  | .assign _ _ => throw .fault
  | .commented _ expr => expr.eval loads

def evalAll (loads : Loads) : List Expr -> Running (List Value)
  | [] => return []
  | expr :: exprs => do
      let value <- expr.eval loads
      let values <- evalAll loads exprs
      return value :: values

end

/-!
# Binding

Taking an object apart reads each property by its key.  Of a shorthand only
the name is written, so the name is what is read.
-/

def Keyword.slot : Keyword -> Value -> Slot Value
  | letKeyword => .variable
  | constKeyword => .constant

def Key.asked : Key -> String
  | .name key => key
  | .text key => key

mutual

def Binding.take (keyword : Keyword) : Binding -> Value -> Running Unit
  | .name name, value => initialise name (keyword.slot value)
  | .object properties, .object exports =>
      takeProperties keyword properties exports
  | .object _, _ => throw .fault

def takeProperties (keyword : Keyword) : List Property -> Exports -> Running Unit
  | [], _ => return ()
  | property :: properties, exports => do
      property.take keyword exports
      takeProperties keyword properties exports

def Property.take (keyword : Keyword) : Property -> Exports -> Running Unit
  | .bind key binding false, exports => binding.take keyword (exports key.asked)
  | .bind _ (.name name) true, exports =>
      initialise name (keyword.slot (exports name))
  | .bind _ (.object _) true, _ => throw .fault

end

def Declarator.run (loads : Loads) (keyword : Keyword) (declarator : Declarator) :
    Running Unit :=
  match keyword, declarator.binding, declarator.value with
  | keyword, binding, some expr => do
      let value <- expr.eval loads
      binding.take keyword value
  | .letKeyword, .name name, none => initialise name (.variable .undefined)
  | _, _, none => throw .fault

/-!
# Statements

A list of statements has a scope of its own, which holds the names it
declares from the start.  A list that declares a name twice is refused.
-/

def Environment.enter (names : List String) (environment : Environment) :
    Environment :=
  { environment with scopes := .hoisted names :: environment.scopes }

def Environment.leave (environment : Environment) : Environment :=
  { environment with scopes := environment.scopes.tail }

def within (names : List String) (body : Running Unit) : Running Unit :=
  if names.Nodup then
    ExceptT.mk fun environment =>
      (body.run.run (environment.enter names)).map id Environment.leave
  else
    throw .fault

def catching (caught : Option Binding) (handler : Running Unit) (thrown : Value) :
    Running Unit :=
  within ((caught.map Binding.names).getD []) do
    caught.forM fun binding => binding.take .letKeyword thrown
    handler

mutual

def Stmt.run (loads : Loads) : Stmt -> Running Unit
  | .declare keyword declarators =>
      declarators.forM (Declarator.run loads keyword)
  | .tryOnly _ => throw .fault
  | .tryCatch body caught handler =>
      tryCatch (within (declaredNames body) (runAll loads body))
        (catching caught (within (declaredNames handler) (runAll loads handler)))
  | .expr expr => do
      let _ <- expr.eval loads
      return ()

def runAll (loads : Loads) : List Stmt -> Running Unit
  | [] => return ()
  | stmt :: stmts => do
      stmt.run loads
      runAll loads stmts

end

def execute (loads : Loads) (stmts : List Stmt) : Running Unit := do
  if (declaredNames stmts).Nodup then
    modify (Environment.enter (declaredNames stmts))
    runAll loads stmts
  else
    throw .fault

/-!
# Runs

What one step does to the environment.
-/

section

variable {environment after : Environment} {loads : Loads} {name : String}
  {value : Value}

theorem read_run (h : environment.scopes.value? name = some value) :
    (read name).run.run environment = (.ok value, environment) := by
  rw [read, run_bind_get, h]
  rfl

theorem assign_run {scopes : Scopes Value}
    (h : environment.scopes.assign? name value = some scopes) :
    (assign name value).run.run environment =
      (.ok (), { environment with scopes }) := by
  rw [assign, run_bind_get, h]
  rfl

theorem tryLoad_run_of_ok {route : Route} {address : String} {exports : Exports}
    (h : loads route address = .ok exports) (environment : Environment) :
    (tryLoad loads route (.text address)).run.run environment =
      (.ok (.object exports), { environment with
        tried := environment.tried ++ [(route, address)] }) := by
  rw [tryLoad, h]
  rfl

theorem tryLoad_run_of_error {route : Route} {address : String} {thrown : Value}
    (h : loads route address = .error thrown) (environment : Environment) :
    (tryLoad loads route (.text address)).run.run environment =
      (.error thrown, { environment with
        tried := environment.tried ++ [(route, address)] }) := by
  rw [tryLoad, h]
  rfl

theorem within_run {names : List String} {body : Running Unit}
    {result : Except Value Unit} (hnames : names.Nodup)
    (h : body.run.run (environment.enter names) = (result, after)) :
    (within names body).run.run environment = (result, after.leave) := by
  rw [within, if_pos hnames]
  change Prod.map id Environment.leave (body.run.run (environment.enter names)) = _
  rw [h]
  rfl

/-- The scope of a caught exception is left behind with all its changes. -/
theorem catching_run {handler : Running Unit} {thrown : Value}
    {scopes : Scopes Value} {tried : List (Route × String)}
    {result : Except Value Unit}
    (h : handler.run.run {
        scopes := (Scope.hoisted [name]).set name (.variable thrown) :: scopes
        tried } = (result, after)) :
    (catching (some (.name name)) handler thrown).run.run { scopes, tried } =
      (result, after.leave) := by
  have hnames : ((some (Binding.name name)).map Binding.names).getD [] = [name] := by
    rw [Option.map_some, Option.getD_some, names_name]
  rw [catching, hnames]
  apply within_run
  · exact List.nodup_cons.mpr ⟨List.not_mem_nil, List.nodup_nil⟩
  · exact h

theorem runAll_cons_run {stmt : Stmt}
    (h : (stmt.run loads).run.run environment = (.ok (), after))
    (stmts : List Stmt) :
    (runAll loads (stmt :: stmts)).run.run environment =
      (runAll loads stmts).run.run after :=
  run_bind_of_ok h _

theorem runAll_cons_run_of_error {stmt : Stmt}
    (h : (stmt.run loads).run.run environment = (.error value, after))
    (stmts : List Stmt) :
    (runAll loads (stmt :: stmts)).run.run environment = (.error value, after) :=
  run_bind_of_error h _

theorem execute_run {stmts : List Stmt} (h : (declaredNames stmts).Nodup)
    (environment : Environment) :
    (execute loads stmts).run.run environment =
      (runAll loads stmts).run.run (environment.enter (declaredNames stmts)) := by
  rw [execute, if_pos h]
  rfl

theorem execute_run_of_duplicate {stmts : List Stmt}
    (h : ¬ (declaredNames stmts).Nodup) (environment : Environment) :
    (execute loads stmts).run.run environment = (.error .fault, environment) := by
  rw [execute, if_neg h]
  rfl

theorem declare_constant_run {binding : Binding} {expr : Expr}
    (h : (expr.eval loads).run.run environment = (.ok value, after)) :
    ((Stmt.declare .constKeyword [{ binding, value := some expr }]).run
        loads).run.run environment =
      (binding.take .constKeyword value).run.run after := by
  change ((Declarator.run loads .constKeyword { binding, value := some expr } >>=
    fun _ => pure ()).run.run environment) = _
  rw [bind_pure_unit]
  exact run_bind_of_ok h _

end

end Script
end RemoteImports
