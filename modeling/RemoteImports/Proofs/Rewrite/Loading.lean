import RemoteImports.Proofs.Script.Evaluation
import RemoteImports.Rewrite.Statements

/-!
# Loading into a variable

What becomes of a variable when a module is loaded into it, from one address
or, if that fails, from a second one.
-/

namespace RemoteImports
namespace Rewrite

open Script

theorem eval_load (loads : Loads) (webpackIgnore : Bool) (address : String) :
    (Loader.load { shim := none, webpackIgnore } address).eval loads =
      tryLoad loads .builtin (.text address) := by
  cases webpackIgnore with
  | true =>
      rfl
  | false =>
      rfl

section

variable {loads : Loads} {webpackIgnore : Bool} {name address : String}
  {scopes assigned : Scopes Value} {tried : List (Route × String)}

def assignLoad (webpackIgnore : Bool) (name address : String) : Stmt :=
  .expr (.assign (.name name) (Loader.load { shim := none, webpackIgnore } address))

theorem assignLoad_run_of_ok {exports : Exports}
    (hload : loads .builtin address = .ok exports)
    (hassign : scopes.assign? name (.object exports) = some assigned) :
    ((assignLoad webpackIgnore name address).run loads).run.run { scopes, tried } =
      (.ok (), { scopes := assigned, tried := tried ++ [(.builtin, address)] }) := by
  have hvalue := tryLoad_run_of_ok hload { scopes, tried }
  rw [← eval_load loads webpackIgnore] at hvalue
  have hexpr : ((Expr.assign (.name name)
        (Loader.load { shim := none, webpackIgnore } address)).eval
          loads).run.run { scopes, tried } =
      (.ok (.object exports),
        { scopes := assigned, tried := tried ++ [(.builtin, address)] }) := by
    apply (run_bind_of_ok hvalue _).trans
    exact run_bind_of_ok (assign_run hassign) _
  exact run_bind_of_ok hexpr _

theorem assignLoad_run_of_error {thrown : Value}
    (hload : loads .builtin address = .error thrown) :
    ((assignLoad webpackIgnore name address).run loads).run.run { scopes, tried } =
      (.error thrown, { scopes, tried := tried ++ [(.builtin, address)] }) := by
  have hvalue := tryLoad_run_of_error hload { scopes, tried }
  rw [← eval_load loads webpackIgnore] at hvalue
  exact run_bind_of_error (run_bind_of_error hvalue _) _

theorem block_run_of_ok {exports : Exports}
    (hload : loads .builtin address = .ok exports)
    (hassign : scopes.assign? name (.object exports) = some assigned) :
    (within (declaredNames [assignLoad webpackIgnore name address])
        (runAll loads [assignLoad webpackIgnore name address])).run.run
        { scopes, tried } =
      (.ok (), { scopes := assigned, tried := tried ++ [(.builtin, address)] }) := by
  have hinner : Scopes.assign? name (.object exports) (.hoisted [] :: scopes) =
      some (.hoisted [] :: assigned) := by
    rw [Scopes.assign?_of_none (Scope.hoisted_nil name), hassign]
    rfl
  have hbody : (runAll loads [assignLoad webpackIgnore name address]).run.run
        (Environment.enter [] { scopes, tried }) =
      (.ok (), {
        scopes := .hoisted [] :: assigned
        tried := tried ++ [(.builtin, address)] }) :=
    runAll_cons_run (assignLoad_run_of_ok hload hinner) []
  exact within_run List.nodup_nil hbody

theorem block_run_of_error {thrown : Value}
    (hload : loads .builtin address = .error thrown) :
    (within (declaredNames [assignLoad webpackIgnore name address])
        (runAll loads [assignLoad webpackIgnore name address])).run.run
        { scopes, tried } =
      (.error thrown, { scopes, tried := tried ++ [(.builtin, address)] }) :=
  within_run List.nodup_nil
    (runAll_cons_run_of_error (assignLoad_run_of_error hload) [])

/-!
# The second address

The clause for failures has a scope with the one name that the failure is
caught as.  An assignment inside it reaches a variable outside of it under
any other name.
-/

def loadEither (webpackIgnore : Bool) (name primary fallback : String) : Stmt :=
  .tryCatch [assignLoad webpackIgnore name primary] (some (.name caughtName))
    [assignLoad webpackIgnore name fallback]

def caughtScope (thrown : Value) : Scope Value :=
  (Scope.hoisted [caughtName]).set caughtName (.variable thrown)

theorem caughtScope_of_ne (thrown : Value) (h : name ≠ caughtName) :
    caughtScope thrown name = none := by
  rw [caughtScope, Scope.set_of_ne _ _ h, Scope.hoisted, if_neg]
  rwa [List.mem_singleton]

variable {primary fallback : String} {exports : Exports} {thrown : Value}

theorem loadEither_run_of_primary
    (hprimary : loads .builtin primary = .ok exports)
    (hassign : scopes.assign? name (.object exports) = some assigned) :
    ((loadEither webpackIgnore name primary fallback).run loads).run.run
        { scopes, tried } =
      (.ok (), { scopes := assigned, tried := tried ++ [(.builtin, primary)] }) :=
  run_tryCatch_of_ok (block_run_of_ok hprimary hassign) _

/-- What comes of the scopes when the second load is assigned within the
clause for failures. -/
theorem loadEither_run_of_fallback {inner : Scope Value}
    (hprimary : loads .builtin primary = .error thrown)
    (hfallback : loads .builtin fallback = .ok exports)
    (hassign : Scopes.assign? name (.object exports) (caughtScope thrown :: scopes) =
      some (inner :: assigned)) :
    ((loadEither webpackIgnore name primary fallback).run loads).run.run
        { scopes, tried } =
      (.ok (), {
        scopes := assigned
        tried := tried ++ [(.builtin, primary)] ++ [(.builtin, fallback)] }) :=
  (run_tryCatch_of_error (block_run_of_error hprimary) _).trans
    (catching_run (block_run_of_ok hfallback hassign))

/-- Loading from the first address or, failing that, the second yields these
exports. -/
def Yields (loads : Loads) (primary fallback : String) (exports : Exports) : Prop :=
  loads .builtin primary = .ok exports ∨
  (exists thrown : Value, loads .builtin primary = .error thrown) ∧
    loads .builtin fallback = .ok exports

def stored (loads : Loads) (primary name : String) (exports : Exports) : Value :=
  match loads .builtin primary with
  | .ok loaded => .object loaded
  | .error _ => if name = caughtName then .undefined else .object exports

variable (webpackIgnore scopes tried) in
theorem loadEither_run (hloads : Yields loads primary fallback exports)
    {scope : Scope Value} (hscope : scope name = some (.variable .undefined)) :
    exists tried' : List (Route × String),
      ((loadEither webpackIgnore name primary fallback).run loads).run.run
          { scopes := scope :: scopes, tried } =
        (.ok (), {
          scopes := scope.set name (.variable (stored loads primary name exports)) ::
            scopes
          tried := tried' }) := by
  have hassign := Scopes.assign?_of_variable hscope (.object exports) scopes
  rcases hloads with hprimary | ⟨⟨thrown, hprimary⟩, hfallback⟩
  · rw [stored, hprimary]
    exact ⟨_, loadEither_run_of_primary hprimary hassign⟩
  · rw [stored, hprimary]
    by_cases hname : name = caughtName
    · have hcaught : caughtScope thrown name = some (.variable thrown) := by
        rw [hname]
        exact Scope.set_self _ _ _
      simp only [if_pos hname]
      rw [Scope.set_of_some hscope]
      exact ⟨_, loadEither_run_of_fallback hprimary hfallback
        (Scopes.assign?_of_variable hcaught (.object exports) (scope :: scopes))⟩
    · have houter : Scopes.assign? name (.object exports)
            (caughtScope thrown :: scope :: scopes) =
          some (caughtScope thrown ::
            scope.set name (.variable (.object exports)) :: scopes) := by
        rw [Scopes.assign?_of_none (caughtScope_of_ne thrown hname), hassign]
        rfl
      simp only [if_neg hname]
      exact ⟨_, loadEither_run_of_fallback hprimary hfallback houter⟩

end

end Rewrite
end RemoteImports
