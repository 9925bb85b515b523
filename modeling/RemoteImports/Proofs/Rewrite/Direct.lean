import RemoteImports.Proofs.Rewrite.Bound
import RemoteImports.Proofs.Rewrite.Names

/-!
# Loading from one address

The statements that load a module from one address try that load once, by the
language itself or through a loader object.  If there is a module, every name
is bound to what the import binds it to, and no other name is touched.
-/

namespace RemoteImports
namespace Rewrite

open Import Script

/-!
# The loader

A loader object is a name of the script around the statements.  The names that
the statements declare hide it if it is one of them, before they have a value.
-/

def Loader.route (loader : Loader) : Route :=
  match loader.shim with
  | none => .builtin
  | some shim => .importer shim

/-- The loader object, if there is one, has a function that loads modules. -/
def Provides (environment : Environment) (loader : Loader) : Prop :=
  forall shim, loader.shim = some shim ->
    exists properties : String -> Value,
      environment.scopes.value? shim = some (.object properties) ∧
      properties "import" = .loading (.importer shim)

def KeepsOthers (names : List String) (outer final : Environment) : Prop :=
  forall name, name ∉ names ->
    (final.scopes.findSome? fun scope => scope name) =
      outer.scopes.findSome? fun scope => scope name

theorem Scopes.value?_enter_of_not_mem {names : List String} {name : String}
    (h : name ∉ names) (outer : Environment) :
    (outer.enter names).scopes.value? name = outer.scopes.value? name := by
  have hnone : (Scope.hoisted names : Scope Value) name = none := by
    rw [Scope.hoisted, if_neg h]
  rw [Scopes.value?, Environment.enter, List.findSome?_cons, hnone]
  rfl

theorem Provides.enter {outer : Environment} {loader : Loader} {names : List String}
    (h : Provides outer loader)
    (hapart : forall shim, loader.shim = some shim -> shim ∉ names) :
    Provides (outer.enter names) loader := by
  intro shim hshim
  rcases h shim hshim with ⟨properties, hvalue, himport⟩
  refine ⟨properties, ?_, himport⟩
  rw [Scopes.value?_enter_of_not_mem (hapart shim hshim), hvalue]

section

variable {loads : Loads} {loader : Loader} {environment : Environment}

theorem eval_address (webpackIgnore : Bool) (address : String) :
    (if webpackIgnore then Expr.commented ignoreComment (.text address)
        else .text address).eval loads =
      return .text address := by
  cases webpackIgnore with
  | true =>
      rfl
  | false =>
      rfl

theorem load_run (h : Provides environment loader) (address : String) :
    ((loader.load address).eval loads).run.run environment =
      (tryLoad loads loader.route (.text address)).run.run environment := by
  have haddress := @eval_address loads loader.webpackIgnore address
  cases hshim : loader.shim with
  | none =>
      simp only [Loader.load, Loader.route, hshim]
      rw [Expr.eval, haddress]
      rfl
  | some shim =>
      rcases h shim hshim with ⟨properties, hvalue, himport⟩
      have hfunction : ((Expr.member (.name shim) "import").eval loads).run.run
            environment =
          (.ok (.loading (.importer shim)), environment) := by
        apply (run_bind_of_ok (read_run hvalue) _).trans
        rw [Value.get, himport]
        rfl
      simp only [Loader.load, Loader.route, hshim]
      rw [Expr.eval, run_bind_of_ok hfunction, evalAll, evalAll, haddress]
      rfl

theorem await_load_run_of_ok {exports : Exports} {address : String}
    (h : Provides environment loader)
    (hload : loads loader.route address = .ok exports) :
    ((Expr.await (loader.load address)).eval loads).run.run environment =
      (.ok (.object exports), { environment with
        tried := environment.tried ++ [(loader.route, address)] }) := by
  rw [Expr.eval, load_run h, tryLoad_run_of_ok hload]

theorem await_load_run_of_error {thrown : Value} {address : String}
    (h : Provides environment loader)
    (hload : loads loader.route address = .error thrown) :
    ((Expr.await (loader.load address)).eval loads).run.run environment =
      (.error thrown, { environment with
        tried := environment.tried ++ [(loader.route, address)] }) := by
  rw [Expr.eval, load_run h, tryLoad_run_of_error hload]

end

/-!
# The statements

The whole module comes first where it is bound, and the default export is read
from it.  Otherwise all exports are read in one declaration.  Either way what
is left are the names in `exportPairs`.
-/

def wholeBound (exports : Exports) (whole : Option String) (scope : Scope Value) :
    Scope Value :=
  match whole with
  | some name => scope.set name (.constant (.object exports))
  | none => scope

section

variable {loads : Loads} {loader : Loader} {bindings : Bindings} {address : String}
  {scope : Scope Value} {scopes : Scopes Value} {tried : List (Route × String)}
  {exports : Exports} {thrown : Value}

theorem direct_run_of_ok (hseparate : Separate bindings)
    (h : Provides { scopes := scope :: scopes, tried } loader)
    (hload : loads loader.route address = .ok exports) :
    (runAll loads (direct loader bindings address)).run.run
        { scopes := scope :: scopes, tried } =
      (.ok (), {
        scopes := (wholeBound exports bindings.whole scope).constants exports
          (exportPairs bindings) :: scopes
        tried := tried ++ [(loader.route, address)] }) := by
  have hmodule := await_load_run_of_ok h hload
  unfold direct wholeBound
  cases hwhole : bindings.whole with
  | none =>
      exact runAll_cons_run (constant_exportBinding_run hmodule) []
  | some whole =>
      have hfirst : ((constant (.name whole) (.await (loader.load address))).run
            loads).run.run { scopes := scope :: scopes, tried } =
          (.ok (), {
            scopes := scope.set whole (.constant (.object exports)) :: scopes
            tried := tried ++ [(loader.route, address)] }) :=
        declare_constant_run hmodule
      apply (runAll_cons_run hfirst _).trans
      exact defaultFrom_run (hseparate whole hwhole) (Scope.set_self _ _ _) rfl

/-- A load that fails is the last thing that is done. -/
theorem direct_run_of_error (h : Provides { scopes := scope :: scopes, tried } loader)
    (hload : loads loader.route address = .error thrown) :
    (runAll loads (direct loader bindings address)).run.run
        { scopes := scope :: scopes, tried } =
      (.error thrown, {
        scopes := scope :: scopes
        tried := tried ++ [(loader.route, address)] }) := by
  have hdeclare : forall binding : Binding,
      ((constant binding (.await (loader.load address))).run loads).run.run
          { scopes := scope :: scopes, tried } =
        (.error thrown, {
          scopes := scope :: scopes
          tried := tried ++ [(loader.route, address)] }) := by
    intro binding
    exact run_bind_of_error (run_bind_of_error (await_load_run_of_error h hload) _) _
  unfold direct
  cases bindings.whole with
  | none =>
      exact runAll_cons_run_of_error (hdeclare _) []
  | some whole =>
      exact runAll_cons_run_of_error (hdeclare _) _

end

theorem declaredNames_direct (loader : Loader) {bindings : Bindings}
    (hseparate : Separate bindings) (address : String) :
    declaredNames (direct loader bindings address) = bindings.locals := by
  have hnames := declaredNames_statements loader hseparate ""
    { primary := address, fallback := none }
  rw [statements, keptName] at hnames
  simpa using hnames

theorem wholeBound_of_eq_some {exports : Exports} {whole : Option String}
    {name : String} (h : whole = some name) (scope : Scope Value) :
    wholeBound exports whole scope name = some (.constant (.object exports)) := by
  rw [h, wholeBound, Scope.set_self]

theorem bound_scope_of_not_mem {bindings : Bindings} {exports : Exports}
    {name : String} (h : name ∉ bindings.locals) :
    (wholeBound exports bindings.whole (.hoisted bindings.locals)).constants exports
      (exportPairs bindings) name = none := by
  have hhoisted : (Scope.hoisted bindings.locals : Scope Value) name = none := by
    rw [Scope.hoisted, if_neg h]
  have hpairs : name ∉ (exportPairs bindings).map Prod.snd := by
    intro hmem
    apply h
    rw [locals_eq_append]
    exact List.mem_append_right _ hmem
  rw [Scope.constants_of_not_mem _ hpairs]
  unfold wholeBound
  cases hwhole : bindings.whole with
  | none =>
      exact hhoisted
  | some whole =>
      have hne : name ≠ whole := by
        intro heq
        apply h
        rw [locals_eq_append, hwhole, heq]
        exact List.mem_append_left _ (List.mem_singleton.mpr rfl)
      exact (Scope.set_of_ne _ _ hne).trans hhoisted

section

variable {script : String} {declaration : Declaration}

/-- Loading from one address tries one load and ends as that load does.  With
a module, every name is bound to what the import binds it to. -/
theorem execute_direct_bound (hmem : declaration ∈ declarations script)
    (hdistinct : (declaration.specifiers.map Specifier.local).Nodup)
    (loader : Loader) (address : String) (loads : Loads) (outer : Environment)
    (hprovides : Provides outer loader)
    (hapart : forall shim, loader.shim = some shim ->
      shim ∉ declaration.specifiers.map Specifier.local) :
    exists final : Environment,
      (execute loads (direct loader declaration.bindings address)).run.run outer =
        ((loads loader.route address).map fun _ => (), final) ∧
      final.tried = outer.tried ++ [(loader.route, address)] ∧
      forall exports : Exports, loads loader.route address = .ok exports ->
        Bound final declaration.specifiers exports ∧
        KeepsOthers (declaration.specifiers.map Specifier.local) outer final := by
  have hshape := shape_of_mem_declarations hmem
  have hseparate := separate_of_mem_declarations hmem
  have hnames := declaredNames_direct loader hseparate address
  have hlocals : forall name, name ∈ declaration.bindings.locals <->
      name ∈ declaration.specifiers.map Specifier.local :=
    fun name => hshape.locals_perm.mem_iff
  have hinner : Provides (outer.enter declaration.bindings.locals) loader := by
    apply hprovides.enter
    intro shim hshim
    rw [hlocals]
    exact hapart shim hshim
  rw [execute_run (by rw [hnames]; exact hshape.locals_perm.nodup_iff.mpr hdistinct),
    hnames]
  cases hload : loads loader.route address with
  | error thrown =>
      refine ⟨_, direct_run_of_error hinner hload, rfl, ?_⟩
      intro exports hexports
      cases hexports
  | ok exports =>
      refine ⟨_, direct_run_of_ok hseparate hinner hload, rfl, ?_⟩
      intro loaded hloaded
      cases hloaded
      constructor
      · apply bound_of_shape hshape hdistinct
        intro whole hwhole
        exact ⟨_, wholeBound_of_eq_some hwhole _, rfl⟩
      · intro name hname
        rw [List.findSome?_cons,
          bound_scope_of_not_mem (mt (hlocals name).mp hname)]

def addressExports : Loads := fun _ address =>
  .ok fun _ => .text address

def systemOnly : Environment :=
  { scopes := [fun name =>
      if name = "System" then
        some (.constant (.object fun _ => .loading (.importer "System")))
      else
        none]
    tried := [] }

theorem execute_direct_bound_system :
    Provides systemOnly { shim := some "System", webpackIgnore := true } ∧
    exists final : Environment,
      (execute addressExports (direct { shim := some "System", webpackIgnore := true }
          (Bindings.ofSpecifiers [.default "D", .named "a-b" "b", .named "c" "c"])
          "u")).run.run systemOnly = (.ok (), final) ∧
      final.tried = [(.importer "System", "u")] ∧
      Bound final [.default "D", .named "a-b" "b", .named "c" "c"]
        (fun _ => .text "u") ∧
      KeepsOthers ["D", "b", "c"] systemOnly final := by
  have hmem : Declaration.mk [.default "D", .named "a-b" "b", .named "c" "c"] "p" 0 36 ∈
      declarations "import D, \x7b 'a-b' as b, c \x7d from 'p'" := by
    decide +kernel
  have hprovides : Provides systemOnly
      { shim := some "System", webpackIgnore := true } := by
    intro shim hshim
    cases hshim
    exact ⟨_, rfl, rfl⟩
  rcases execute_direct_bound hmem (by decide)
    { shim := some "System", webpackIgnore := true } "u" addressExports systemOnly
    hprovides (by intro shim hshim; cases hshim; decide) with
    ⟨final, hrun, htried, hbound⟩
  exact ⟨hprovides, final, hrun, htried, hbound _ rfl⟩

end

end Rewrite
end RemoteImports
