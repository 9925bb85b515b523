import RemoteImports.Proofs.Rewrite.Bound
import RemoteImports.Proofs.Rewrite.Loading
import RemoteImports.Proofs.Rewrite.Names

/-!
# Loading with a second address

The statements that load a module from a second address if the first fails
bind every name to what the import binds it to, unless a name of the import is
one that the statements bring in themselves: the name that the failed load is
caught as, and the name of the variable in which the module is kept.
-/

namespace RemoteImports
namespace Rewrite

open Import Script

/-!
# The statements as a whole

The variable is declared and loaded into; what is left is to bind from it the
names that are not the variable itself.
-/

def unpacking (bindings : Bindings) (package : String) : List Stmt :=
  match bindings.whole with
  | some whole => defaultFrom bindings whole
  | none => [constant (exportBinding bindings) (.name (resultName package))]

theorem withFallback_eq (webpackIgnore : Bool) (bindings : Bindings)
    (package primary fallback : String) :
    withFallback { shim := none, webpackIgnore } bindings package primary fallback =
      .declare .letKeyword
          [{ binding := .name (bindings.whole.getD (resultName package)), value := none }] ::
        loadEither webpackIgnore (bindings.whole.getD (resultName package))
          primary fallback ::
        unpacking bindings package := by
  unfold withFallback unpacking
  cases bindings.whole with
  | none =>
      rfl
  | some whole =>
      rfl

section

variable {loads : Loads} {webpackIgnore : Bool} {name primary fallback : String}
  {scopes : Scopes Value} {tried : List (Route × String)} {exports : Exports}

theorem loading_run (hloads : Yields loads primary fallback exports)
    (scope : Scope Value) (later : List Stmt) :
    exists tried' : List (Route × String),
      (runAll loads
          (.declare .letKeyword [{ binding := .name name, value := none }] ::
            loadEither webpackIgnore name primary fallback :: later)).run.run
          { scopes := scope :: scopes, tried } =
        (runAll loads later).run.run {
          scopes := scope.set name (.variable (stored loads primary name exports)) ::
            scopes
          tried := tried' } := by
  have hdeclare : ((Stmt.declare .letKeyword
          [{ binding := .name name, value := none }]).run loads).run.run
        { scopes := scope :: scopes, tried } =
      (.ok (), {
        scopes := scope.set name (.variable .undefined) :: scopes
        tried }) := rfl
  rcases loadEither_run webpackIgnore scopes tried hloads
    (Scope.set_self scope name (.variable .undefined)) with ⟨tried', hload⟩
  rw [Scope.set_set] at hload
  exact ⟨tried', (runAll_cons_run hdeclare _).trans (runAll_cons_run hload later)⟩

variable {bindings : Bindings} {package : String}

theorem execute_withFallback_run (hloads : Yields loads primary fallback exports)
    (hdistinct : (declaredNames (withFallback { shim := none, webpackIgnore }
      bindings package primary fallback)).Nodup) (outer : Environment) :
    exists (scope : Scope Value) (tried' : List (Route × String)),
      scope (bindings.whole.getD (resultName package)) =
        some (.variable (stored loads primary
          (bindings.whole.getD (resultName package)) exports)) ∧
      (execute loads (withFallback { shim := none, webpackIgnore } bindings package
          primary fallback)).run.run outer =
        (runAll loads (unpacking bindings package)).run.run
          { scopes := scope :: outer.scopes, tried := tried' } := by
  rw [execute_run hdistinct, withFallback_eq]
  rcases loading_run hloads _ (unpacking bindings package) with ⟨tried', hload⟩
  exact ⟨_, tried', Scope.set_self _ _ _, hload⟩

theorem unpacking_run (hseparate : Separate bindings) {scope : Scope Value}
    (hscope : scope (bindings.whole.getD (resultName package)) =
      some (.variable (.object exports))) :
    (runAll loads (unpacking bindings package)).run.run
        { scopes := scope :: scopes, tried } =
      (.ok (), {
        scopes := scope.constants exports (exportPairs bindings) :: scopes
        tried }) := by
  unfold unpacking
  cases hwhole : bindings.whole with
  | none =>
      rw [hwhole, Option.getD_none] at hscope
      have hread : ((Expr.name (resultName package)).eval loads).run.run
            { scopes := scope :: scopes, tried } =
          (.ok (.object exports), { scopes := scope :: scopes, tried }) :=
        read_run (Scopes.value?_of_some hscope scopes)
      exact runAll_cons_run (constant_exportBinding_run hread) []
  | some whole =>
      rw [hwhole, Option.getD_some] at hscope
      exact defaultFrom_run (hseparate whole hwhole) hscope rfl

theorem defaultFrom_run_of_undefined {whole : String} {scope : Scope Value}
    {final : Environment} (hscope : scope whole = some (.variable .undefined))
    (h : (runAll loads (defaultFrom bindings whole)).run.run
        { scopes := scope :: scopes, tried } = (.ok (), final)) :
    final.scopes.value? whole = some .undefined := by
  have hvalue := Scopes.value?_of_some hscope scopes
  cases hdefault : bindings.default with
  | none =>
      rw [defaultFrom, hdefault] at h
      have hfinal : { scopes := scope :: scopes, tried } = final := by
        injection h
      rw [← hfinal]
      exact hvalue
  | some binding =>
      have hread : ((Expr.name whole).eval loads).run.run
            { scopes := scope :: scopes, tried } =
          (.ok .undefined, { scopes := scope :: scopes, tried }) :=
        read_run hvalue
      have hfault : ((constant (.object [.ofNames "default" binding])
            (.name whole)).run loads).run.run { scopes := scope :: scopes, tried } =
          (.error .fault, { scopes := scope :: scopes, tried }) :=
        declare_constant_run hread
      rw [defaultFrom, hdefault] at h
      have herror := (runAll_cons_run_of_error hfault []).symm.trans h
      injection herror with hresult
      cases hresult

end

/-!
# Names that are taken
-/

theorem resultName_ne_caughtName (package : String) :
    resultName package ≠ caughtName := by
  intro h
  have hlength := congrArg String.length h
  rw [resultName, String.length_append] at hlength
  have hresult : "Result".length = 6 := rfl
  have hcaught : caughtName.length = 3 := rfl
  omega

/-- A variable named after a package is not mistaken for the failure. -/
theorem whole_eq_of_getD_eq_caughtName {bindings : Bindings} {package : String}
    (h : bindings.whole.getD (resultName package) = caughtName) :
    bindings.whole = some caughtName := by
  cases hwhole : bindings.whole with
  | none =>
      rw [hwhole] at h
      exact absurd h (resultName_ne_caughtName package)
  | some whole =>
      rw [hwhole] at h
      exact congrArg some h

theorem declaredNames_withFallback (webpackIgnore : Bool) {bindings : Bindings}
    (hseparate : Separate bindings) (package primary fallback : String) :
    declaredNames (withFallback { shim := none, webpackIgnore } bindings package
        primary fallback) =
      (if bindings.whole = none then [resultName package] else []) ++
        bindings.locals := by
  have hnames := declaredNames_statements { shim := none, webpackIgnore } hseparate
    package { primary, fallback := some fallback }
  rw [statements, keptName] at hnames
  rw [hnames]
  cases bindings.whole with
  | none =>
      rfl
  | some whole =>
      rfl

theorem nodup_declaredNames_withFallback_iff (webpackIgnore : Bool)
    {bindings : Bindings} (hseparate : Separate bindings)
    (hlocals : bindings.locals.Nodup) (package primary fallback : String) :
    (declaredNames (withFallback { shim := none, webpackIgnore } bindings package
        primary fallback)).Nodup <->
      (bindings.whole = none -> resultName package ∉ bindings.locals) := by
  rw [declaredNames_withFallback webpackIgnore hseparate]
  by_cases hwhole : bindings.whole = none
  · rw [if_pos hwhole, List.singleton_append, List.nodup_cons]
    exact ⟨fun h _ => h.left, fun h => ⟨h hwhole, hlocals⟩⟩
  · rw [if_neg hwhole, List.nil_append]
    exact ⟨fun _ hnone => absurd hnone hwhole, fun _ => hlocals⟩

theorem stored_eq_object {loads : Loads} {primary fallback name : String}
    {exports : Exports} (hloads : Yields loads primary fallback exports)
    (hname : name = caughtName -> loads .builtin primary = .ok exports) :
    stored loads primary name exports = .object exports := by
  rw [stored]
  rcases hloads with hprimary | ⟨⟨thrown, hprimary⟩, _⟩
  · rw [hprimary]
  · rw [hprimary]
    apply if_neg
    intro hcaught
    rw [hname hcaught] at hprimary
    cases hprimary

section

variable {script : String} {declaration : Declaration} {loads : Loads}
  {webpackIgnore : Bool} {package primary fallback : String} {exports : Exports}
  {outer final : Environment}

/-- After a failed first load, a module that is bound to the name of the
failure is lost with the failure. -/
theorem not_bound_of_caught {thrown : Value}
    (hwhole : declaration.bindings.whole = some caughtName)
    (hprimary : loads .builtin primary = .error thrown)
    (hfallback : loads .builtin fallback = .ok exports)
    (hrun : (execute loads (withFallback { shim := none, webpackIgnore }
        declaration.bindings package primary fallback)).run.run outer =
      (.ok (), final)) :
    ¬ Bound final declaration.specifiers exports := by
  have hnodup : (declaredNames (withFallback { shim := none, webpackIgnore }
      declaration.bindings package primary fallback)).Nodup := by
    by_contra hduplicate
    rw [execute_run_of_duplicate hduplicate] at hrun
    cases hrun
  rcases execute_withFallback_run (Or.inr ⟨⟨thrown, hprimary⟩, hfallback⟩) hnodup
    outer with ⟨scope, tried, hscope, hlater⟩
  rw [hlater, unpacking, hwhole] at hrun
  rw [hwhole, Option.getD_some, stored, hprimary] at hscope
  have hundefined := defaultFrom_run_of_undefined hscope hrun
  intro hbound
  have hobject := hbound (.namespace caughtName)
    (namespace_mem_of_whole_eq_some hwhole)
  rw [Specifier.local, hundefined] at hobject
  cases hobject

theorem exists_bound (hmem : declaration ∈ declarations script)
    (hdistinct : (declaration.specifiers.map Specifier.local).Nodup)
    (hloads : Yields loads primary fallback exports)
    (hcaught : declaration.bindings.whole = some caughtName ->
      loads .builtin primary = .ok exports)
    (hkept : declaration.bindings.whole = none ->
      resultName package ∉ declaration.bindings.locals) :
    exists final : Environment,
      (execute loads (withFallback { shim := none, webpackIgnore }
          declaration.bindings package primary fallback)).run.run outer =
        (.ok (), final) ∧
      Bound final declaration.specifiers exports := by
  have hshape := shape_of_mem_declarations hmem
  have hseparate := separate_of_mem_declarations hmem
  have hnodup := (nodup_declaredNames_withFallback_iff webpackIgnore hseparate
    (hshape.locals_perm.nodup_iff.mpr hdistinct) package primary fallback).mpr hkept
  have hname : declaration.bindings.whole.getD (resultName package) = caughtName ->
      loads .builtin primary = .ok exports :=
    fun heq => hcaught (whole_eq_of_getD_eq_caughtName heq)
  rcases execute_withFallback_run hloads hnodup outer with
    ⟨scope, tried, hscope, hlater⟩
  rw [stored_eq_object hloads hname] at hscope
  rw [hlater, unpacking_run hseparate hscope]
  refine ⟨_, rfl, bound_of_shape hshape hdistinct ?_⟩
  intro whole hwhole
  have hgetD : declaration.bindings.whole.getD (resultName package) = whole := by
    rw [Declaration.bindings, hwhole]
    rfl
  rw [hgetD] at hscope
  exact ⟨_, hscope, rfl⟩

/-- Loading with a second address binds every name to what the import binds it
to, unless the first load fails and the whole module is bound to the name of
the failure, or a name of the import is that of the variable. -/
theorem execute_withFallback_bound_iff (hmem : declaration ∈ declarations script)
    (hdistinct : (declaration.specifiers.map Specifier.local).Nodup)
    (webpackIgnore : Bool) (package primary fallback : String) (loads : Loads)
    (exports : Exports) (hloads : Yields loads primary fallback exports)
    (outer : Environment) :
    (exists final : Environment,
      (execute loads (withFallback { shim := none, webpackIgnore }
          declaration.bindings package primary fallback)).run.run outer =
        (.ok (), final) ∧
      Bound final declaration.specifiers exports) <->
    (declaration.bindings.whole = some caughtName ->
      loads .builtin primary = .ok exports) ∧
    (declaration.bindings.whole = none ->
      resultName package ∉ declaration.bindings.locals) := by
  constructor
  · rintro ⟨final, hrun, hbound⟩
    constructor
    · intro hwhole
      rcases hloads with hprimary | ⟨⟨thrown, hprimary⟩, hfallback⟩
      · exact hprimary
      · exact absurd hbound (not_bound_of_caught hwhole hprimary hfallback hrun)
    · by_contra htaken
      have hduplicate := mt (nodup_declaredNames_withFallback_iff webpackIgnore
        (separate_of_mem_declarations hmem)
        ((shape_of_mem_declarations hmem).locals_perm.nodup_iff.mpr hdistinct)
        package primary fallback).mp htaken
      rw [execute_run_of_duplicate hduplicate] at hrun
      cases hrun
  · rintro ⟨hcaught, hkept⟩
    exact exists_bound hmem hdistinct hloads hcaught hkept

def secondOnly : Loads := fun _ address =>
  if address = "v" then .ok Value.text else .error .undefined

theorem execute_withFallback_bound_jest :
    exists final : Environment,
      (execute secondOnly (withFallback { shim := none, webpackIgnore := true }
          (Bindings.ofSpecifiers [.default "D", .named "a" "b"]) "jest" "u"
          "v")).run.run { scopes := [], tried := [] } = (.ok (), final) ∧
      Bound final [.default "D", .named "a" "b"] Value.text := by
  have hmem : Declaration.mk [.default "D", .named "a" "b"] "jest" 0 32 ∈
      declarations "import D, { a as b } from 'jest'" := by
    decide +kernel
  have hyields : Yields secondOnly "u" "v" Value.text :=
    Or.inr ⟨⟨.undefined, rfl⟩, rfl⟩
  apply (execute_withFallback_bound_iff hmem (by decide) true "jest" "u" "v" secondOnly
    Value.text hyields { scopes := [], tried := [] }).mpr
  constructor
  · intro hwhole
    cases hwhole
  · intro _
    decide +kernel

theorem not_forall_execute_withFallback_bound :
    ¬ forall (script : String) (declaration : Declaration) (webpackIgnore : Bool)
        (package primary fallback : String) (loads : Loads) (exports : Exports)
        (outer : Environment),
      declaration ∈ declarations script ->
      (declaration.specifiers.map Specifier.local).Nodup ->
      Yields loads primary fallback exports ->
      exists final : Environment,
        (execute loads (withFallback { shim := none, webpackIgnore }
            declaration.bindings package primary fallback)).run.run outer =
          (.ok (), final) ∧
        Bound final declaration.specifiers exports := by
  intro hall
  have hmem : Declaration.mk [.namespace "err"] "jest" 0 28 ∈
      declarations "import * as err from 'jest';" := by
    decide +kernel
  rcases hall "import * as err from 'jest';" _ true "jest" "u" "v" secondOnly Value.text
    { scopes := [], tried := [] } hmem (by decide)
    (Or.inr ⟨⟨.undefined, rfl⟩, rfl⟩) with ⟨final, hrun, hbound⟩
  exact not_bound_of_caught rfl rfl rfl hrun hbound

end

end Rewrite
end RemoteImports
