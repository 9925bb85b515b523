import RemoteImports.Proofs.Import.Shape
import RemoteImports.Proofs.Script.DeclaredNames
import RemoteImports.Rewrite.Statements

/-!
# The names that a replacement declares

The statements in place of a declaration declare its local names, each as
often and in the order in which its bindings list them.  With a second address
and no binding of the whole module there is one name more: that of the
variable in which the module is kept.
-/

namespace RemoteImports
namespace Rewrite

open Import Script

def keptName (bindings : Bindings) (package : String) (addresses : Addresses) :
    Option String :=
  if addresses.fallback.isSome ∧ bindings.whole = none then
    some (resultName package)
  else
    none

theorem names_exportBinding (bindings : Bindings) :
    (exportBinding bindings).names =
      bindings.default.toList ++ bindings.named.map (·.binding) := by
  have hnames : forall named : Named,
      (Property.ofNames named.imported named.binding).names = [named.binding] := by
    intro named
    exact names_ofNames named.imported named.binding
  rw [exportBinding, names_object, List.flatMap_append]
  simp only [List.flatMap_map, names_ofNames, hnames]
  rw [← List.map_eq_flatMap, ← List.map_eq_flatMap, List.map_id']

theorem declaredNames_defaultFrom (bindings : Bindings) (whole : String) :
    declaredNames (defaultFrom bindings whole) = bindings.default.toList := by
  cases hdefault : bindings.default with
  | none =>
      simp [defaultFrom, hdefault]
  | some binding =>
      simp [defaultFrom, hdefault, constant, names_object]

/-- The specifiers of a declaration never bind the whole module and names of
it, which is all that the statements rely on. -/
theorem declaredNames_statements (loader : Loader) {bindings : Bindings}
    (hseparate : Separate bindings) (package : String) (addresses : Addresses) :
    declaredNames (statements loader bindings package addresses) =
      (keptName bindings package addresses).toList ++ bindings.locals := by
  unfold statements keptName
  cases hwhole : bindings.whole with
  | none =>
      have hlocals : bindings.locals = (exportBinding bindings).names := by
        rw [names_exportBinding, Bindings.locals, hwhole]
        rfl
      cases addresses.fallback with
      | none =>
          simp [direct, hwhole, constant, hlocals]
      | some fallback =>
          simp [withFallback, hwhole, constant, hlocals]
  | some whole =>
      have hlocals : bindings.locals = whole :: bindings.default.toList := by
        rw [Bindings.locals, hwhole, hseparate whole hwhole]
        simp
      cases addresses.fallback with
      | none =>
          simp [direct, hwhole, constant, declaredNames_defaultFrom, hlocals]
      | some fallback =>
          simp [withFallback, hwhole, declaredNames_defaultFrom, hlocals]

theorem declaredNames_replacement {script : String} {declaration : Declaration}
    (hmem : declaration ∈ declarations script)
    (loader : Loader) (package : String) (addresses : Addresses) :
    declaredNames (statements loader declaration.bindings package addresses) =
      (match addresses.fallback, declaration.bindings.whole with
        | some _, none =>
            (camelCase package ++ "Result") :: declaration.bindings.locals
        | _, _ => declaration.bindings.locals) ∧
    forall name : String,
      declaration.bindings.locals.count name =
        (declaration.specifiers.map Specifier.local).count name := by
  constructor
  · rw [declaredNames_statements loader (separate_of_mem_declarations hmem)]
    cases hfallback : addresses.fallback <;>
      cases hwhole : declaration.bindings.whole <;>
        simp [keptName, hfallback, hwhole, resultName]
  · intro name
    exact (shape_of_mem_declarations hmem).locals_perm.count_eq name

theorem declaredNames_of_default_and_named :
    declarations "import D, { a as b } from 'p'" =
      [{ specifiers := [.default "D", .named "a" "b"], source := "p",
         start := 0, stop := 29 }] ∧
    declaredNames (statements { shim := none, webpackIgnore := true }
        (Bindings.ofSpecifiers [.default "D", .named "a" "b"]) "@s/p-q"
        { primary := "u", fallback := some "v" }) =
      ["pQResult", "D", "b"] := by
  have hread : declarations "import D, { a as b } from 'p'" =
      [{ specifiers := [.default "D", .named "a" "b"], source := "p",
         start := 0, stop := 29 }] := by
    decide +kernel
  constructor
  · exact hread
  · have hnames := (declaredNames_replacement
      (by rw [hread]; exact List.mem_singleton.mpr rfl)
      { shim := none, webpackIgnore := true } "@s/p-q"
      { primary := "u", fallback := some "v" }).left
    exact hnames.trans (by decide +kernel)

end Rewrite
end RemoteImports
