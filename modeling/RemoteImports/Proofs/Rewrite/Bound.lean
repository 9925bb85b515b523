import RemoteImports.Proofs.Import.Shape
import RemoteImports.Proofs.Script.Destructuring
import RemoteImports.Rewrite.Statements

/-!
# Names bound to a module

What an import binds its names to, and the statements that bind them once the
module is there.
-/

namespace RemoteImports
namespace Rewrite

open Import Script

def meaning (exports : Exports) : Specifier -> Value
  | .namespace _ => .object exports
  | .default _ => exports "default"
  | .named imported _ => exports imported

/-- Each name has the value that the import gives it. -/
def Bound (environment : Environment) (specifiers : List Specifier)
    (exports : Exports) : Prop :=
  forall specifier, specifier ∈ specifiers ->
    environment.scopes.value? specifier.local = some (meaning exports specifier)

def exportPairs (bindings : Bindings) : List (String × String) :=
  bindings.default.toList.map (fun binding => ("default", binding)) ++
    bindings.named.map fun named => (named.imported, named.binding)

theorem exportBinding_eq (bindings : Bindings) :
    exportBinding bindings =
      .object ((exportPairs bindings).map fun pair =>
        Property.ofNames pair.1 pair.2) := by
  simp [exportBinding, exportPairs, Function.comp_def]

theorem locals_eq_append (bindings : Bindings) :
    bindings.locals =
      bindings.whole.toList ++ (exportPairs bindings).map Prod.snd := by
  simp [Bindings.locals, exportPairs, Function.comp_def]

theorem named_mem_exportPairs {bindings : Bindings} {named : Named}
    (h : named ∈ bindings.named) :
    (named.imported, named.binding) ∈ exportPairs bindings :=
  List.mem_append_right _ (List.mem_map.mpr ⟨named, h, rfl⟩)

theorem default_mem_exportPairs {bindings : Bindings} {binding : String}
    (h : bindings.default = some binding) :
    ("default", binding) ∈ exportPairs bindings := by
  rw [exportPairs, h]
  exact List.mem_cons_self

theorem mem_bindings_of_grouped {specifiers : List Specifier}
    (h : Grouped specifiers) {specifier : Specifier}
    (hmem : specifier ∈ specifiers) :
    (exists whole : String, specifier = .namespace whole ∧
        (Bindings.ofSpecifiers specifiers).whole = some whole) ∨
      exists named : Named, specifier = named.specifier ∧
        named ∈ (Bindings.ofSpecifiers specifiers).named := by
  cases h with
  | whole whole =>
      left
      exact ⟨whole, List.mem_singleton.mp hmem, rfl⟩
  | named names =>
      right
      rcases List.mem_map.mp hmem with ⟨named, hin, rfl⟩
      rw [ofSpecifiers_named]
      exact ⟨named, rfl, hin⟩

/-- Sorted by kind, no specifier is lost. -/
theorem mem_bindings_of_shape {specifiers : List Specifier} (h : Shape specifiers)
    {specifier : Specifier} (hmem : specifier ∈ specifiers) (exports : Exports) :
    ((Bindings.ofSpecifiers specifiers).whole = some specifier.local ∧
        meaning exports specifier = .object exports) ∨
      exists key : String,
        (key, specifier.local) ∈ exportPairs (Bindings.ofSpecifiers specifiers) ∧
        meaning exports specifier = exports key := by
  cases h with
  | group hgroup =>
      rcases mem_bindings_of_grouped hgroup hmem with ⟨whole, rfl, hwhole⟩ | ⟨named, rfl, hnamed⟩
      · exact Or.inl ⟨hwhole, rfl⟩
      · exact Or.inr ⟨named.imported, named_mem_exportPairs hnamed, rfl⟩
  | default binding hgroup =>
      cases hmem with
      | head =>
          exact Or.inr ⟨"default", default_mem_exportPairs rfl, rfl⟩
      | tail _ hmem =>
          rcases mem_bindings_of_grouped hgroup hmem with
            ⟨whole, rfl, hwhole⟩ | ⟨named, rfl, hnamed⟩
          · exact Or.inl ⟨hwhole, rfl⟩
          · exact Or.inr ⟨named.imported, named_mem_exportPairs hnamed, rfl⟩

theorem namespace_mem_of_whole_eq_some {specifiers : List Specifier} {whole : String}
    (h : (Bindings.ofSpecifiers specifiers).whole = some whole) :
    .namespace whole ∈ specifiers := by
  rcases List.exists_of_findSome?_eq_some h with ⟨specifier, hmem, hspecifier⟩
  cases specifier with
  | default binding =>
      cases hspecifier
  | «namespace» binding =>
      cases hspecifier
      exact hmem
  | named imported binding =>
      cases hspecifier

section

variable {loads : Loads} {exports : Exports} {bindings : Bindings}
  {scope : Scope Value} {scopes : Scopes Value} {tried : List (Route × String)}

theorem constant_exportBinding_run {expr : Expr} {environment : Environment}
    (h : (expr.eval loads).run.run environment =
      (.ok (.object exports), { scopes := scope :: scopes, tried })) :
    ((constant (exportBinding bindings) expr).run loads).run.run environment =
      (.ok (), {
        scopes := scope.constants exports (exportPairs bindings) :: scopes
        tried }) := by
  rw [constant, declare_constant_run h, exportBinding_eq]
  exact takeProperties_run exports (exportPairs bindings) scopes tried scope

theorem defaultFrom_run {whole : String} {slot : Slot Value}
    (hnamed : bindings.named = [])
    (hscope : scope whole = some slot) (hslot : slot.value? = some (.object exports)) :
    (runAll loads (defaultFrom bindings whole)).run.run
        { scopes := scope :: scopes, tried } =
      (.ok (), {
        scopes := scope.constants exports (exportPairs bindings) :: scopes
        tried }) := by
  cases hdefault : bindings.default with
  | none =>
      have hpairs : exportPairs bindings = [] := by
        rw [exportPairs, hdefault, hnamed]
        rfl
      rw [defaultFrom, hdefault, hpairs]
      rfl
  | some binding =>
      have hexports : defaultFrom bindings whole =
          [constant (exportBinding bindings) (.name whole)] := by
        rw [defaultFrom, exportBinding, hdefault, hnamed]
        rfl
      have hread : ((Expr.name whole).eval loads).run.run
            { scopes := scope :: scopes, tried } =
          (.ok (.object exports), { scopes := scope :: scopes, tried }) := by
        apply read_run
        rw [Scopes.value?_of_some hscope, hslot]
      rw [hexports]
      exact runAll_cons_run (constant_exportBinding_run hread) []

end

theorem bound_of_shape {specifiers : List Specifier} (h : Shape specifiers)
    (hdistinct : (specifiers.map Specifier.local).Nodup) {exports : Exports}
    {scope : Scope Value} {scopes : Scopes Value} {tried : List (Route × String)}
    (hwhole : forall whole : String,
      (Bindings.ofSpecifiers specifiers).whole = some whole ->
      exists slot : Slot Value,
        scope whole = some slot ∧ slot.value? = some (.object exports)) :
    Bound {
        scopes := scope.constants exports
          (exportPairs (Bindings.ofSpecifiers specifiers)) :: scopes
        tried }
      specifiers exports := by
  intro specifier hmem
  have hlocals := h.locals_perm.nodup_iff.mpr hdistinct
  rw [locals_eq_append, List.nodup_append] at hlocals
  rcases hlocals with ⟨_, hpairs, hapart⟩
  rcases mem_bindings_of_shape h hmem exports with ⟨hname, hmeaning⟩ | ⟨key, hpair, hmeaning⟩
  · rcases hwhole _ hname with ⟨slot, hslot, hvalue⟩
    have hother : specifier.local ∉
        (exportPairs (Bindings.ofSpecifiers specifiers)).map Prod.snd := by
      intro hin
      exact hapart _ (by rw [hname]; exact List.mem_singleton.mpr rfl) _ hin rfl
    rw [hmeaning, ← hvalue]
    apply Scopes.value?_of_some
    rw [Scope.constants_of_not_mem _ hother, hslot]
  · rw [hmeaning]
    exact Scopes.value?_of_some (Scope.constants_of_mem _ hpairs hpair) scopes

end Rewrite
end RemoteImports
