import Mathlib.Data.List.Perm.Basic
import RemoteImports.Proofs.Import.Located

/-!
# Shapes of declarations

Sorting specifiers by kind forgets all but the first binding of a default
export and all but the first of a whole module.  What is read from a script
loses nothing by it: at most one default binding comes first, and behind it
stands one binding of the whole module or a list of names, never both.
-/

namespace RemoteImports
namespace Import

open Script

def Named.specifier (named : Named) : Specifier :=
  .named named.imported named.binding

inductive Grouped : List Specifier -> Prop where
  | whole (binding : String) : Grouped [.namespace binding]
  | named (names : List Named) : Grouped (names.map Named.specifier)

inductive Shape : List Specifier -> Prop where
  | group {specifiers : List Specifier} :
      Grouped specifiers -> Shape specifiers
  | default (binding : String) {specifiers : List Specifier} :
      Grouped specifiers -> Shape (.default binding :: specifiers)

/-!
# Bindings by kind

For each shape the bindings by kind are known outright, and with them that no
local name is lost or repeated.
-/

@[simp] theorem ofSpecifiers_whole (binding : String) :
    Bindings.ofSpecifiers [.namespace binding] =
      { whole := some binding, default := none, named := [] } := rfl

@[simp] theorem ofSpecifiers_named (names : List Named) :
    Bindings.ofSpecifiers (names.map Named.specifier) =
      { whole := none, default := none, named := names } := by
  simp [Bindings.ofSpecifiers, List.findSome?_map, List.filterMap_map,
    Function.comp_def, Named.specifier]

@[simp] theorem ofSpecifiers_default (binding : String)
    (specifiers : List Specifier) :
    Bindings.ofSpecifiers (.default binding :: specifiers) =
      { Bindings.ofSpecifiers specifiers with default := some binding } := rfl

def Separate (bindings : Bindings) : Prop :=
  forall whole : String, bindings.whole = some whole -> bindings.named = []

theorem Grouped.separate {specifiers : List Specifier} (h : Grouped specifiers) :
    Separate (Bindings.ofSpecifiers specifiers) := by
  intro whole hwhole
  cases h with
  | whole binding =>
      rfl
  | named names =>
      simp at hwhole

theorem Shape.separate {specifiers : List Specifier} (h : Shape specifiers) :
    Separate (Bindings.ofSpecifiers specifiers) := by
  cases h with
  | group hgroup =>
      exact hgroup.separate
  | default binding hgroup =>
      exact hgroup.separate

theorem Grouped.locals_eq {specifiers : List Specifier} (h : Grouped specifiers) :
    (Bindings.ofSpecifiers specifiers).locals = specifiers.map Specifier.local := by
  cases h with
  | whole binding =>
      rfl
  | named names =>
      simp [Bindings.locals, Function.comp_def, Named.specifier, Specifier.local]

theorem Shape.locals_perm {specifiers : List Specifier} (h : Shape specifiers) :
    (Bindings.ofSpecifiers specifiers).locals.Perm
      (specifiers.map Specifier.local) := by
  cases h with
  | group hgroup =>
      rw [hgroup.locals_eq]
  | default binding hgroup =>
      rw [List.map_cons, ← hgroup.locals_eq]
      cases hgroup with
      | whole whole =>
          exact List.Perm.swap binding whole []
      | named names =>
          simp [Bindings.locals, Specifier.local]

/-!
# Readers keep to the shapes
-/

theorem braced?_named {cs rest : List Char} {specifier : Specifier}
    (h : braced? cs = some (specifier, rest)) :
    exists named : Named, specifier = named.specifier := by
  unfold braced? at h
  split at h
  · rename_i name r1 h1
    simp only [Option.bind_eq_bind, Option.bind_eq_some_iff, Option.pure_def,
      Option.some.injEq, Prod.mk.injEq, Prod.exists] at h
    rcases h with ⟨binding, r2, _, hspecifier, _⟩
    exact ⟨⟨String.ofList name, binding⟩, hspecifier.symm⟩
  · simp only [Option.bind_eq_bind, Option.bind_eq_some_iff, Prod.exists] at h
    rcases h with ⟨name, r1, _, h⟩
    split at h
    · simp at h
    · split at h
      · simp only [Option.bind_eq_some_iff, Option.pure_def,
          Option.some.injEq, Prod.mk.injEq, Prod.exists] at h
        rcases h with ⟨binding, r2, _, hspecifier, _⟩
        exact ⟨⟨String.ofList name, binding⟩, hspecifier.symm⟩
      · simp only [Option.pure_def, Option.some.injEq, Prod.mk.injEq] at h
        exact ⟨⟨String.ofList name, String.ofList name⟩, h.left.symm⟩

theorem bracedList?_named {cs rest : List Char} {specifiers : List Specifier}
    (h : bracedList? cs = some (specifiers, rest)) :
    exists names : List Named, specifiers = names.map Named.specifier := by
  fun_induction bracedList? cs generalizing specifiers rest with
  | case1 | case3 | case4 | case7 =>
      simp at h
  | case2 =>
      simp only [Option.some.injEq, Prod.mk.injEq] at h
      exact ⟨[], h.left.symm⟩
  | case5 _ _ _ _ _ specifier _ hentry ih =>
      simp only [Option.map_eq_some_iff, Prod.exists, Prod.mk.injEq] at h
      rcases h with ⟨later, _, hlater, rfl, _⟩
      rcases braced?_named hentry with ⟨named, rfl⟩
      rcases ih hlater with ⟨names, rfl⟩
      exact ⟨named :: names, rfl⟩
  | case6 _ _ _ _ _ specifier _ hentry =>
      simp only [Option.some.injEq, Prod.mk.injEq] at h
      rcases braced?_named hentry with ⟨named, rfl⟩
      exact ⟨[named], h.left.symm⟩

theorem group?_grouped {cs rest : List Char} {specifiers : List Specifier}
    (h : group? cs = some (specifiers, rest)) : Grouped specifiers := by
  unfold group? at h
  split at h
  · simp only [Option.bind_eq_bind, Option.bind_eq_some_iff, Option.pure_def,
      Option.some.injEq, Prod.mk.injEq, Prod.exists] at h
    rcases h with ⟨binding, _, _, rfl, _⟩
    exact Grouped.whole binding
  · simp only [Option.bind_eq_bind, Option.bind_eq_some_iff, Option.pure_def,
      Option.some.injEq, Prod.mk.injEq, Prod.exists] at h
    rcases h with ⟨_, _, hlist, rfl, _⟩
    rcases bracedList?_named hlist with ⟨names, rfl⟩
    exact Grouped.named names
  · simp at h

theorem specifiers?_shape {cs rest : List Char} {specifiers : List Specifier}
    (h : specifiers? cs = some (specifiers, rest)) : Shape specifiers := by
  unfold specifiers? at h
  split at h
  · exact Shape.group (group?_grouped h)
  · simp only at h
    split at h
    · simp only [Option.bind_eq_bind, Option.bind_eq_some_iff, Option.pure_def,
        Option.some.injEq, Prod.mk.injEq, Prod.exists] at h
      rcases h with ⟨_, _, hgroup, rfl, _⟩
      exact Shape.default _ (group?_grouped hgroup)
    · simp only [Option.some.injEq, Prod.mk.injEq] at h
      rcases h with ⟨rfl, _⟩
      exact Shape.default _ (Grouped.named [])

theorem clause?_shape {cs rest : List Char} {clause : Clause}
    (h : clause? cs = some (clause, rest)) : Shape clause.specifiers := by
  simp only [clause?] at h
  split at h
  · simp only [Option.bind_eq_bind, Option.bind_eq_some_iff, Option.pure_def,
      Option.some.injEq, Prod.mk.injEq, Prod.exists] at h
    rcases h with ⟨_, _, _, rfl, _⟩
    exact Shape.group (Grouped.named [])
  · split at h
    · simp at h
    · simp only [Option.bind_eq_bind, Option.bind_eq_some_iff, Option.pure_def,
        Option.some.injEq, Prod.mk.injEq, Prod.exists] at h
      rcases h with ⟨specifiers, _, hspecifiers, _, _, _, _, _, rfl, _⟩
      exact specifiers?_shape hspecifiers

theorem shape_of_mem_declarations {script : String} {declaration : Declaration}
    (hmem : declaration ∈ declarations script) : Shape declaration.specifiers := by
  rcases (declarations_located script).exists_clause hmem with
    ⟨clause, cs, left, hclause, hspecifiers, _⟩
  rw [hspecifiers]
  exact clause?_shape hclause

theorem separate_of_mem_declarations {script : String}
    {declaration : Declaration} (hmem : declaration ∈ declarations script) :
    Separate declaration.bindings :=
  (shape_of_mem_declarations hmem).separate

end Import
end RemoteImports
