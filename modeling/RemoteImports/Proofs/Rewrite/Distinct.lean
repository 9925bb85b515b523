import RemoteImports.Proofs.Rewrite.Names
import RemoteImports.Proofs.Rewrite.Plans

/-!
# Names of a whole script

Each declaration is replaced without regard to the others, and the variable in
which a module is kept is named after the package alone.  Whether a script
whose names are distinct still has distinct names afterwards is therefore a
question about these variables, and about nothing else.
-/

namespace RemoteImports
namespace Rewrite

open Config Import Package Script

def localNames (declarations : List Declaration) : List String :=
  declarations.flatMap fun declaration =>
    declaration.specifiers.map Specifier.local

/-- The names at the top level that stand for a declaration after a rewrite:
those of its statements or, if it stays, its own. -/
def namesAfter (options : Options) (resolver : Resolver)
    (declaration : Declaration) : List String :=
  match ((replacement options declaration).run.run resolver).1 with
  | .ok (some stmts) => declaredNames stmts
  | .ok none => declaration.specifiers.map Specifier.local
  | .error _ => []

def variableFor (options : Options) (installed : VersionMap)
    (declaration : Declaration) : Option String :=
  if Eligible options declaration.source ∧ declaration.bindings.whole = none then
    some (resultName (Target.ofSource installed declaration.source).name)
  else
    none

section

variable {options : Options} {installed : VersionMap} {resolver : Resolver}
  {code : String}

theorem keptName_planFor {declaration : Declaration}
    (heligible : Eligible options declaration.source) :
    (keptName declaration.bindings (Target.ofSource installed declaration.source).name
        (planFor options (.ofSource installed declaration.source)).addresses).toList =
      if options.fallback.isSome then
        (variableFor options installed declaration).toList
      else
        [] := by
  cases hfallback : options.fallback with
  | none =>
      simp [keptName, planFor, hfallback]
  | some fallback =>
      simp [keptName, variableFor, planFor, hfallback, heligible]

theorem namesAfter_perm (h : resolver.Answers installed)
    {declaration : Declaration} (hmem : declaration ∈ declarations code) :
    (namesAfter options resolver declaration).Perm
      ((if options.fallback.isSome then
          (variableFor options installed declaration).toList
        else
          []) ++
        declaration.specifiers.map Specifier.local) := by
  rw [namesAfter, replacement_run options declaration h, planned]
  by_cases heligible : Eligible options declaration.source
  · rw [if_pos heligible]
    change (declaredNames (Plan.statements _ options declaration)).Perm _
    rw [Plan.statements, declaredNames_statements (loader options)
      (separate_of_mem_declarations hmem), ← keptName_planFor heligible]
    exact (shape_of_mem_declarations hmem).locals_perm.append_left _
  · simp [variableFor, heligible]

theorem namesAfter_nodup_iff (options : Options) {code : String}
    {resolver : Resolver} {installed : VersionMap}
    (h : resolver.Answers installed)
    (hdistinct : (localNames (declarations code)).Nodup) :
    ((declarations code).flatMap (namesAfter options resolver)).Nodup <->
      (options.fallback = none ∨
        (((declarations code).filterMap (variableFor options installed)).Nodup ∧
          forall name, name ∈ (declarations code).filterMap (variableFor options installed) ->
            name ∉ localNames (declarations code))) := by
  have hnames : ((declarations code).flatMap (namesAfter options resolver)).Perm
      ((if options.fallback.isSome then
          (declarations code).filterMap (variableFor options installed)
        else
          []) ++ localNames (declarations code)) := by
    apply (List.Perm.flatMap_left _ fun _ hmem => namesAfter_perm h hmem).trans
    apply (List.flatMap_append_perm _ _ _).symm.trans
    apply List.Perm.append_right
    cases options.fallback with
    | none =>
        simp
    | some fallback =>
        simp [List.filterMap_eq_flatMap_toList]
  rw [hnames.nodup_iff]
  cases options.fallback with
  | none =>
      simp [hdistinct]
  | some fallback =>
      simp only [Option.isSome_some, if_true, List.nodup_append, reduceCtorEq, false_or]
      constructor
      · rintro ⟨hkept, _, hapart⟩
        exact ⟨hkept, fun name hname hlocal => hapart name hname name hlocal rfl⟩
      · rintro ⟨hkept, hapart⟩
        refine ⟨hkept, hdistinct, ?_⟩
        rintro name hname _ hlocal rfl
        exact hapart name hname hlocal

theorem namesAfter_nodup_of_two_packages :
    (localNames (declarations "import a from 'jest';import b from 'mocha';")).Nodup ∧
    ((declarations "import a from 'jest';import b from 'mocha';").flatMap
      (namesAfter { host := "https://c", fallback := some "https://f" }
        { lister := .pinned (.ofList [("jest", "1")]) })).Nodup := by
  have hdistinct : (localNames
      (declarations "import a from 'jest';import b from 'mocha';")).Nodup := by
    decide +kernel
  constructor
  · exact hdistinct
  · apply (namesAfter_nodup_iff { host := "https://c", fallback := some "https://f" }
      (Resolver.Answers.of_pinned (.ofList [("jest", "1")])) hdistinct).mpr
    right
    decide +kernel

/-- Two imports of one package keep their modules in two variables of one name. -/
theorem not_forall_namesAfter_nodup :
    ¬ forall (options : Options) (resolver : Resolver) (installed : VersionMap)
        (code : String),
      resolver.Answers installed ->
      (localNames (declarations code)).Nodup ->
      ((declarations code).flatMap (namesAfter options resolver)).Nodup := by
  intro hall
  have hnames := hall { host := "https://c", fallback := some "https://f" }
    { lister := .pinned (.ofList [("jest", "1")]) } (.ofList [("jest", "1")])
    "import a from 'jest';\nimport b from 'jest';"
    (Resolver.Answers.of_pinned _) (by decide +kernel)
  revert hnames
  decide +kernel

end

end Rewrite
end RemoteImports
