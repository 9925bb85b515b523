import RemoteImports.Proofs.Package.Answers
import RemoteImports.Rewrite.Transform

/-!
# Plans of a script

With a resolver that knows the versions, the plan for an import depends on
nothing but the options, the versions and the source of the import, and a
rewrite is the plans of all declarations put to use at once.
-/

namespace RemoteImports
namespace Rewrite

open Config Import Package

/-- Every pattern matches the source of an import. -/
def Eligible (options : Options) (source : String) : Prop :=
  forall rule, rule ∈ options.rules -> rule.pattern.isMatch source = true

instance (options : Options) (source : String) : Decidable (Eligible options source) :=
  inferInstanceAs (Decidable (forall rule, rule ∈ options.rules -> _))

/-- The plan for an import when these versions are installed. -/
def planned (options : Options) (installed : VersionMap) (source : String) :
    Option Plan :=
  if Eligible options source then
    some (planFor options (.ofSource installed source))
  else
    none

theorem isEligible_iff (options : Options) (source : String) :
    options.rules.isEligible source = true <-> Eligible options source := by
  rw [Rules.isEligible, List.all_eq_true]
  rfl

section

variable {options : Options} {installed : VersionMap}

theorem plan_run (options : Options) (source : String) {resolver : Resolver}
    (h : resolver.Answers installed) :
    exists next : Resolver,
      (plan options source).run.run resolver =
        (.ok (planned options installed source), next) ∧
      next.Answers installed := by
  unfold plan planned
  by_cases heligible : Eligible options source
  · rw [if_pos ((isEligible_iff options source).mpr heligible), if_pos heligible]
    rcases h.versions_run with ⟨next, hrun, hnext⟩
    exact ⟨next, run_bind_of_ok hrun _, hnext⟩
  · rw [if_neg (mt (isEligible_iff options source).mp heligible), if_neg heligible]
    exact ⟨resolver, rfl, h⟩

theorem replacement_run (options : Options) (declaration : Declaration)
    {resolver : Resolver} (h : resolver.Answers installed) :
    ((replacement options declaration).run.run resolver).1 =
      .ok ((planned options installed declaration.source).map fun plan =>
        plan.statements options declaration) := by
  rcases plan_run options declaration.source h with ⟨next, hrun, _⟩
  rw [replacement, run_bind_of_ok hrun]
  rfl

def plansOf (options : Options) (installed : VersionMap)
    (declarations : List Declaration) : List (Declaration × Option Plan) :=
  declarations.map fun declaration =>
    (declaration, planned options installed declaration.source)

theorem plans_cons (declaration : Declaration) (declarations : List Declaration) :
    plans options (declaration :: declarations) =
      plan options declaration.source >>= fun made =>
        plans options declarations >>= fun later =>
          pure ((declaration, made) :: later) := by
  simp only [plans, List.mapM_cons, bind_assoc, pure_bind]

theorem plans_run (declarations : List Declaration) {resolver : Resolver}
    (h : resolver.Answers installed) :
    exists next : Resolver,
      (plans options declarations).run.run resolver =
        (.ok (plansOf options installed declarations), next) ∧
      next.Answers installed := by
  apply run_mapM_of_forall _ declarations resolver h
  intro declaration resolver h
  rcases plan_run options declaration.source h with ⟨next, hrun, hnext⟩
  exact ⟨next, run_bind_of_ok hrun _, hnext⟩

theorem transform_run (code : String) {resolver : Resolver}
    (h : resolver.Answers installed) :
    ((transform options code).run.run resolver).1 =
      .ok (apply options code.toList
        (plansOf options installed (declarations code))) := by
  rcases plans_run (declarations code) h with ⟨next, hrun, _⟩
  rw [transform, run_bind_of_ok hrun]
  rfl

end

end Rewrite
end RemoteImports
