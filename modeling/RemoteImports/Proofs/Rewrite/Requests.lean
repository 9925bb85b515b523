import RemoteImports.Proofs.Rewrite.Plans

/-!
# What can be asked of a rewriter

A rewriter is asked for the installed versions, for the plan of an import, for
the statements in place of one, or for a whole script.  A request asks the
resolver if it meets an eligible import, and then its result is the answer of
the resolver put to use; otherwise the resolver is not touched.
-/

namespace RemoteImports
namespace Rewrite

open Config Import Package Script

inductive Request where
  | versions
  | plan (source : String)
  | replacement (declaration : Declaration)
  | transform (code : String)

inductive Answer where
  | versions (installed : VersionMap)
  | plan (plan : Option Plan)
  | replacement (stmts : Option (List Stmt))
  | transform (output : Output)

def Request.run (options : Options) : Request -> Resolving Answer
  | .versions => Answer.versions <$> Package.versions
  | .plan source => Answer.plan <$> Rewrite.plan options source
  | .replacement declaration =>
      Answer.replacement <$> Rewrite.replacement options declaration
  | .transform code => Answer.transform <$> Rewrite.transform options code

def Request.Needs (options : Options) : Request -> Prop
  | .versions => True
  | .plan source => Eligible options source
  | .replacement declaration => Eligible options declaration.source
  | .transform code =>
      exists declaration, declaration ∈ declarations code ∧
        Eligible options declaration.source

instance (options : Options) (request : Request) :
    Decidable (request.Needs options) :=
  match request with
  | .versions => inferInstanceAs (Decidable True)
  | .plan source => inferInstanceAs (Decidable (Eligible options source))
  | .replacement declaration =>
      inferInstanceAs (Decidable (Eligible options declaration.source))
  | .transform code =>
      inferInstanceAs (Decidable (exists declaration,
        declaration ∈ declarations code ∧ Eligible options declaration.source))

def Request.answer (options : Options) (installed : VersionMap) : Request -> Answer
  | .versions => .versions installed
  | .plan source => .plan (planned options installed source)
  | .replacement declaration =>
      .replacement ((planned options installed declaration.source).map fun plan =>
        plan.statements options declaration)
  | .transform code =>
      .transform (apply options code.toList
        (plansOf options installed (declarations code)))

section

variable {options : Options} {installed : VersionMap} {resolver next : Resolver}
  {failure : Failure}

theorem run_map_of_ok {α β : Type} {x : Resolving α} {a : α}
    (h : x.run.run resolver = (.ok a, next)) (f : α -> β) :
    (f <$> x).run.run resolver = (.ok (f a), next) := by
  rw [map_eq_pure_bind]
  exact run_bind_of_ok h _

theorem run_map_of_error {α β : Type} {x : Resolving α}
    (h : x.run.run resolver = (.error failure, next)) (f : α -> β) :
    (f <$> x).run.run resolver = (.error failure, next) := by
  rw [map_eq_pure_bind]
  exact run_bind_of_error h _

/-!
# One import
-/

theorem plan_run_of_not_eligible {source : String} (h : ¬ Eligible options source)
    (installed : VersionMap) (resolver : Resolver) :
    (plan options source).run.run resolver =
      (.ok (planned options installed source), resolver) := by
  rw [plan, planned, if_neg (mt (isEligible_iff options source).mp h), if_neg h]
  rfl

theorem plan_run_of_ok {source : String} (h : Eligible options source)
    (hversions : versions.run.run resolver = (.ok installed, next)) :
    (plan options source).run.run resolver =
      (.ok (planned options installed source), next) := by
  rw [plan, planned, if_pos ((isEligible_iff options source).mpr h), if_pos h]
  exact run_bind_of_ok hversions _

theorem plan_run_of_error {source : String} (h : Eligible options source)
    (hversions : versions.run.run resolver = (.error failure, next)) :
    (plan options source).run.run resolver = (.error failure, next) := by
  rw [plan, if_pos ((isEligible_iff options source).mpr h)]
  exact run_bind_of_error hversions _

/-!
# All imports of a script

The first eligible import settles what the resolver answers; behind it the
resolver gives the same answer and stays as it is.
-/

theorem plans_cons_run_of_ok {declaration : Declaration} {made : Option Plan}
    (h : (plan options declaration.source).run.run resolver = (.ok made, next))
    (later : List Declaration) :
    (plans options (declaration :: later)).run.run resolver =
      (((declaration, made) :: ·) <$> plans options later).run.run next := by
  rw [plans_cons, run_bind_of_ok h, map_eq_pure_bind]

theorem plans_cons_run_of_error {declaration : Declaration}
    (h : (plan options declaration.source).run.run resolver = (.error failure, next))
    (later : List Declaration) :
    (plans options (declaration :: later)).run.run resolver =
      (.error failure, next) := by
  rw [plans_cons, run_bind_of_error h]

theorem plans_run_of_not_eligible {declarations : List Declaration}
    (h : forall declaration, declaration ∈ declarations ->
      ¬ Eligible options declaration.source)
    (installed : VersionMap) (resolver : Resolver) :
    (plans options declarations).run.run resolver =
      (.ok (plansOf options installed declarations), resolver) := by
  induction declarations with
  | nil =>
      rfl
  | cons declaration later ih =>
      have hfirst := plan_run_of_not_eligible (h declaration List.mem_cons_self)
        installed resolver
      rw [plans_cons_run_of_ok hfirst]
      apply run_map_of_ok
      exact ih fun declaration hmem => h declaration (List.mem_cons_of_mem _ hmem)

/-- An answer is given again, and nothing else is done for it. -/
theorem versions_run_again
    (h : versions.run.run resolver = (.ok installed, next)) :
    versions.run.run next = (.ok installed, next) := by
  apply versions_run_of_known
  cases hknown : resolver.known with
  | none =>
      rw [versions_run_of_unknown hknown] at h
      have hkept := ask_known (congrArg Prod.fst h)
      rw [h] at hkept
      exact hkept
  | some answer =>
      cases answer with
      | error message =>
          rw [versions_run_of_failed hknown] at h
          cases h
      | ok known =>
          rw [versions_run_of_known hknown] at h
          cases h
          exact hknown

theorem plans_run_of_ok {declarations : List Declaration}
    (hversions : versions.run.run resolver = (.ok installed, next))
    (h : exists declaration, declaration ∈ declarations ∧
      Eligible options declaration.source) :
    (plans options declarations).run.run resolver =
      (.ok (plansOf options installed declarations), next) := by
  induction declarations generalizing resolver with
  | nil =>
      rcases h with ⟨declaration, hmem, _⟩
      cases hmem
  | cons declaration later ih =>
      by_cases hfirst : Eligible options declaration.source
      · rw [plans_cons_run_of_ok (plan_run_of_ok hfirst hversions)]
        apply run_map_of_ok
        by_cases hlater : exists declaration, declaration ∈ later ∧
            Eligible options declaration.source
        · exact ih (versions_run_again hversions) hlater
        · apply plans_run_of_not_eligible
          intro declaration hmem heligible
          exact hlater ⟨declaration, hmem, heligible⟩
      · rw [plans_cons_run_of_ok (plan_run_of_not_eligible hfirst installed resolver)]
        apply run_map_of_ok
        apply ih hversions
        rcases h with ⟨found, hmem, heligible⟩
        cases hmem with
        | head =>
            exact absurd heligible hfirst
        | tail _ hlater =>
            exact ⟨found, hlater, heligible⟩

theorem plans_run_of_error {declarations : List Declaration}
    (hversions : versions.run.run resolver = (.error failure, next))
    (h : exists declaration, declaration ∈ declarations ∧
      Eligible options declaration.source) :
    (plans options declarations).run.run resolver = (.error failure, next) := by
  induction declarations with
  | nil =>
      rcases h with ⟨declaration, hmem, _⟩
      cases hmem
  | cons declaration later ih =>
      by_cases hfirst : Eligible options declaration.source
      · exact plans_cons_run_of_error (plan_run_of_error hfirst hversions) later
      · rw [plans_cons_run_of_ok
          (plan_run_of_not_eligible hfirst (.empty) resolver)]
        apply run_map_of_error
        apply ih
        rcases h with ⟨found, hmem, heligible⟩
        cases hmem with
        | head =>
            exact absurd heligible hfirst
        | tail _ hlater =>
            exact ⟨found, hlater, heligible⟩

/-!
# Requests
-/

variable {request : Request}

theorem Request.run_of_not_needs (h : ¬ request.Needs options)
    (installed : VersionMap) (resolver : Resolver) :
    (request.run options).run.run resolver =
      (.ok (request.answer options installed), resolver) := by
  cases request with
  | versions =>
      exact absurd trivial h
  | plan source =>
      exact run_map_of_ok (plan_run_of_not_eligible h installed resolver) _
  | replacement declaration =>
      apply run_map_of_ok
      exact run_bind_of_ok (plan_run_of_not_eligible h installed resolver) _
  | transform code =>
      apply run_map_of_ok
      apply run_bind_of_ok (plans_run_of_not_eligible _ installed resolver) _
      intro declaration hmem heligible
      exact h ⟨declaration, hmem, heligible⟩

theorem Request.run_of_ok (h : request.Needs options)
    (hversions : Package.versions.run.run resolver = (.ok installed, next)) :
    (request.run options).run.run resolver =
      (.ok (request.answer options installed), next) := by
  cases request with
  | versions =>
      exact run_map_of_ok hversions _
  | plan source =>
      exact run_map_of_ok (plan_run_of_ok h hversions) _
  | replacement declaration =>
      apply run_map_of_ok
      exact run_bind_of_ok (plan_run_of_ok h hversions) _
  | transform code =>
      apply run_map_of_ok
      exact run_bind_of_ok (plans_run_of_ok hversions h) _

theorem Request.run_of_error (h : request.Needs options)
    (hversions : Package.versions.run.run resolver = (.error failure, next)) :
    (request.run options).run.run resolver = (.error failure, next) := by
  cases request with
  | versions =>
      exact run_map_of_error hversions _
  | plan source =>
      exact run_map_of_error (plan_run_of_error h hversions) _
  | replacement declaration =>
      apply run_map_of_error
      exact run_bind_of_error (plan_run_of_error h hversions) _
  | transform code =>
      apply run_map_of_error
      exact run_bind_of_error (plans_run_of_error hversions h) _

end

end Rewrite
end RemoteImports
