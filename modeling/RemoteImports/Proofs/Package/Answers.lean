import RemoteImports.Package.Resolver
import RemoteImports.Proofs.Computation

/-!
# Resolvers that know the versions

A resolver that answers with a version map goes on answering with that map.
-/

namespace RemoteImports
namespace Package

/-- Asked for the installed versions, the resolver answers with these. -/
def Resolver.Answers (resolver : Resolver) (installed : VersionMap) : Prop :=
  (versions.run.run resolver).1 = .ok installed

theorem versions_run_of_known {resolver : Resolver} {installed : VersionMap}
    (h : resolver.known = some (.ok installed)) :
    versions.run.run resolver = (.ok installed, resolver) := by
  rw [versions, run_bind_get, h]
  rfl

theorem versions_run_of_failed {resolver : Resolver} {message : String}
    (h : resolver.known = some (.error message)) :
    versions.run.run resolver = (.error (.listingUnavailable message), resolver) := by
  rw [versions, run_bind_get, h]
  rfl

theorem versions_run_of_unknown {resolver : Resolver}
    (h : resolver.known = none) :
    versions.run.run resolver = ask.run.run resolver := by
  rw [versions, run_bind_get, h]

theorem ask_known {resolver : Resolver} {installed : VersionMap}
    (h : (ask.run.run resolver).1 = .ok installed) :
    (ask.run.run resolver).2.known = some (.ok installed) := by
  rw [ask, run_bind_get] at h ⊢
  cases hresult : (resolver.lister.list resolver.times).result with
  | ok listed =>
      simp only [hresult] at h ⊢
      have hlisted : (Except.ok listed : Except Failure VersionMap) = .ok installed := h
      cases hlisted
      rfl
  | error failure =>
      simp only [hresult] at h
      cases h

theorem Resolver.Answers.of_known {resolver : Resolver} {installed : VersionMap}
    (h : resolver.known = some (.ok installed)) : resolver.Answers installed := by
  rw [Answers, versions_run_of_known h]

theorem Resolver.Answers.of_pinned (installed : VersionMap) :
    Resolver.Answers { lister := .pinned installed } installed := rfl

theorem Resolver.Answers.versions_run {resolver : Resolver} {installed : VersionMap}
    (h : resolver.Answers installed) :
    exists next : Resolver,
      versions.run.run resolver = (.ok installed, next) ∧
      next.Answers installed := by
  unfold Answers at h
  cases hknown : resolver.known with
  | none =>
      rw [versions_run_of_unknown hknown] at h ⊢
      exact ⟨_, Prod.ext h rfl, of_known (ask_known h)⟩
  | some answer =>
      cases answer with
      | error message =>
          rw [versions_run_of_failed hknown] at h
          cases h
      | ok known =>
          rw [versions_run_of_known hknown] at h ⊢
          cases h
          exact ⟨resolver, rfl, of_known hknown⟩

end Package
end RemoteImports
