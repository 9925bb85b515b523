import RemoteImports.Proofs.Rewrite.Requests

/-!
# Sessions

A rewriter and its clones share their options and one resolver.  In a session,
requests are made of any of them in any order.  The lister is asked by the
first request that needs the versions, and by no other.  If it answers, that
one answer is what all results rest on.  If it fails, the request that asked
gets the failure itself, and later ones are told of it.
-/

namespace RemoteImports
namespace Rewrite

open Config Import Package Script

inductive Handle where
  | original
  | clone (of : Handle)

def Handle.options (options : Options) : Handle -> Options
  | .original => options
  | .clone of => of.options options

theorem Handle.options_eq (options : Options) (handle : Handle) :
    handle.options options = options := by
  induction handle with
  | original =>
      rfl
  | clone _ ih =>
      exact ih

structure Call where
  handle : Handle
  request : Request

structure Entry where
  call : Call
  result : Except Failure Answer

/-- The resolver that all handles share, and the calls so far. -/
structure Session where
  resolver : Resolver
  entries : List Entry

def Session.start (lister : Lister) : Session :=
  { resolver := { lister }, entries := [] }

def Session.step (options : Options) (session : Session) (call : Call) : Session :=
  let run := (call.request.run (call.handle.options options)).run.run session.resolver
  { resolver := run.2
    entries := session.entries ++ [{ call, result := run.1 }] }

def Session.run (options : Options) (session : Session) (calls : List Call) : Session :=
  calls.foldl (Session.step options) session

def Asked (options : Options) (entries : List Entry) : Prop :=
  exists entry, entry ∈ entries ∧ entry.call.request.Needs options

/-!
# The resolver of a session

It is either as it was at the start, or as it is after the lister was asked
once.
-/

def afterAsking (lister : Lister) : Resolver :=
  { lister
    times := 1
    commandLines := (lister.list 0).commandLine.toList
    known := some ((lister.list 0).result.mapError Failure.message) }

theorem versions_run_first (lister : Lister) :
    versions.run.run { lister } = ((lister.list 0).result, afterAsking lister) := by
  rw [versions_run_of_unknown rfl, ask, run_bind_get, afterAsking]
  cases hresult : (lister.list 0).result with
  | ok installed =>
      simp only [hresult]
      rfl
  | error failure =>
      simp only [hresult]
      rfl

def again (result : Except Failure VersionMap) : Except Failure VersionMap :=
  result.mapError fun failure => .listingUnavailable failure.message

theorem versions_run_later (lister : Lister) :
    versions.run.run (afterAsking lister) =
      (again (lister.list 0).result, afterAsking lister) := by
  cases hresult : (lister.list 0).result with
  | ok installed =>
      apply versions_run_of_known
      rw [afterAsking, hresult]
      rfl
  | error failure =>
      apply versions_run_of_failed
      rw [afterAsking, hresult]
      rfl

theorem afterAsking_isInitialized (lister : Lister) :
    (afterAsking lister).isInitialized = true <->
      exists installed : VersionMap, (lister.list 0).result = .ok installed := by
  rw [Resolver.isInitialized, afterAsking]
  cases (lister.list 0).result with
  | ok installed =>
      exact ⟨fun _ => ⟨installed, rfl⟩, fun _ => rfl⟩
  | error failure =>
      constructor
      · intro h
        cases h
      · rintro ⟨installed, h⟩
        cases h

/-!
# One call
-/

section

variable {options : Options} {lister : Lister} {request : Request}

theorem Request.run_of_needs {resolver next : Resolver}
    {result : Except Failure VersionMap} (h : request.Needs options)
    (hversions : Package.versions.run.run resolver = (result, next)) :
    (request.run options).run.run resolver =
      (result.map fun installed => request.answer options installed, next) := by
  cases result with
  | ok installed =>
      exact run_of_ok h hversions
  | error failure =>
      exact run_of_error h hversions

structure Due (options : Options) (lister : Lister) (earlier : List Entry)
    (entry : Entry) : Prop where
  unneeded : ¬ entry.call.request.Needs options ->
    forall installed : VersionMap,
      entry.result = .ok (entry.call.request.answer options installed)
  first : entry.call.request.Needs options -> ¬ Asked options earlier ->
    entry.result = (lister.list 0).result.map fun installed =>
      entry.call.request.answer options installed
  later : entry.call.request.Needs options -> Asked options earlier ->
    entry.result = (again (lister.list 0).result).map fun installed =>
      entry.call.request.answer options installed

structure Consistent (options : Options) (lister : Lister) (session : Session) :
    Prop where
  untouched : ¬ Asked options session.entries -> session.resolver = { lister }
  asked : Asked options session.entries -> session.resolver = afterAsking lister
  due : forall (earlier : List Entry) (entry : Entry) (later : List Entry),
    session.entries = earlier ++ entry :: later -> Due options lister earlier entry

theorem asked_append_singleton (entries : List Entry) (entry : Entry) :
    Asked options (entries ++ [entry]) <->
      Asked options entries ∨ entry.call.request.Needs options := by
  simp [Asked, or_and_right, exists_or]

theorem consistent_start (options : Options) (lister : Lister) :
    Consistent options lister (.start lister) := by
  refine ⟨fun _ => rfl, ?_, ?_⟩
  · rintro ⟨entry, hmem, _⟩
    cases hmem
  · intro earlier entry later h
    have hnil : earlier ++ entry :: later = [] := h.symm
    simp at hnil

theorem Consistent.append {session : Session} {entry : Entry} {resolver : Resolver}
    (h : Consistent options lister session)
    (huntouched : ¬ Asked options (session.entries ++ [entry]) -> resolver = { lister })
    (hasked : Asked options (session.entries ++ [entry]) -> resolver = afterAsking lister)
    (hdue : Due options lister session.entries entry) :
    Consistent options lister
      { resolver, entries := session.entries ++ [entry] } := by
  refine ⟨huntouched, hasked, ?_⟩
  intro earlier found later hsplit
  rcases List.eq_nil_or_concat later with rfl | ⟨later, last, rfl⟩
  · rcases List.append_inj' hsplit rfl with ⟨hearlier, hfound⟩
    cases hfound
    rw [← hearlier]
    exact hdue
  · have hsplit' : session.entries ++ [entry] =
        (earlier ++ found :: later) ++ [last] := by
      simpa using hsplit
    exact h.due earlier found later (List.append_inj' hsplit' rfl).left

theorem Consistent.step {session : Session} (h : Consistent options lister session)
    (call : Call) : Consistent options lister (session.step options call) := by
  rw [Session.step, Handle.options_eq]
  by_cases hneeds : call.request.Needs options
  · have hasked : forall result : Except Failure Answer,
        Asked options (session.entries ++ [⟨call, result⟩]) := by
      intro result
      exact (asked_append_singleton _ _).mpr (Or.inr hneeds)
    by_cases hbefore : Asked options session.entries
    · rw [h.asked hbefore, Request.run_of_needs hneeds (versions_run_later lister)]
      apply h.append
      · exact fun hnot => absurd (hasked _) hnot
      · exact fun _ => rfl
      · exact ⟨fun hnot => absurd hneeds hnot, fun _ hnot => absurd hbefore hnot,
          fun _ _ => rfl⟩
    · rw [h.untouched hbefore, Request.run_of_needs hneeds (versions_run_first lister)]
      apply h.append
      · exact fun hnot => absurd (hasked _) hnot
      · exact fun _ => rfl
      · exact ⟨fun hnot => absurd hneeds hnot, fun _ _ => rfl,
          fun _ hasked => absurd hasked hbefore⟩
  · have hrun : forall installed : VersionMap,
        (call.request.run options).run.run session.resolver =
          (.ok (call.request.answer options installed), session.resolver) :=
      fun installed => Request.run_of_not_needs hneeds installed session.resolver
    have hsame : forall result : Except Failure Answer,
        Asked options (session.entries ++ [⟨call, result⟩]) <->
          Asked options session.entries := by
      intro result
      exact (asked_append_singleton _ _).trans (or_iff_left hneeds)
    rw [hrun .empty]
    apply h.append
    · exact fun hnot => h.untouched (mt (hsame _).mpr hnot)
    · exact fun hasked => h.asked ((hsame _).mp hasked)
    · refine ⟨?_, fun hneeds' => absurd hneeds' hneeds,
        fun hneeds' => absurd hneeds' hneeds⟩
      intro _ installed
      have hboth := (hrun .empty).symm.trans (hrun installed)
      exact congrArg Prod.fst hboth

theorem Consistent.run {session : Session} (h : Consistent options lister session)
    (calls : List Call) : Consistent options lister (session.run options calls) := by
  induction calls generalizing session with
  | nil =>
      exact h
  | cons call calls ih =>
      exact ih (h.step call)

end

theorem Session.run_calls (options : Options) (session : Session) (calls : List Call) :
    (session.run options calls).entries.map Entry.call =
      session.entries.map Entry.call ++ calls := by
  induction calls generalizing session with
  | nil =>
      exact (List.append_nil _).symm
  | cons call calls ih =>
      rw [Session.run, List.foldl_cons, ← Session.run, ih, Session.step, List.map_append,
        List.append_assoc]
      rfl

/-- In any session, the lister is asked at most once, and only for a call that
needs the versions.  If it answers, all results are those for its answer.  If
it fails, the call that asked gets the failure, later ones that need the
versions get the message of the failure, and all others succeed. -/
theorem session_asks_once (options : Options) (lister : Lister) (calls : List Call) :
    let session := (Session.start lister).run options calls
    session.entries.map Entry.call = calls ∧
    session.resolver.times <= 1 ∧
    (session.resolver.times = 1 <->
      exists call, call ∈ calls ∧ call.request.Needs options) ∧
    (session.resolver.isInitialized = true <->
      session.resolver.times = 1 ∧
        exists installed : VersionMap, (lister.list 0).result = .ok installed) ∧
    (forall installed : VersionMap, (lister.list 0).result = .ok installed ->
      forall entry, entry ∈ session.entries ->
        entry.result = .ok (entry.call.request.answer options installed)) ∧
    (forall failure : Failure, (lister.list 0).result = .error failure ->
      forall (earlier : List Entry) (entry : Entry) (later : List Entry),
        session.entries = earlier ++ entry :: later ->
          (entry.call.request.Needs options -> ¬ Asked options earlier ->
            entry.result = .error failure) ∧
          (entry.call.request.Needs options -> Asked options earlier ->
            entry.result = .error (.listingUnavailable failure.message)) ∧
          (¬ entry.call.request.Needs options -> forall installed : VersionMap,
            entry.result = .ok (entry.call.request.answer options installed))) := by
  intro session
  have hconsistent : Consistent options lister session :=
    (consistent_start options lister).run calls
  have hcalls : session.entries.map Entry.call = calls :=
    Session.run_calls options (.start lister) calls
  have hasked : Asked options session.entries <->
      exists call, call ∈ calls ∧ call.request.Needs options := by
    rw [← hcalls]
    constructor
    · rintro ⟨entry, hmem, hneeds⟩
      exact ⟨entry.call, List.mem_map_of_mem hmem, hneeds⟩
    · rintro ⟨call, hmem, hneeds⟩
      rcases List.mem_map.mp hmem with ⟨entry, hentry, rfl⟩
      exact ⟨entry, hentry, hneeds⟩
  refine ⟨hcalls, ?_, ?_, ?_, ?_, ?_⟩
  · by_cases h : Asked options session.entries
    · rw [hconsistent.asked h]
      exact Nat.le_refl 1
    · rw [hconsistent.untouched h]
      exact Nat.zero_le 1
  · rw [← hasked]
    by_cases h : Asked options session.entries
    · rw [hconsistent.asked h]
      exact ⟨fun _ => h, fun _ => rfl⟩
    · rw [hconsistent.untouched h]
      exact ⟨fun hzero => absurd hzero.symm (Nat.succ_ne_zero 0), fun hasked => absurd hasked h⟩
  · by_cases h : Asked options session.entries
    · rw [hconsistent.asked h, afterAsking_isInitialized]
      exact ⟨fun hok => ⟨rfl, hok⟩, fun hboth => hboth.right⟩
    · rw [hconsistent.untouched h]
      constructor
      · intro hinitialized
        cases hinitialized
      · rintro ⟨hzero, _⟩
        cases hzero
  · intro installed hresult entry hmem
    rcases List.append_of_mem hmem with ⟨earlier, later, hsplit⟩
    have hdue := hconsistent.due earlier entry later hsplit
    by_cases hneeds : entry.call.request.Needs options
    · by_cases hbefore : Asked options earlier
      · rw [hdue.later hneeds hbefore, hresult]
        rfl
      · rw [hdue.first hneeds hbefore, hresult]
        rfl
    · exact hdue.unneeded hneeds installed
  · intro failure hresult earlier entry later hsplit
    have hdue := hconsistent.due earlier entry later hsplit
    refine ⟨?_, ?_, hdue.unneeded⟩
    · intro hneeds hbefore
      rw [hdue.first hneeds hbefore, hresult]
      rfl
    · intro hneeds hbefore
      rw [hdue.later hneeds hbefore, hresult]
      rfl

end Rewrite
end RemoteImports
