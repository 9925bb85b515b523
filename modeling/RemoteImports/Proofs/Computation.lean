/-!
# Runs of computations

A computation that may fail and keeps a state is run from a state; what comes
of it is a value or a failure, and a state in either case.  These are the laws
by which a run is followed from one step to the next.
-/

namespace RemoteImports

variable {ε σ α β : Type}

theorem run_bind_get (f : σ -> ExceptT ε (StateM σ) α) (s : σ) :
    (get >>= f).run.run s = (f s).run.run s := rfl

theorem run_bind_of_ok {x : ExceptT ε (StateM σ) α} {s s' : σ} {a : α}
    (h : x.run.run s = (.ok a, s')) (f : α -> ExceptT ε (StateM σ) β) :
    (x >>= f).run.run s = (f a).run.run s' := by
  rw [ExceptT.run_bind, StateT.run_bind, h]
  rfl

theorem run_bind_of_error {x : ExceptT ε (StateM σ) α} {s s' : σ} {e : ε}
    (h : x.run.run s = (.error e, s')) (f : α -> ExceptT ε (StateM σ) β) :
    (x >>= f).run.run s = (.error e, s') := by
  rw [ExceptT.run_bind, StateT.run_bind, h]
  rfl

theorem run_tryCatch_of_ok {x : ExceptT ε (StateM σ) α} {s s' : σ} {a : α}
    (h : x.run.run s = (.ok a, s')) (handler : ε -> ExceptT ε (StateM σ) α) :
    (tryCatch x handler).run.run s = (.ok a, s') := by
  rw [ExceptT.run_tryCatch, StateT.run_bind, h]
  rfl

theorem run_tryCatch_of_error {x : ExceptT ε (StateM σ) α} {s s' : σ} {e : ε}
    (h : x.run.run s = (.error e, s')) (handler : ε -> ExceptT ε (StateM σ) α) :
    (tryCatch x handler).run.run s = (handler e).run.run s' := by
  rw [ExceptT.run_tryCatch, StateT.run_bind, h]
  rfl

theorem bind_eq_ok {x : Except ε α} {f : α -> Except ε β} {b : β} :
    x >>= f = .ok b <-> exists a : α, x = .ok a ∧ f a = .ok b := by
  cases x with
  | error e =>
      constructor
      · intro h
        cases h
      · rintro ⟨a, ha, _⟩
        cases ha
  | ok a =>
      constructor
      · intro h
        exact ⟨a, rfl, h⟩
      · rintro ⟨a', ha, h⟩
        cases ha
        exact h

theorem mapM_eq_ok_of_forall {f : α -> Except ε β} {g : α -> β} {xs : List α}
    (h : forall x, x ∈ xs -> f x = .ok (g x)) : xs.mapM f = .ok (xs.map g) := by
  induction xs with
  | nil =>
      rfl
  | cons x xs ih =>
      rw [List.forall_mem_cons] at h
      rw [List.mapM_cons, h.left, ih h.right]
      rfl

theorem bind_eq_error {x : Except ε α} {f : α -> Except ε β} {e : ε} :
    x >>= f = .error e <-> x = .error e ∨ exists a : α, x = .ok a ∧ f a = .error e := by
  cases x with
  | error found =>
      constructor
      · intro h
        cases h
        exact Or.inl rfl
      · rintro (h | ⟨a, ha, _⟩)
        · cases h
          rfl
        · cases ha
  | ok a =>
      constructor
      · intro h
        exact Or.inr ⟨a, rfl, h⟩
      · rintro (h | ⟨a', ha, h⟩)
        · cases h
        · cases ha
          exact h

theorem mapM_cons_eq_error_iff {f : α -> Except ε β} {x : α} {xs : List α} {e : ε} :
    (x :: xs).mapM f = .error e <->
      f x = .error e ∨ exists y : β, f x = .ok y ∧ xs.mapM f = .error e := by
  rw [List.mapM_cons, bind_eq_error]
  refine or_congr Iff.rfl (exists_congr fun y => and_congr Iff.rfl ?_)
  rw [bind_eq_error]
  constructor
  · rintro (h | ⟨_, _, h⟩)
    · exact h
    · cases h
  · exact Or.inl

/-- An invariant of the state that every step keeps is kept by a whole list of
steps, and each step adds its value. -/
theorem run_mapM_of_forall {f : α -> ExceptT ε (StateM σ) β} {g : α -> β}
    {Keeps : σ -> Prop}
    (hstep : forall (a : α) (s : σ), Keeps s ->
      exists s', (f a).run.run s = (.ok (g a), s') ∧ Keeps s')
    (xs : List α) : forall s : σ, Keeps s ->
      exists s', (xs.mapM f).run.run s = (.ok (xs.map g), s') ∧ Keeps s' := by
  induction xs with
  | nil =>
      intro s hs
      exact ⟨s, rfl, hs⟩
  | cons x xs ih =>
      intro s hs
      rcases hstep x s hs with ⟨s1, hx, hs1⟩
      rcases ih s1 hs1 with ⟨s2, hxs, hs2⟩
      exists s2
      constructor
      · rw [List.mapM_cons, run_bind_of_ok hx, run_bind_of_ok hxs]
        rfl
      · exact hs2

end RemoteImports
