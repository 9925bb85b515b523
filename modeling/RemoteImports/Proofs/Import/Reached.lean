import RemoteImports.Proofs.Import.Runs

/-!
# Where the scan comes to

From the front of a script the scan comes to one place after another, with or
without a declaration between them.  What it finds behind a place depends on
the state there and on the text there, and only the numbers that it reports
depend on how far the place is from the end of the script.
-/

namespace RemoteImports
namespace Import

open Script
open Text (byteLength byteLength_append byteLength_le_of_suffix)

/-- From the first state and text, steps of the scan lead to the second. -/
inductive Reaches : State -> List Char -> State -> List Char -> Prop where
  | refl (state : State) (cs : List Char) : Reaches state cs state cs
  | step {state last : State} {c : Char} {cs rest : List Char} :
      Reaches (state.step c cs).state (state.step c cs).rest last rest ->
      Reaches state (c :: cs) last rest

def Clause.declaration (clause : Clause) (start stop : Nat) : Declaration :=
  { specifiers := clause.specifiers, source := clause.source, start, stop }

def Declaration.shift (n : Nat) (declaration : Declaration) : Declaration :=
  { declaration with start := n + declaration.start, stop := n + declaration.stop }

section

variable {total : Nat} {state last : State} {cs rest : List Char}
  {declaration : Declaration}

theorem Reaches.suffix (h : Reaches state cs last rest) : rest <:+ cs := by
  induction h with
  | refl =>
      exact List.suffix_rfl
  | step _ ih =>
      exact (ih.trans (State.step_suffix _ _ _)).trans (List.suffix_cons _ _)

theorem scan_cons_of_none {c : Char} (h : (state.step c cs).clause = none) :
    scan total state (c :: cs) =
      scan total (state.step c cs).state (state.step c cs).rest := by
  rw [scan, h]

theorem scan_cons_of_some {c : Char} {clause : Clause}
    (h : (state.step c cs).clause = some clause) :
    scan total state (c :: cs) =
      clause.declaration (total - byteLength (c :: cs))
          (total - byteLength (state.step c cs).rest) ::
        scan total (state.step c cs).state (state.step c cs).rest := by
  rw [scan, h]
  rfl

theorem Reaches.scan_suffix (h : Reaches state cs last rest) (total : Nat) :
    scan total last rest <:+ scan total state cs := by
  induction h with
  | refl =>
      exact List.suffix_rfl
  | @step state last c cs rest _ ih =>
      cases hclause : (state.step c cs).clause with
      | none =>
          rw [scan_cons_of_none hclause]
          exact ih
      | some clause =>
          rw [scan_cons_of_some hclause]
          exact ih.trans (List.suffix_cons _ _)

/-- What is found is found at a word `import` that the scan comes to outside
all brackets. -/
theorem exists_reached_of_mem_scan (h : declaration ∈ scan total state cs) :
    exists (last : State) (behind rest : List Char) (clause : Clause),
      Reaches state cs last (importWord ++ (behind ++ rest)) ∧
      last.depth = 0 ∧ last.last ≠ .punctuation '.' ∧
      EndsWord (behind ++ rest) ∧ clause? (behind ++ rest) = some (clause, rest) ∧
      declaration =
        clause.declaration (total - byteLength (importWord ++ (behind ++ rest)))
          (total - byteLength rest) := by
  fun_induction scan total state cs with
  | case1 =>
      cases h
  | case2 state c cs step _ later hnone ih =>
      rcases ih h with ⟨last, behind, rest, clause, hreach, hrest⟩
      exact ⟨last, behind, rest, clause, Reaches.step hreach, hrest⟩
  | case3 state c cs step _ later clause hsome ih =>
      cases h with
      | head =>
          rcases state.step_declaration hsome with
            ⟨hdepth, hlast, _, behind, htext, hends, hclause⟩
          refine ⟨state, behind, step.rest, clause, ?_, hdepth, hlast, hends, hclause, ?_⟩
          · rw [htext]
            exact Reaches.refl state _
          · rw [← htext]
            rfl
      | tail _ hlater =>
          rcases ih hlater with ⟨last, behind, rest, clause, hreach, hrest⟩
          exact ⟨last, behind, rest, clause, Reaches.step hreach, hrest⟩

/-- Where the script begins is all that shifts the numbers. -/
theorem scan_add (n : Nat) (h : byteLength cs <= total) :
    scan (n + total) state cs = (scan total state cs).map (Declaration.shift n) := by
  have hsub : forall m : Nat, m <= total -> n + total - m = n + (total - m) := by
    intro m hm
    omega
  fun_induction scan total state cs with
  | case1 =>
      rw [scan]
      rfl
  | case2 state c cs step _ later hnone ih =>
      have hrest : byteLength step.rest <= byteLength (c :: cs) :=
        byteLength_le_of_suffix ((state.step_suffix c cs).trans (List.suffix_cons c cs))
      rw [scan_cons_of_none hnone]
      exact ih (Nat.le_trans hrest h)
  | case3 state c cs step _ later clause hsome ih =>
      have hrest : byteLength step.rest <= byteLength (c :: cs) :=
        byteLength_le_of_suffix ((state.step_suffix c cs).trans (List.suffix_cons c cs))
      rw [scan_cons_of_some hsome, List.map_cons, ih (Nat.le_trans hrest h),
        hsub _ h, hsub _ (Nat.le_trans hrest h)]
      rfl

/-!
# Declarations of a script
-/

theorem Reaches.exists_before {script : String}
    (h : Reaches .start (skipInterpreter script.toList) last rest) :
    exists before : List Char, script.toList = before ++ rest := by
  rcases h.suffix.trans (skipInterpreter_suffix script.toList) with ⟨before, hbefore⟩
  exact ⟨before, hbefore.symm⟩

theorem exists_reached_of_mem_declarations {script : String}
    (h : declaration ∈ declarations script) :
    exists (before : List Char) (last : State) (behind rest : List Char) (clause : Clause),
      script.toList = before ++ (importWord ++ (behind ++ rest)) ∧
      Reaches .start (skipInterpreter script.toList) last
        (importWord ++ (behind ++ rest)) ∧
      last.depth = 0 ∧ last.last ≠ .punctuation '.' ∧
      EndsWord (behind ++ rest) ∧ clause? (behind ++ rest) = some (clause, rest) ∧
      declaration =
        clause.declaration (byteLength before)
          (byteLength (before ++ (importWord ++ behind))) := by
  rcases exists_reached_of_mem_scan h with
    ⟨last, behind, rest, clause, hreach, hdepth, hlast, hends, hclause, rfl⟩
  rcases hreach.exists_before with ⟨before, hscript⟩
  refine ⟨before, last, behind, rest, clause, hscript, hreach, hdepth, hlast, hends,
    hclause, ?_⟩
  rw [hscript]
  congr 1
  · simp only [byteLength_append]
    omega
  · simp only [byteLength_append]
    omega

theorem Reaches.mem_declarations {script : String} {before behind : List Char}
    {clause : Clause}
    (h : Reaches .start (skipInterpreter script.toList) last (importWord ++ behind))
    (hscript : script.toList = before ++ (importWord ++ behind))
    (hdepth : last.depth = 0) (hlast : last.last ≠ .punctuation '.')
    (hends : EndsWord behind) (hclause : clause? behind = some (clause, rest)) :
    exists declaration : Declaration,
      declaration ∈ declarations script ∧ declaration.start = byteLength before := by
  have hfound := scan_declaration (byteLength script.toList) hdepth hlast hends hclause
  refine ⟨_, (h.scan_suffix _).subset (hfound ▸ List.mem_cons_self), ?_⟩
  rw [hscript, byteLength_append]
  exact Nat.add_sub_cancel _ _

end

end Import
end RemoteImports
