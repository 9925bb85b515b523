import RemoteImports.Import.Scan

/-!
# Where declarations stand

The scan reports a declaration by its bytes in the script.  This module says
what stands at these bytes: the declarations cut the script into gaps and
spans, each span is the word `import` and a clause that was read behind
it, and places are the byte lengths of the text before them.
-/

namespace RemoteImports
namespace Import

open Script Text

def importWord : List Char := ['i', 'm', 'p', 'o', 'r', 't']

/-- In the text `before ++ rest`, the declarations stand one behind the other
in `rest`. -/
inductive Located : List Char -> List Char -> List Declaration -> Prop where
  | nil (before rest : List Char) : Located before rest []
  | cons {before gap behind rest : List Char} {clause : Clause}
      {declaration : Declaration} {declarations : List Declaration} :
      clause? (behind ++ rest) = some (clause, rest) ->
      declaration =
        { specifiers := clause.specifiers
          source := clause.source
          start := byteLength (before ++ gap)
          stop := byteLength (before ++ gap ++ (importWord ++ behind)) } ->
      Located (before ++ gap ++ (importWord ++ behind)) rest declarations ->
      Located before (gap ++ (importWord ++ behind) ++ rest)
        (declaration :: declarations)

/-- Text without a declaration joins the gap before the next one. -/
theorem Located.prepend {before rest : List Char}
    {declarations : List Declaration} (passed : List Char)
    (h : Located (before ++ passed) rest declarations) :
    Located before (passed ++ rest) declarations := by
  cases h with
  | nil =>
      exact Located.nil before (passed ++ rest)
  | cons hclause hdeclaration hlater =>
      rename_i gap behind rest clause declaration declarations
      have hsplit :
          passed ++ (gap ++ (importWord ++ behind) ++ rest) =
            (passed ++ gap) ++ (importWord ++ behind) ++ rest := by
        simp only [List.append_assoc]
      rw [hsplit]
      rw [List.append_assoc before passed gap] at hdeclaration hlater
      exact Located.cons hclause hdeclaration hlater

/-!
# One step of the scan

A step yields a declaration only at the word `import`, and the clause it
yields is the one read behind that word.
-/

theorem State.stepWord_clause {state : State} {word rest : List Char}
    {clause : Clause} (h : (state.stepWord word rest).clause = some clause) :
    word = importWord ∧
      clause? rest = some (clause, (state.stepWord word rest).rest) := by
  simp only [stepWord] at h ⊢
  split at h
  · rename_i hword
    rw [if_pos hword]
    cases hclause : clause? rest with
    | none =>
        rw [hclause] at h
        simp [pass] at h
    | some found =>
        rw [hclause] at h
        have hfound : found.1 = clause := by simpa using h
        exact ⟨hword.left, by simp [← hfound]⟩
  · simp [pass] at h

theorem State.stepToken_eq_stepWord {state : State} {c : Char} {cs : List Char}
    {clause : Clause} (h : (state.stepToken c cs).clause = some clause) :
    state.stepToken c cs =
      state.stepWord (c :: cs.takeWhile isWordPart) (cs.dropWhile isWordPart) := by
  revert h
  unfold stepToken
  repeat' split
  all_goals simp [pass]

theorem State.step_eq_stepToken {state : State} {c : Char} {cs : List Char}
    {clause : Clause} (h : (state.step c cs).clause = some clause) :
    state.step c cs = state.stepToken c cs := by
  revert h
  unfold step
  repeat' split
  all_goals simp [pass]

theorem State.step_clause {state : State} {c : Char} {cs : List Char}
    {clause : Clause} (h : (state.step c cs).clause = some clause) :
    exists behind : List Char,
      c :: cs = importWord ++ behind ++ (state.step c cs).rest ∧
      clause? (behind ++ (state.step c cs).rest) =
        some (clause, (state.step c cs).rest) := by
  have hstep := step_eq_stepToken h
  rw [hstep] at h ⊢
  have htoken := stepToken_eq_stepWord h
  rw [htoken] at h ⊢
  have hsuffix := stepWord_suffix state (c :: cs.takeWhile isWordPart)
    (cs.dropWhile isWordPart)
  rcases stepWord_clause h with ⟨hword, hclause⟩
  rcases hsuffix with ⟨behind, hbehind⟩
  exists behind
  constructor
  · rw [List.append_assoc, hbehind, ← hword]
    simp
  · rw [hbehind]
    exact hclause

/-!
# The whole scan

The scan carries nothing but its state from one step to the next, so its
declarations are located whatever state it is started in.  The induction is on
the scan itself; what lies before its text grows with each step.
-/

theorem scan_located (total : Nat) (state : State) (cs : List Char) :
    forall before : List Char, byteLength (before ++ cs) = total ->
      Located before cs (scan total state cs) := by
  fun_induction scan total state cs with
  | case1 state =>
      intro before htotal
      exact Located.nil before []
  | case2 state c cs step _ later hnone ih =>
      intro before htotal
      rcases (state.step_suffix c cs).trans (List.suffix_cons c cs) with
        ⟨passed, hpassed⟩
      rw [← hpassed] at htotal ⊢
      apply Located.prepend passed
      apply ih
      rw [List.append_assoc]
      exact htotal
  | case3 state c cs step _ later clause hsome ih =>
      intro before htotal
      have hread : exists behind : List Char,
          c :: cs = importWord ++ behind ++ step.rest ∧
          clause? (behind ++ step.rest) = some (clause, step.rest) :=
        state.step_clause hsome
      rcases hread with ⟨behind, htext, hclause⟩
      rw [htext] at htotal ⊢
      have hstart : total - byteLength (importWord ++ behind ++ step.rest) =
          byteLength (before ++ []) := by
        rw [← htotal]
        simp only [byteLength_append, List.append_nil]
        omega
      have hstop : total - byteLength step.rest =
          byteLength (before ++ [] ++ (importWord ++ behind)) := by
        rw [← htotal]
        simp only [byteLength_append, List.append_nil]
        omega
      rw [hstart, hstop]
      refine @Located.cons before [] behind step.rest clause _ later hclause rfl ?_
      apply ih
      rw [← htotal]
      simp [List.append_assoc]

theorem skipInterpreter_suffix (cs : List Char) : skipInterpreter cs <:+ cs := by
  unfold skipInterpreter
  split
  · exact skipLine_suffix _
  · exact List.suffix_rfl

theorem skipInterpreter_eq_self {cs : List Char}
    (h : forall later : List Char, cs ≠ '#' :: '!' :: later) :
    skipInterpreter cs = cs := by
  unfold skipInterpreter
  split
  · exact absurd rfl (h _)
  · rfl

theorem declarations_located (script : String) :
    Located [] script.toList (declarations script) := by
  rcases skipInterpreter_suffix script.toList with ⟨line, hline⟩
  have hscan : Located ([] ++ line) (skipInterpreter script.toList)
      (declarations script) := by
    apply scan_located
    rw [List.nil_append, hline]
  have hlocated := Located.prepend line hscan
  rw [hline] at hlocated
  exact hlocated

theorem Located.bounds {before rest : List Char} {declarations : List Declaration}
    (h : Located before rest declarations) :
    forall declaration, declaration ∈ declarations ->
      byteLength before <= declaration.start ∧
        declaration.start <= declaration.stop := by
  induction h with
  | nil =>
      intro declaration hmem
      cases hmem
  | cons _ hdeclaration _ ih =>
      intro declaration hmem
      cases hmem with
      | head =>
          rw [hdeclaration]
          simp only [byteLength_append]
          omega
      | tail _ hlater =>
          have hbounds := ih declaration hlater
          simp only [byteLength_append] at hbounds
          omega

/-!
# What is known of each declaration

A declaration of a script repeats a clause that was read, so whatever holds of
all clauses holds of all declarations.
-/

theorem Located.exists_clause {before rest : List Char}
    {declarations : List Declaration} {declaration : Declaration}
    (h : Located before rest declarations) (hmem : declaration ∈ declarations) :
    exists (clause : Clause) (cs left : List Char),
      clause? cs = some (clause, left) ∧
      declaration.specifiers = clause.specifiers ∧
      declaration.source = clause.source := by
  induction h with
  | nil =>
      cases hmem
  | cons hclause hdeclaration _ ih =>
      cases hmem with
      | head =>
          exact ⟨_, _, _, hclause, by rw [hdeclaration], by rw [hdeclaration]⟩
      | tail _ hlater =>
          exact ih hlater

end Import
end RemoteImports
