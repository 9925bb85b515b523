import RemoteImports.Proofs.Import.Kept
import RemoteImports.Proofs.Import.Replaced
import RemoteImports.Proofs.Import.Together

/-!
# Parts are opaque

What stands in a comment, in a template, in a regular expression or in a literal
that no declaration can read has no bearing on what is found in a script.  With
another part of the kind in its place, the scan goes on to it as before: before
each place it comes to, the two scripts are the same up to the next declaration
or up to the part.
-/

namespace RemoteImports
namespace Import

open Script
open Text (byteLength byteLength_append)

def Across (mid : State) (front front' : List Char) (state : State)
    (cs cs' : List Char) : Prop :=
  Abreast state state cs cs' ∨ Together mid front front' state cs cs'

/-- From the state, the scan finds the same before the two places that the text
leads to. -/
structure Alongside (mid : State) (front front' : List Char) (state : State)
    (text : List Char) : Prop where
  across : Across mid front front' state (text ++ front) (text ++ front')
  found : forall n : Nat, exists earlier : List Declaration,
    scan (n + byteLength front) state (text ++ front) =
      earlier ++ scan (n + byteLength front) mid front ∧
    scan (n + byteLength front') state (text ++ front') =
      earlier ++ scan (n + byteLength front') mid front' ∧
    forall declaration, declaration ∈ earlier -> declaration.stop <= n

section

variable {mid state : State} {front front' cs cs' text later rest : List Char}
  {c : Char} {clause : Clause}

theorem Across.alike (h : Across mid front front' state cs cs')
    (hmasked : Masked mid front front') : Alike cs cs' :=
  h.elim Abreast.alike fun htogether => htogether.alike hmasked

theorem Across.clause?_eq_none (h : Across mid front front' state cs cs')
    (hmasked : Masked mid front front') (hbehind : state.BehindWord)
    (hclause : clause? cs = none) : clause? cs' = none := by
  rcases hbehind with ⟨hdepth, beforeOperand, hword⟩
  cases h with
  | inl habreast =>
      exact habreast.clause?_eq_none hdepth hdepth hclause
  | inr htogether =>
      exact htogether.clause?_eq_none hmasked (by rw [hword]; rfl) hclause

theorem Across.clause?_append {behind : List Char}
    (h : Across mid front front' state cs cs') (hmasked : Masked mid front front')
    (hdepth : state.depth = 0)
    (hclause : clause? (behind ++ cs) = some (clause, cs)) :
    clause? (behind ++ cs') = some (clause, cs') := by
  cases h with
  | inl habreast =>
      exact habreast.clause?_append hdepth hdepth hclause
  | inr htogether =>
      exact htogether.clause?_append hmasked hclause

theorem Step.eq_of_clause_eq_none {step : Step} (hclause : step.clause = none)
    (hrest : step.rest = rest) : step = { clause := none, state := step.state, rest } := by
  cases step
  cases hclause
  cases hrest
  rfl

/-!
# Going along
-/

theorem Alongside.pass (h : Alongside mid front front' (state.step c cs).state later)
    (hmasked : Masked mid front front') (hcs : cs = text ++ (later ++ front))
    (hclause : (state.step c cs).clause = none)
    (hrest : (state.step c cs).rest = later ++ front) :
    Alongside mid front front' state (c :: (text ++ later)) := by
  subst hcs
  have hsplit : forall tail : List Char,
      c :: (text ++ later) ++ tail = c :: (text ++ (later ++ tail)) := by
    intro tail
    rw [List.cons_append, List.append_assoc]
  have halike := h.across.alike hmasked
  have hstep : (state.step c (text ++ (later ++ front))).Agrees
      (state.step c (text ++ (later ++ front'))) (later ++ front) (later ++ front') :=
    State.Agrees.rfl.step halike hclause hrest (h.across.clause?_eq_none hmasked)
  have hstate := State.step_state_alike halike hclause hstep.clause' hrest
  constructor
  · rw [hsplit, hsplit]
    cases h.across with
    | inl habreast =>
        exact Or.inl (habreast.of_step hstep rfl hstate.symm)
    | inr htogether =>
        have hold := Step.eq_of_clause_eq_none hclause hrest
        have hnew := Step.eq_of_clause_eq_none hstep.clause' hstep.rest'
        rw [← hstate] at hnew
        exact Or.inr (Together.pass hold hnew htogether)
  · intro n
    rw [hsplit, hsplit, scan_cons_of_none hclause, scan_cons_of_none hstep.clause',
      hrest, hstep.rest', ← hstate]
    exact h.found n

/-- A declaration is found at a place that does not depend on what stands behind
the text `later`. -/
theorem scan_declaration_append {behind tail : List Char} (n : Nat)
    (hdepth : state.depth = 0) (hlast : state.last ≠ .punctuation '.')
    (hends : EndsWord (behind ++ (later ++ tail)))
    (hclause : clause? (behind ++ (later ++ tail)) = some (clause, later ++ tail)) :
    scan (n + byteLength tail) state (importWord ++ (behind ++ (later ++ tail))) =
      clause.declaration (n - byteLength (importWord ++ (behind ++ later)))
          (n - byteLength later) ::
        scan (n + byteLength tail) { state with last := .punctuation ';' }
          (later ++ tail) := by
  have hsub : forall text : List Char,
      n + byteLength tail - byteLength (text ++ tail) = n - byteLength text := by
    intro text
    rw [byteLength_append, Nat.add_sub_add_right]
  have hsplit : importWord ++ (behind ++ (later ++ tail)) =
      (importWord ++ (behind ++ later)) ++ tail := by
    simp only [List.append_assoc]
  rw [scan_declaration _ hdepth hlast hends hclause, hsub later, hsplit, hsub]
  rfl

theorem Alongside.declaration {behind : List Char}
    (h : Alongside mid front front' { state with last := .punctuation ';' } later)
    (hmasked : Masked mid front front') (hdepth : state.depth = 0)
    (hlast : state.last ≠ .punctuation '.')
    (hends : EndsWord (behind ++ (later ++ front)))
    (hclause : clause? (behind ++ (later ++ front)) = some (clause, later ++ front)) :
    Alongside mid front front' state (importWord ++ (behind ++ later)) := by
  have hsplit : forall tail : List Char,
      importWord ++ (behind ++ later) ++ tail =
        importWord ++ (behind ++ (later ++ tail)) := by
    intro tail
    simp only [List.append_assoc]
  have hends' := ((h.across.alike hmasked).append behind).endsWord hends
  have hclause' := h.across.clause?_append hmasked hdepth hclause
  constructor
  · rw [hsplit, hsplit]
    exact Or.inl (Abreast.of_barred (Alike.same _ _ _) hdepth hdepth
      (barred_declaration hends hclause) (barred_declaration hends' hclause'))
  · intro n
    rcases h.found n with ⟨earlier, hscan, hscan', hstop⟩
    rw [hsplit, hsplit, scan_declaration_append n hdepth hlast hends hclause, hscan,
      scan_declaration_append n hdepth hlast hends' hclause', hscan']
    refine ⟨_ :: earlier, rfl, rfl, ?_⟩
    intro declaration hmem
    cases hmem with
    | head =>
        exact Nat.sub_le _ _
    | tail _ hlater =>
        exact hstop declaration hlater

theorem Masked.exists_interpreter (h : Masked mid front front') {text later : List Char}
    (hnew : text ++ front' = '#' :: '!' :: later) :
    exists later : List Char, text ++ front = '#' :: '!' :: later := by
  rcases h.head with ⟨c, behind, behind', _, rfl, hc, _⟩
  match text with
  | [] =>
      cases hnew
      exact absurd hc (by decide)
  | [d] =>
      cases hnew
      exact absurd hc (by decide)
  | d :: e :: text =>
      cases hnew
      exact ⟨text ++ front, rfl⟩

theorem Masked.skipInterpreter (h : Masked mid front front') {before text : List Char}
    (hskip : skipInterpreter (before ++ front) = text ++ front) :
    skipInterpreter (before ++ front') = text ++ front' := by
  rcases skipInterpreter_suffix (before ++ front) with ⟨line, hline⟩
  have hbefore : before = line ++ text := by
    apply @List.append_cancel_right _ _ front
    rw [List.append_assoc, ← hskip, hline]
  have halike : Alike (text ++ front) (text ++ front') :=
    (Together.alike Together.here h).append text
  rw [hbefore] at hskip hline ⊢
  rw [List.append_assoc line text front']
  refine skipInterpreter_append ?_ ?_ hline
  · rw [hskip]
    exact halike
  · rw [hskip]
    exact fun _ => h.exists_interpreter

end

/-!
# Declarations of a script
-/

section

variable {script script' : String} {before piece piece' rest : List Char}
  {earlier later : List Declaration} {state : State} {part : Part}

/-- Behind a part, only the number of bytes before it makes a difference. -/
theorem Part.scan (hmet : part.Met state) (htakes : part.Takes rest piece) (n : Nat) :
    Import.scan (n + byteLength (piece ++ rest)) state (piece ++ rest) =
      (Import.scan (byteLength rest) { state with last := part.last state.last } rest).map
        (Declaration.shift (n + byteLength piece)) := by
  rw [(Part.runs hmet htakes).scan, byteLength_append, ← Nat.add_assoc]
  exact scan_add _ (Nat.le_refl _)

end

end Import
end RemoteImports
