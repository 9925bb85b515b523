import RemoteImports.Proofs.Import.Replaced
import RemoteImports.Proofs.Rewrite.Splice

/-!
# The imports of a rewritten script

A rewrite cuts texts into a script by the places that the scan reported.  Going
along the scan, this puts them where the declarations were read, so a rewritten
script has just the declarations that it left as they were.
-/

namespace RemoteImports
namespace Rewrite

open Import Script Text

theorem splice_passed {before passed rest : List Char} {declarations : List Declaration}
    (text? : Declaration -> Option (List Char))
    (h : Located (before ++ passed) rest declarations) :
    splice (byteLength before) (passed ++ rest) (editsOf text? declarations) =
      passed ++
        splice (byteLength (before ++ passed)) rest (editsOf text? declarations) := by
  apply splice_pass
  intro edit hmem
  rcases List.mem_filterMap.mp hmem with ⟨later, hin, hedit⟩
  rcases Option.map_eq_some_iff.mp hedit with ⟨text, _, rfl⟩
  exact h.bounds later hin

theorem splice_declaration {before span rest : List Char} {declaration : Declaration}
    {declarations : List Declaration} (text? : Declaration -> Option (List Char))
    (hstart : declaration.start = byteLength before)
    (hstop : declaration.stop = byteLength (before ++ span))
    (h : Located (before ++ span) rest declarations) :
    splice (byteLength before) (span ++ rest)
        (editsOf text? (declaration :: declarations)) =
      (text? declaration).getD span ++
        splice (byteLength (before ++ span)) rest (editsOf text? declarations) := by
  cases htext : text? declaration with
  | none =>
      rw [editsOf_cons_none htext, splice_passed text? h, Option.getD_none]
  | some text =>
      have hstart' : declaration.start = byteLength (before ++ []) := by
        rw [hstart, List.append_nil]
      have hstop' : declaration.stop = byteLength (before ++ [] ++ span) := by
        rw [hstop, List.append_nil]
      have hedit := splice_edit hstart' hstop' rest text (editsOf text? declarations)
      rw [List.append_nil, List.nil_append, List.nil_append] at hedit
      rw [editsOf_cons_some htext, Option.getD_some, hedit]

theorem scan_replaced (text? : Declaration -> Option (List Char)) (total : Nat)
    (state : State) (cs : List Char) :
    forall before : List Char, byteLength (before ++ cs) = total ->
      Replaced text? state cs
        (splice (byteLength before) cs (editsOf text? (scan total state cs)))
        (scan total state cs) := by
  fun_induction scan total state cs with
  | case1 state =>
      intro before _
      exact Replaced.nil state
  | case2 state c cs step _ later hnone ih =>
      intro before htotal
      rcases state.step_suffix c cs with ⟨passed, hpassed⟩
      have hcs : cs = passed ++ step.rest := hpassed.symm
      have hrest : byteLength (before ++ c :: passed ++ step.rest) = total := by
        rw [← htotal, hcs]
        simp
      have hlocated := scan_located total step.state step.rest (before ++ c :: passed) hrest
      have hlater := ih (before ++ c :: passed) hrest
      have hsplice := splice_passed text? hlocated
      rw [List.cons_append, ← hcs] at hsplice
      rw [hsplice, List.cons_append]
      have hfront : passed ++ (state.step c cs).rest = cs := hpassed
      have hstep := @Replaced.pass text? state c passed step.rest _ _
        (by rw [hfront]; exact hnone) (by rw [hfront]) (by rw [hfront]; exact hlater)
      rw [hfront] at hstep
      exact hstep
  | case3 state c cs step _ later clause hsome ih =>
      intro before htotal
      have hfound : state.depth = 0 ∧ state.last ≠ .punctuation '.' ∧
          step.state = { state with last := .punctuation ';' } ∧
          exists behind : List Char,
            c :: cs = importWord ++ (behind ++ step.rest) ∧
            EndsWord (behind ++ step.rest) ∧
            clause? (behind ++ step.rest) = some (clause, step.rest) :=
        state.step_declaration hsome
      rcases hfound with ⟨hdepth, hlast, hstate, behind, hcs, hends, hclause⟩
      rw [hcs] at htotal ⊢
      generalize hdeclaration : ({
        specifiers := clause.specifiers
        source := clause.source
        start := total - byteLength (importWord ++ (behind ++ step.rest))
        stop := total - byteLength step.rest } : Declaration) = declaration
      have hspan : before ++ (importWord ++ behind) ++ step.rest =
          before ++ (importWord ++ (behind ++ step.rest)) := by
        simp only [List.append_assoc]
      have hrest : byteLength (before ++ (importWord ++ behind) ++ step.rest) = total := by
        rw [hspan, htotal]
      have hstart : declaration.start = byteLength before := by
        rw [← hdeclaration, ← htotal]
        simp only [byteLength_append]
        omega
      have hstop : declaration.stop = byteLength (before ++ (importWord ++ behind)) := by
        rw [← hdeclaration, ← hrest]
        simp only [byteLength_append]
        omega
      have hspecifiers : declaration.specifiers = clause.specifiers := by
        rw [← hdeclaration]
      have hsource : declaration.source = clause.source := by
        rw [← hdeclaration]
      have hlocated := scan_located total step.state step.rest
        (before ++ (importWord ++ behind)) hrest
      have hsplice := splice_declaration text? hstart hstop hlocated
      rw [List.append_assoc] at hsplice
      rw [hsplice]
      apply Replaced.declaration hdepth hlast hends hclause hspecifiers hsource
      rw [← hstate]
      exact ih (before ++ (importWord ++ behind)) hrest

/-- What a script with other texts in place of declarations has left of them. -/
theorem content_declarations_splice (text? : Declaration -> Option (List Char))
    (code : String)
    (hpassed : forall declaration, declaration ∈ declarations code ->
      forall text, text? declaration = some text -> Passed text) :
    (declarations (String.ofList
        (splice 0 code.toList (editsOf text? (declarations code))))).map
          Declaration.content =
      ((declarations code).filter fun declaration =>
        (text? declaration).isNone).map Declaration.content := by
  rcases skipInterpreter_suffix code.toList with ⟨line, hline⟩
  have htotal : byteLength (line ++ skipInterpreter code.toList) =
      byteLength code.toList := by
    rw [hline]
  have hlocated := scan_located _ State.start _ line htotal
  have hreplaced := scan_replaced text? _ State.start _ line htotal
  rcases hreplaced.abreast hpassed State.Agrees.rfl with ⟨habreast, hscan⟩
  have hsplice := @splice_passed [] line _ _ text? hlocated
  rw [hline, byteLength_nil, List.nil_append] at hsplice
  have hskip := habreast.skipInterpreter_append hline
  rw [declarations, String.toList_ofList]
  change (scan _ _ (skipInterpreter
    (splice 0 code.toList (editsOf text? (scan _ State.start _))))).map _ = _
  rw [hsplice, hskip]
  exact hscan _

end Rewrite
end RemoteImports
