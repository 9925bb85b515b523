import RemoteImports.Proofs.Import.Barrier
import RemoteImports.Proofs.Script.Locality

/-!
# Two texts up to a barrier

Two texts are abreast if they are the same up to a barrier that the scan runs
to in both.  A declaration that is read in one of them ends before the barrier,
so it is read in the other as well.
-/

namespace RemoteImports
namespace Import

open Script

/-- From these states the scan runs over the same text to barriers that begin
alike. -/
inductive Abreast (state state' : State) : List Char -> List Char -> Prop where
  | intro {text rest rest' : List Char} {last last' : State} :
      Alike rest rest' ->
      Runs state (text ++ rest) last rest -> Final last rest ->
      Runs state' (text ++ rest') last' rest' -> Final last' rest' ->
      Abreast state state' (text ++ rest) (text ++ rest')

section

variable {state state' : State} {cs cs' tail rest : List Char} {behindWord : Bool}
  {tokens : List Token} {depth depth' : Nat}

theorem Abreast.symm (h : Abreast state state' cs cs') :
    Abreast state' state cs' cs := by
  cases h with
  | intro halike hrun hfinal hrun' hfinal' =>
      exact Abreast.intro halike.symm hrun' hfinal' hrun hfinal

theorem Abreast.alike (h : Abreast state state' cs cs') : Alike cs cs' := by
  cases h with
  | intro halike _ _ _ _ =>
      exact halike.append _

theorem Abreast.past_trivia {gap : List Char} (hgap : Trivia gap)
    (h : Abreast state state' (gap ++ cs) cs') :
    exists later : List Char, cs' = gap ++ later ∧ Abreast state state' cs later := by
  generalize hcs : gap ++ cs = front at h
  cases h with
  | @intro text rest rest' last last' halike hrun hfinal hrun' hfinal' =>
      rw [← hcs] at hrun
      have hbehind := hrun.past_trivia hgap hfinal
      rcases exists_append_of_suffix hcs hbehind.suffix with ⟨later, rfl, rfl⟩
      rw [List.append_assoc] at hrun' ⊢
      have hbehind' := hrun'.past_trivia hgap hfinal'
      exact ⟨later ++ rest', rfl, Abreast.intro halike hbehind hfinal hbehind' hfinal'⟩

theorem Abreast.behind (h : Abreast state state' cs cs') (hdepth : state.depth = depth)
    (hdepth' : state'.depth = depth) (hguarded : Guarded depth tokens depth')
    (hspaced : Spaced Literal behindWord tokens cs tail) :
    exists (part tail' : List Char) (next next' : State),
      cs = part ++ tail ∧ cs' = part ++ tail' ∧
      (forall tail : List Char, Spaced Literal behindWord tokens (part ++ tail) tail) ∧
      next.depth = depth' ∧ next'.depth = depth' ∧
      Abreast next next' tail tail' := by
  cases h with
  | @intro text rest rest' last last' halike hrun hfinal hrun' hfinal' =>
      rcases hspaced.exists_append with ⟨part, hpart, hany⟩
      rcases hspaced.runs hguarded hdepth hrun hfinal with ⟨next, hnext, hbeyond⟩
      rcases exists_append_of_suffix hpart.symm hbeyond.suffix with ⟨later, rfl, rfl⟩
      rw [List.append_assoc] at hrun'
      rcases (hany (later ++ rest')).runs hguarded hdepth' hrun' hfinal' with
        ⟨next', hnext', hbeyond'⟩
      refine ⟨part, later ++ rest', next, next', hpart, by simp, hany, hnext, hnext',
        ?_⟩
      exact Abreast.intro halike hbeyond hfinal hbeyond' hfinal'

/-!
# Behind the module
-/

theorem Abreast.dropWhile_isSpace (h : Abreast state state' cs cs') :
    exists space : List Char,
      cs = space ++ cs.dropWhile isSpace ∧ cs' = space ++ cs'.dropWhile isSpace ∧
        Abreast state state' (cs.dropWhile isSpace) (cs'.dropWhile isSpace) := by
  have hspace := List.all_eq_true.mp (List.all_takeWhile (p := isSpace) (l := cs))
  have hsplit : cs.takeWhile isSpace ++ cs.dropWhile isSpace = cs :=
    List.takeWhile_append_dropWhile
  rw [← hsplit] at h
  have htrivia := Trivia.of_blanks fun c hc => isBlank_of_isSpace (hspace c hc)
  rcases h.past_trivia htrivia with ⟨later, rfl, hlater⟩
  have hhead : later.head?.any isSpace = false := by
    have hnot := List.head?_dropWhile_not isSpace cs
    cases hc : later.head? with
    | none =>
        rfl
    | some c =>
        rw [Option.any_some, Bool.eq_false_iff]
        intro hspace
        have hletter : c.isAlpha = false := by
          rw [isSpace, Bool.or_eq_true, beq_iff_eq, beq_iff_eq] at hspace
          rcases hspace with rfl | rfl <;> rfl
        rw [hlater.alike.symm.head?_eq_some hletter hc] at hnot
        simp [hspace] at hnot
  rw [dropWhile_isSpace_append hspace hhead]
  exact ⟨_, hsplit.symm, rfl, hlater⟩

theorem Abreast.hasAttributes (h : Abreast state state' cs cs')
    (hdepth : state.depth = 0) (hdepth' : state'.depth = 0)
    (hattributes : hasAttributes cs = true) : hasAttributes cs' = true := by
  rcases hasAttributes_iff.mp hattributes with ⟨word, tail, hword, hbegins⟩
  have hguarded : Guarded 0 [.word word, .mark '{'] 1 := by
    refine Guarded.word (List.cons_ne_nil _ _) ?_ (Guarded.opening (Guarded.nil 1))
    intro _
    left
    rcases hword with rfl | rfl <;> decide
  rcases hbegins.exists_append with ⟨front, hfront, hany⟩
  rcases h.behind hdepth hdepth' hguarded hbegins.spaced with
    ⟨part, tail', _, _, hpart, hpart', _⟩
  have hsame : front = part := List.append_cancel_right (hfront.symm.trans hpart)
  rw [hpart', ← hsame]
  exact hasAttributes_iff.mpr ⟨word, tail', hword, hany tail'⟩

theorem Abreast.finish?_eq_none (h : Abreast state state' cs cs')
    (hdepth : state.depth = 0) (hdepth' : state'.depth = 0)
    (hfinish : finish? cs = none) : finish? cs' = none := by
  rw [finish?_eq_none_iff] at hfinish ⊢
  rcases h.dropWhile_isSpace with ⟨_, _, _, hbehind⟩
  exact hbehind.hasAttributes hdepth hdepth' hfinish

/-- Where no declaration is read in one text, none is read in the other. -/
theorem Abreast.clause?_eq_none (h : Abreast state state' cs cs')
    (hdepth : state.depth = 0) (hdepth' : state'.depth = 0)
    (hclause : clause? cs = none) : clause? cs' = none := by
  rw [clause?_eq_none_iff_forall] at hclause ⊢
  intro form tail' hspaced
  rcases h.symm.behind hdepth' hdepth form.guarded hspaced with
    ⟨part, tail, next', next, _, hcs, hany, hnext', hnext, hbehind⟩
  have hold := hany tail
  rw [← hcs] at hold
  exact hbehind.symm.finish?_eq_none hnext hnext' (hclause form tail hold)

theorem Abreast.finish?_append {between : List Char} (h : Abreast state state' cs cs')
    (hdepth : state.depth = 0) (hdepth' : state'.depth = 0)
    (hfinish : finish? (between ++ cs) = some cs) :
    finish? (between ++ cs') = some cs' := by
  rcases h.dropWhile_isSpace with ⟨_, _, _, hbehind⟩
  exact Import.finish?_append (hbehind.symm.hasAttributes hdepth' hdepth)
    (hbehind.alike.symm.head?_eq_some (by decide)) hfinish

theorem Abreast.clause?_append {clause : Clause} {behind : List Char}
    (h : Abreast state state' cs cs')
    (hdepth : state.depth = 0) (hdepth' : state'.depth = 0)
    (hclause : clause? (behind ++ cs) = some (clause, cs)) :
    clause? (behind ++ cs') = some (clause, cs') :=
  Import.clause?_append (fun _ => h.finish?_append hdepth hdepth') hclause

end

end Import
end RemoteImports
