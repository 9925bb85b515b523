import RemoteImports.Proofs.Import.Accepted
import RemoteImports.Proofs.Import.Printed
import RemoteImports.Proofs.Rewrite.Rescan
import RemoteImports.Proofs.Rewrite.Slices
import RemoteImports.Proofs.Rewrite.Transform
import RemoteImports.Proofs.Rewrite.WellNamed

/-!
# Rewriting twice

The declarations of a rewritten script are those that were skipped, and they are
skipped again.  So a second rewrite changes nothing, whatever is installed.
-/

namespace RemoteImports
namespace Rewrite

open Config Import Package Script Text

/-!
# Replacements are passed over
-/

theorem blankLayout_indentAt (code : List Char) (place : Nat) :
    BlankLayout { base := indentAt code place } := by
  constructor
  · intro c hc
    simp only [List.mem_cons, List.not_mem_nil, or_false] at hc
    rcases hc with rfl | rfl <;> rfl
  · intro c hc
    simp only [indentAt] at hc
    split at hc
    · rename_i hall
      have hblank := List.all_eq_true.mp hall c hc
      rw [Bool.or_eq_true, beq_iff_eq, beq_iff_eq] at hblank
      rcases hblank with rfl | rfl <;> rfl
    · cases hc

theorem Plan.passed {options : Options} (hloader : WellNamedLoader (loader options))
    (plan : Plan) (code : List Char) {script : String} {declaration : Declaration}
    (hmem : declaration ∈ declarations script) :
    Passed (plan.text options code declaration) := by
  have hnamed : BlockWellNamed (plan.statements options declaration) :=
    wellNamed_statements hloader (wordLocals_of_mem_declarations hmem) _ _
  rcases statements_eq_declare (loader options) declaration.bindings
    plan.target.name plan.addresses with ⟨keyword, declarators, later, hstatements⟩
  rw [Plan.statements, hstatements] at hnamed
  have hlayout := blankLayout_indentAt code declaration.start
  rw [Plan.text, Plan.statements, hstatements]
  constructor
  · rw [writeStmts, writeStmt_declare]
    cases keyword with
    | letKeyword =>
        exact ⟨'l', _, rfl, rfl⟩
    | constKeyword =>
        exact ⟨'c', _, rfl, rfl⟩
  · intro rest
    rw [writeStmts, List.append_assoc]
    exact barred_declare _ 0 keyword hnamed.left _
  · intro state rest _
    rcases Ends.stmts hlayout _ _ hnamed rest state with ⟨c, hc, hrun⟩
    refine ⟨.punctuation c, ?_, ?_, hrun⟩
    · simp only [List.mem_cons, List.not_mem_nil, or_false] at hc
      rcases hc with rfl | rfl <;> rfl
    · simp only [List.mem_cons, List.not_mem_nil, or_false] at hc
      rcases hc with rfl | rfl <;> decide

/-!
# What is skipped
-/

/-- The declarations about which it was reported that they are skipped. -/
def skipped (declarations : List Declaration) (outcomes : List Outcome) :
    List Declaration :=
  ((declarations.zip outcomes).filter fun reported => !reported.2.isRewritten).map Prod.fst

section

variable {options : Options} {installed : VersionMap} {resolver next : Resolver}
  {code : String} {output : Output}

theorem textOf_isNone (options : Options) (installed : VersionMap) (code : List Char)
    (declaration : Declaration) :
    (textOf options installed code declaration).isNone =
      !(outcome declaration
        (planned options installed declaration.source)).isRewritten := by
  rw [textOf]
  cases planned options installed declaration.source with
  | none =>
      rfl
  | some plan =>
      rfl

theorem skipped_map (report : Declaration -> Outcome) (declarations : List Declaration) :
    skipped declarations (declarations.map report) =
      declarations.filter fun declaration => !(report declaration).isRewritten := by
  induction declarations with
  | nil =>
      rfl
  | cons declaration later ih =>
      unfold skipped at ih ⊢
      rw [List.map_cons, List.zip_cons_cons]
      cases hreport : (report declaration).isRewritten with
      | true =>
          rw [List.filter_cons_of_neg (by simp [hreport]),
            List.filter_cons_of_neg (by simp [hreport]), ih]
      | false =>
          rw [List.filter_cons_of_pos (by simp [hreport]), List.map_cons, ih,
            List.filter_cons_of_pos (by simp [hreport])]

theorem skipped_plansOf (options : Options) (installed : VersionMap) (code : List Char)
    (declarations : List Declaration) :
    skipped declarations
        (apply options code (plansOf options installed declarations)).outcomes =
      declarations.filter fun declaration =>
        (textOf options installed code declaration).isNone := by
  simp only [apply, plansOf, List.map_map, Function.comp_def, skipped_map, textOf_isNone]

theorem exists_output_eq
    (h : (transform options code).run.run resolver = (.ok output, next)) :
    exists installed : VersionMap,
      output = apply options code.toList
        (plansOf options installed (declarations code)) := by
  have hrequest := run_map_of_ok h Answer.transform
  change ((Request.transform code).run options).run.run resolver = _ at hrequest
  by_cases hneeds : (Request.transform code).Needs options
  · rcases hversions : Package.versions.run.run resolver with ⟨answer, last⟩
    cases answer with
    | error failure =>
        rw [Request.run_of_error hneeds hversions] at hrequest
        cases hrequest
    | ok installed =>
        rw [Request.run_of_ok hneeds hversions] at hrequest
        cases hrequest
        exact ⟨installed, rfl⟩
  · rw [Request.run_of_not_needs hneeds .empty] at hrequest
    cases hrequest
    exact ⟨.empty, rfl⟩

theorem content_keptDeclarations (code : String) :
    (keptDeclarations code).map Declaration.content =
      (declarations code).map Declaration.content := by
  rw [keptDeclarations, List.map_map]
  rfl

/-- The source of each declaration is what matters, so those found may be taken
for those handed out. -/
theorem forall_not_eligible_iff :
    (forall declaration, declaration ∈ keptDeclarations code ->
      ¬ Eligible options declaration.source) <->
    forall declaration, declaration ∈ declarations code ->
      ¬ Eligible options declaration.source := by
  rw [keptDeclarations, List.forall_mem_map]
  rfl

/-- A script as it is, with every import reported as skipped. -/
def untouched (code : String) : Output :=
  { code, outcomes := (keptDeclarations code).map fun declaration =>
      .skipped declaration.source }

theorem outcomes_untouched (code : String) :
    (untouched code).outcomes =
      (declarations code).map fun declaration => .skipped declaration.source := by
  rw [untouched, keptDeclarations, List.map_map]
  rfl

theorem transform_run_of_not_eligible
    (h : forall declaration, declaration ∈ declarations code ->
      ¬ Eligible options declaration.source) (resolver : Resolver) :
    (transform options code).run.run resolver = (.ok (untouched code), resolver) := by
  have hplans := plans_run_of_not_eligible h .empty resolver
  have houtput : apply options code.toList (plansOf options .empty (declarations code)) =
      untouched code := by
    have hcode := apply_code options .empty code.toList (declarations code)
    rw [splice_eq_of_not_eligible h, String.toList_inj] at hcode
    have houtcomes : (apply options code.toList
        (plansOf options .empty (declarations code))).outcomes =
          (untouched code).outcomes := by
      rw [outcomes_untouched]
      simp only [apply, plansOf, List.map_map, Function.comp_def]
      apply List.map_congr_left
      intro declaration hmem
      rw [planned, if_neg (h declaration hmem)]
      rfl
    exact congrArg₂ Output.mk hcode houtcomes
  rw [← houtput]
  exact run_bind_of_ok hplans _

theorem transformSliced_run_of_not_eligible
    (h : forall declaration, declaration ∈ keptDeclarations code ->
      ¬ Eligible options declaration.source) (resolver : Resolver) :
    (transformSliced options code).run.run.run resolver =
      (.ok (some (untouched code)), resolver) := by
  have hfound : (OptionT.mk (pure (declarationsAt code.toList)) :
      Slicing (List Declaration)) = pure (keptDeclarations code) := by
    rw [declarationsAt_eq]
    rfl
  have hrun := @rewriteFrom_run_of_not_eligible options code.toList _ [] code.toList h rfl
    resolver
  rw [byteLength_nil] at hrun
  rw [transformSliced, hfound, pure_bind, OptionT.run_bind, Option.elimM,
    run_bind_of_ok hrun, untouched, ← String.ofList_toList (s := code)]
  simp only [String.toList_ofList]
  rfl

/-- The declarations of a rewritten script are those that were skipped. -/
theorem content_declarations_output (hloader : WellNamedLoader (loader options))
    (h : (transform options code).run.run resolver = (.ok output, next)) :
    (declarations output.code).map Declaration.content =
      (skipped (declarations code) output.outcomes).map Declaration.content := by
  rcases exists_output_eq h with ⟨installed, rfl⟩
  have hpassed : forall declaration, declaration ∈ declarations code ->
      forall text, textOf options installed code.toList declaration = some text ->
        Passed text := by
    intro declaration hmem text htext
    rcases Option.map_eq_some_iff.mp htext with ⟨plan, _, rfl⟩
    exact plan.passed hloader code.toList hmem
  have hcode := apply_code options installed code.toList (declarations code)
  rw [skipped_plansOf, ← content_declarations_splice _ code hpassed, ← hcode,
    String.ofList_toList]

theorem not_eligible_of_mem_skipped
    (h : (transform options code).run.run resolver = (.ok output, next))
    {declaration : Declaration}
    (hmem : declaration ∈ skipped (declarations code) output.outcomes) :
    ¬ Eligible options declaration.source := by
  rcases exists_output_eq h with ⟨installed, rfl⟩
  rw [skipped_plansOf] at hmem
  have hnone := (List.mem_filter.mp hmem).right
  intro heligible
  rw [textOf, planned, if_pos heligible] at hnone
  cases hnone

/-- A loader object may have any word as its name, so in particular any name of
ASCII letters, digits, `_` and `$` that does not begin with a digit.  The
rewritten script may be of any length. -/
theorem transform_idempotent (hshort : byteLength code.toList < placeLimit)
    (hshim : forall shim : String, options.shim = some shim -> IsWord shim.toList)
    (h : (transform options code).run.run resolver = (.ok output, next)) :
    (keptDeclarations output.code).map Declaration.content =
        (skipped (keptDeclarations code) output.outcomes).map Declaration.content ∧
      forall resolver : Resolver,
        (transform options output.code).run.run resolver =
            (.ok (untouched output.code), resolver) ∧
          (transformSliced options output.code).run.run.run resolver =
            (.ok (some (untouched output.code)), resolver) := by
  have hcontent := content_declarations_output hshim h
  have hagain : forall declaration, declaration ∈ declarations output.code ->
      ¬ Eligible options declaration.source := by
    intro declaration hmem
    have hin : declaration.content ∈
        (skipped (declarations code) output.outcomes).map Declaration.content := by
      rw [← hcontent]
      exact List.mem_map_of_mem hmem
    rcases List.mem_map.mp hin with ⟨old, hold, hsame⟩
    have hsource : old.source = declaration.source := congrArg Prod.snd hsame
    rw [← hsource]
    exact not_eligible_of_mem_skipped h hold
  rw [content_keptDeclarations, keptDeclarations_eq hshort]
  exact ⟨hcontent, fun resolver => ⟨transform_run_of_not_eligible hagain resolver,
    transformSliced_run_of_not_eligible (forall_not_eligible_iff.mpr hagain) resolver⟩⟩

/-- Here the loader object and the local name are both the word `import`. -/
theorem transform_idempotent_shim :
    let options : Options :=
      { host := "https://c", fallback := some "https://d", shim := some "import"
        rules := [{ pattern := .char 'a', suffix := none }] }
    let resolver : Resolver := { lister := .pinned (.ofList [("a", "1")]) }
    let code := "import 'b'; import import from 'a'"
    byteLength code.toList < placeLimit ∧
    (forall shim : String, options.shim = some shim -> IsWord shim.toList) ∧
    exists (output : Output) (next : Resolver),
      (transform options code).run.run resolver = (.ok output, next) ∧
      (keptDeclarations output.code).map Declaration.content = [([], "b")] ∧
      forall resolver : Resolver,
        (transform options output.code).run.run resolver =
            (.ok (untouched output.code), resolver) ∧
          (transformSliced options output.code).run.run.run resolver =
            (.ok (some (untouched output.code)), resolver) := by
  intro options resolver code
  have hanswers : resolver.Answers (.ofList [("a", "1")]) := .of_pinned _
  have hshort : byteLength code.toList < placeLimit := by
    decide
  have hshim : forall shim : String, options.shim = some shim -> IsWord shim.toList := by
    rintro shim ⟨⟩
    decide
  have hrun : (transform options code).run.run resolver =
      (.ok (apply options code.toList
        (plansOf options (.ofList [("a", "1")]) (declarations code))),
        ((transform options code).run.run resolver).2) :=
    Prod.ext (transform_run code hanswers) rfl
  have hagain := transform_idempotent hshort hshim hrun
  refine ⟨hshort, hshim, _, _, hrun, ?_, hagain.right⟩
  rw [hagain.left]
  decide +kernel

/-!
# Places that are told wrong

In a script that 32 bits cannot count, what is cut out may be something else
than the declaration.
-/

/-- A declaration that is told to be at the front of a script is cut out there. -/
theorem transformSliced_run_front {front rest : List Char} {declaration : Declaration}
    {made : Plan} (hcode : code.toList = front ++ rest)
    (hfound : keptDeclarations code = [declaration]) (hstart : declaration.start = 0)
    (hstop : declaration.stop = byteLength front)
    (hplan : (plan options declaration.source).run.run resolver = (.ok (some made), next)) :
    (transformSliced options code).run.run.run resolver =
      (.ok (some {
        code := String.ofList (made.text options code.toList declaration ++ rest)
        outcomes := [outcome declaration (some made)] }), next) := by
  have hat : (OptionT.mk (pure (declarationsAt code.toList)) :
      Slicing (List Declaration)) = pure [declaration] := by
    rw [declarationsAt_eq, hfound]
    rfl
  have hindent : indentSliced code.toList declaration.start =
      pure (indentAt code.toList declaration.start) := by
    rw [hstart]
    exact @indentSliced_eq code.toList [] code.toList rfl
  have hbefore : sliced code.toList 0 declaration.start = pure [] := by
    rw [hstart]
    exact @sliced_eq code.toList [] [] code.toList rfl
  have hrest : sliced code.toList declaration.stop (byteLength code.toList) = pure rest := by
    rw [hstop, hcode]
    exact sliced_eq (List.append_nil (front ++ rest) ▸ List.append_assoc front rest [])
  rw [transformSliced, hat, pure_bind, OptionT.run_bind, Option.elimM, rewriteFrom,
    run_lift_bind, bind_assoc, run_bind_of_ok hplan]
  dsimp only
  rw [hindent, pure_bind, hbefore, pure_bind, rewriteFrom, hrest]
  rfl

theorem keptDeclarations_ne_nil {text gap span : List Char} {form : Form}
    (htext : Passed text) (hgap : Trivia gap) (hspan : form.Written Literal span) :
    keptDeclarations (String.ofList (text ++ (gap ++ span))) ≠ [] := by
  rcases htext.letter with ⟨c, later, hhead, hletter⟩
  have hself : skipInterpreter (text ++ (gap ++ span)) = text ++ (gap ++ span) := by
    apply skipInterpreter_eq_self
    intro line hline
    have hfirst := congrArg List.head? hline
    rw [hhead] at hfirst
    cases hfirst
    cases hletter
  rcases hspan.clause? [] with ⟨behind, rfl, hends, hclause⟩
  rw [List.append_nil] at hends hclause
  rcases htext.runs .start (gap ++ (importWord ++ behind)) rfl with ⟨last, _, hlast, hrun⟩
  rw [keptDeclarations, declarations, String.toList_ofList, hself,
    (hrun.trans (Runs.of_trivia hgap _ _)).scan, scan_declaration _ rfl hlast hends hclause]
  exact List.cons_ne_nil _ _

/-- Eleven of the blanks in front of an import are replaced, and the import is
left to be rewritten once more. -/
theorem not_forall_transformSliced_idempotent :
    ¬ forall (options : Options) (resolver next : Resolver) (code : String)
        (output : Output),
      (forall shim : String, options.shim = some shim -> IsWord shim.toList) ->
      (transformSliced options code).run.run.run resolver = (.ok (some output), next) ->
      (keptDeclarations output.code).map Declaration.content =
          (skipped (keptDeclarations code) output.outcomes).map Declaration.content ∧
        forall resolver : Resolver,
          (transformSliced options output.code).run.run.run resolver =
            (.ok (some (untouched output.code)), resolver) := by
  intro h
  let options : Options :=
    { host := "https://c", rules := [{ pattern := .char 'b', suffix := none }] }
  let resolver : Resolver := { lister := .pinned (.ofList [("b", "1")]) }
  have hloader : WellNamedLoader (loader options) := nofun
  have hanswers : resolver.Answers (.ofList [("b", "1")]) := .of_pinned _
  have heligible : Eligible options "b" := by
    decide +kernel
  rcases plan_run options "b" hanswers with ⟨next, hplan, _⟩
  rw [planned, if_pos heligible] at hplan
  have hfirst : keptDeclarations "import 'b';" = [⟨[], "b", 0, 11⟩] := by
    decide +kernel
  have hmem : (⟨[], "b", 0, 11⟩ : Declaration) ∈ declarations "import 'b';" := by
    decide +kernel
  have hliteral : Literal "'b'".toList ['b'] :=
    Literal.intro rfl (Quoted.plain (by decide) (by decide) (by decide) Quoted.close)
  have hspan := written_import hliteral
  -- Eleven of the blanks are where the declaration is told to be.  The others and the
  -- declaration itself stay behind what takes their place.
  rcases Nat.exists_eq_add_of_le (show 11 <= placeLimit by decide) with ⟨n, hn⟩
  have hfound := @keptDeclarations_of_blanks "import 'b';".toList (by decide)
  rw [String.ofList_toList, hfirst, hn, ← List.replicate_append_replicate,
    List.append_assoc] at hfound
  have hrun := transformSliced_run_front (String.toList_ofList) hfound rfl
    (byteLength_replicate 11).symm hplan
  have hcontent := (h options resolver next _ _ nofun hrun).left
  rw [hfound] at hcontent
  exact keptDeclarations_ne_nil (Plan.passed hloader _ _ hmem) (trivia_replicate n) hspan
    (List.map_eq_nil_iff.mp hcontent)

end

end Rewrite
end RemoteImports
