import Mathlib.Data.List.Forall2
import RemoteImports.Proofs.Rewrite.Plans
import RemoteImports.Proofs.Rewrite.Splice

/-!
# The rewrite of a whole script

With a resolver that knows the versions, a rewrite yields a script that
differs from the given one by the texts of the replaced declarations, and by
these it always differs.
-/

namespace RemoteImports
namespace Rewrite

open Config Import Package Script Text

/-!
# The text in place of a declaration

A replacement begins on the line of the declaration, and the lines it adds
begin as that line does, if there are only blanks before the declaration.
Its first word declares names, so that it is never taken for the declaration.
-/

def IsBlank (c : Char) : Prop := c = ' ' ∨ c = '\t'

/-- The text `indent` is what follows the last line break in `before`, if only
blanks do, and is empty otherwise. -/
def IsIndent (before indent : List Char) : Prop :=
  exists earlier line : List Char,
    before = earlier ++ line ∧
    '\n' ∉ line ∧
    (earlier = [] ∨ exists lines : List Char, earlier = lines ++ ['\n']) ∧
    ((forall c, c ∈ line -> IsBlank c) -> indent = line) ∧
    (¬ (forall c, c ∈ line -> IsBlank c) -> indent = [])

theorem isIndent_indentAt {before code : List Char} (h : before <+: code) :
    IsIndent before (indentAt code (byteLength before)) := by
  rcases h with ⟨rest, rfl⟩
  rw [indentAt, takeBytes_byteLength_append]
  have hblank : forall line : List Char,
      (line.all fun c => c == ' ' || c == '\t') = true <->
        forall c, c ∈ line -> IsBlank c := by
    intro line
    simp [IsBlank]
  exists (before.reverse.dropWhile (· != '\n')).reverse
  exists (before.reverse.takeWhile (· != '\n')).reverse
  refine ⟨?_, ?_, ?_, ?_, ?_⟩
  · rw [← List.reverse_append, List.takeWhile_append_dropWhile, List.reverse_reverse]
  · intro hmem
    have hline := List.all_eq_true.mp List.all_takeWhile _ (List.mem_reverse.mp hmem)
    simp at hline
  · cases hearlier : before.reverse.dropWhile (· != '\n') with
    | nil =>
        exact Or.inl rfl
    | cons c cs =>
        have hbreak : c = '\n' := by
          have hc := List.head?_dropWhile_not (· != '\n') before.reverse
          rw [hearlier] at hc
          simpa using hc
        right
        exists cs.reverse
        rw [List.reverse_cons, hbreak]
  · intro hall
    exact if_pos ((hblank _).mpr hall)
  · intro hall
    exact if_neg (mt (hblank _).mp hall)

theorem statements_eq_declare (loader : Loader) (bindings : Bindings)
    (package : String) (addresses : Addresses) :
    exists (keyword : Keyword) (declarators : List Declarator) (later : List Stmt),
      statements loader bindings package addresses =
        .declare keyword declarators :: later := by
  unfold statements
  cases addresses.fallback with
  | none =>
      unfold direct
      cases bindings.whole with
      | none =>
          exact ⟨_, _, _, rfl⟩
      | some whole =>
          exact ⟨_, _, _, rfl⟩
  | some fallback =>
      unfold withFallback
      cases bindings.whole with
      | none =>
          exact ⟨_, _, _, rfl⟩
      | some whole =>
          exact ⟨_, _, _, rfl⟩

theorem Plan.text_ne_declaration (plan : Plan) (options : Options)
    (code : List Char) (declaration : Declaration) {span : List Char}
    (hspan : importWord <+: span) (rest target : List Char) :
    span ++ rest ≠ plan.text options code declaration ++ target := by
  rcases hspan with ⟨behind, rfl⟩
  rcases statements_eq_declare (loader options) declaration.bindings
    plan.target.name plan.addresses with ⟨keyword, declarators, later, hstatements⟩
  rw [Plan.text, Plan.statements, hstatements, writeStmts, writeStmt_declare]
  cases keyword with
  | letKeyword =>
      simp [importWord, Keyword.text]
  | constKeyword =>
      simp [importWord, Keyword.text]

/-!
# What comes out
-/

/-- What may come out in place of a span: the span itself if the declaration
is not eligible, and otherwise its statements, indented as the span is. -/
inductive Replaces (options : Options) (resolver : Resolver)
    (before span : List Char) (declaration : Declaration) : List Char -> Prop where
  | kept :
      ¬ Eligible options declaration.source ->
      Replaces options resolver before span declaration span
  | replaced (stmts : List Stmt) (indent : List Char) :
      Eligible options declaration.source ->
      ((replacement options declaration).run.run resolver).1 = .ok (some stmts) ->
      IsIndent before indent ->
      Replaces options resolver before span declaration
        (writeStmts { base := indent } stmts)

def Reports (options : Options) (declaration : Declaration) (outcome : Outcome) :
    Prop :=
  outcome.source = declaration.source ∧
  (outcome.isRewritten = true <-> Eligible options declaration.source)

section

variable {options : Options} {installed : VersionMap} {resolver : Resolver}
  {code : List Char}

def textOf (options : Options) (installed : VersionMap) (code : List Char)
    (declaration : Declaration) : Option (List Char) :=
  (planned options installed declaration.source).map fun plan =>
    plan.text options code declaration

theorem apply_code (options : Options) (installed : VersionMap) (code : List Char)
    (declarations : List Declaration) :
    (apply options code (plansOf options installed declarations)).code.toList =
      splice 0 code (editsOf (textOf options installed code) declarations) := by
  simp [apply, plansOf, editsOf, textOf, List.filterMap_map, Function.comp_def]

theorem Filled.replaces {code before span text : List Char}
    {declaration : Declaration} (h : resolver.Answers installed)
    (hfilled : Filled code (textOf options installed code) before span declaration
      text) :
    Replaces options resolver before span declaration text := by
  have htext := hfilled.text
  have hrun := replacement_run options declaration h
  rw [textOf] at htext
  by_cases heligible : Eligible options declaration.source
  · rw [planned, if_pos heligible, Option.map_some] at hrun htext
    rw [htext, Option.getD_some, Plan.text, hfilled.start]
    exact Replaces.replaced _ _ heligible hrun (isIndent_indentAt hfilled.whole)
  · rw [planned, if_neg heligible] at htext
    rw [htext]
    exact Replaces.kept heligible

theorem Filled.kept_or_ne {code before span text : List Char}
    {declaration : Declaration}
    (hfilled : Filled code (textOf options installed code) before span declaration
      text) :
    (¬ Eligible options declaration.source ∧ text = span) ∨
      forall rest target : List Char, span ++ rest ≠ text ++ target := by
  have htext := hfilled.text
  rw [textOf] at htext
  by_cases heligible : Eligible options declaration.source
  · right
    intro rest target
    rw [planned, if_pos heligible, Option.map_some, Option.getD_some] at htext
    rw [htext]
    exact Plan.text_ne_declaration _ options code declaration hfilled.word rest target
  · left
    rw [planned, if_neg heligible] at htext
    exact ⟨heligible, htext⟩

theorem outcome_reports (declaration : Declaration) :
    Reports options declaration
      (outcome declaration (planned options installed declaration.source)) := by
  rw [planned]
  by_cases heligible : Eligible options declaration.source
  · rw [if_pos heligible]
    exact ⟨rfl, by simp [outcome, Outcome.isRewritten, heligible]⟩
  · rw [if_neg heligible]
    exact ⟨rfl, by simp [outcome, Outcome.isRewritten, heligible]⟩

theorem forall_reports (declarations : List Declaration) :
    List.Forall₂ (Reports options) declarations
      (apply options code (plansOf options installed declarations)).outcomes := by
  simp only [apply, plansOf, List.map_map]
  rw [List.forall₂_map_right_iff, List.forall₂_same]
  intro declaration _
  exact outcome_reports declaration

theorem isChanged_iff (code : List Char) (declarations : List Declaration) :
    (apply options code (plansOf options installed declarations)).isChanged = true <->
      exists declaration, declaration ∈ declarations ∧
        Eligible options declaration.source := by
  rw [Output.isChanged, Output.rewritten, decide_eq_true_iff, List.countP_pos_iff]
  constructor
  · rintro ⟨reported, hmem, hrewritten⟩
    simp only [apply, plansOf, List.map_map, List.mem_map] at hmem
    rcases hmem with ⟨declaration, hin, rfl⟩
    exact ⟨declaration, hin, (outcome_reports declaration).right.mp hrewritten⟩
  · rintro ⟨declaration, hin, heligible⟩
    refine ⟨outcome declaration (planned options installed declaration.source), ?_, ?_⟩
    · simp only [apply, plansOf, List.map_map, List.mem_map]
      exact ⟨declaration, hin, rfl⟩
    · exact (outcome_reports declaration).right.mpr heligible

theorem splice_eq_of_not_eligible {code : List Char}
    {declarations : List Declaration}
    (h : forall declaration, declaration ∈ declarations ->
      ¬ Eligible options declaration.source) (rest : List Char) :
    splice 0 rest (editsOf (textOf options installed code) declarations) = rest := by
  have hnone : editsOf (textOf options installed code) declarations = [] := by
    rw [editsOf, List.filterMap_eq_nil_iff]
    intro declaration hmem
    rw [textOf, planned, if_neg (h declaration hmem)]
    rfl
  rw [hnone, splice]

theorem transform_spliced (options : Options) (code : String)
    {resolver : Resolver} {installed : VersionMap}
    (h : resolver.Answers installed) :
    exists output : Output,
      ((transform options code).run.run resolver).1 = .ok output ∧
      List.Forall₂ (Reports options) (declarations code) output.outcomes ∧
      Spliced (Replaces options resolver) [] code.toList output.code.toList
        (declarations code) ∧
      (output.isChanged = true <-> output.code ≠ code) := by
  exists apply options code.toList (plansOf options installed (declarations code))
  have hspliced := splice_spliced (declarations_located code) rfl
    (textOf options installed code.toList)
  rw [byteLength_nil, List.nil_append, ← apply_code] at hspliced
  refine ⟨transform_run code h, forall_reports _, ?_, ?_⟩
  · apply hspliced.imp
    intro before span declaration text hfilled
    exact hfilled.replaces h
  · rw [isChanged_iff]
    constructor
    · rintro ⟨declaration, hmem, heligible⟩ hcode
      have hkept := hspliced.forall_of_eq
        (fun _ _ _ _ hfilled => hfilled.kept_or_ne) (by rw [hcode])
      exact hkept declaration hmem heligible
    · intro hcode
      by_contra hnone
      apply hcode
      rw [← String.toList_inj, apply_code]
      apply splice_eq_of_not_eligible
      intro declaration hmem heligible
      exact hnone ⟨declaration, hmem, heligible⟩

theorem transform_spliced_pinned :
    let options : Options :=
      { host := "https://c", rules := [{ pattern := .char 'a', suffix := none }] }
    let resolver : Resolver := { lister := .pinned (.ofList [("a", "1")]) }
    let code := "import 'b';\n  import x from 'a';"
    resolver.Answers (.ofList [("a", "1")]) ∧
    Eligible options "a" ∧ ¬ Eligible options "b" ∧
    exists output : Output,
      ((transform options code).run.run resolver).1 = .ok output ∧
      List.Forall₂ (Reports options) (declarations code) output.outcomes ∧
      Spliced (Replaces options resolver) [] code.toList output.code.toList
        (declarations code) ∧
      (output.isChanged = true <-> output.code ≠ code) := by
  intro options resolver code
  have hanswers : resolver.Answers (.ofList [("a", "1")]) := .of_pinned _
  exact ⟨hanswers, by decide +kernel, by decide +kernel,
    transform_spliced options code hanswers⟩

end

end Rewrite
end RemoteImports
