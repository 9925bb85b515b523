import RemoteImports.Proofs.Import.Places
import RemoteImports.Proofs.Rewrite.Requests
import RemoteImports.Proofs.Rewrite.Splice

/-!
# Rewriting by slices

A rewrite may slice the script at the places of its declarations as it goes,
one declaration after another.  Between two slices it may ask for the installed
versions, and may fail.  It never slices out of place, so it is the rewrite that
cuts nothing but lists of characters.
-/

namespace RemoteImports
namespace Rewrite

open Config Import Package Script Text

/-- A computation that slices, and comes to nothing if a slice is out of place. -/
abbrev Slicing := OptionT Resolving

def sliced (code : List Char) (start stop : Nat) : Slicing (List Char) :=
  OptionT.mk (pure (slice? code start stop))

def lineStart (before : List Char) : Nat :=
  byteLength (before.reverse.dropWhile (· != '\n')).reverse

def indentSliced (code : List Char) (place : Nat) : Slicing (List Char) := do
  let line ← sliced code (lineStart (← sliced code 0 place)) place
  return if line.all fun c => c == ' ' || c == '\t' then line else []

def rewriteFrom (options : Options) (code : List Char) (cursor : Nat) :
    List Declaration -> Slicing (List Char × List Outcome)
  | [] => return (← sliced code cursor (byteLength code), [])
  | declaration :: declarations => do
      let plan? ← OptionT.lift (plan options declaration.source)
      match plan? with
      | none => do
          let (text, outcomes) ← rewriteFrom options code cursor declarations
          return (text, outcome declaration none :: outcomes)
      | some plan => do
          let indent ← indentSliced code declaration.start
          let before ← sliced code cursor declaration.start
          let (text, outcomes) ← rewriteFrom options code declaration.stop declarations
          return (before ++ writeStmts { base := indent } (plan.statements options declaration)
              ++ text, outcome declaration (some plan) :: outcomes)

def transformSliced (options : Options) (code : String) : Slicing Output := do
  let found ← OptionT.mk (pure (declarationsAt code.toList))
  let (text, outcomes) ← rewriteFrom options code.toList 0 found
  return { code := String.ofList text, outcomes }

section

variable {options : Options} {code before rest : List Char}
  {declarations : List Declaration}

theorem sliced_eq {front text rest : List Char} (h : code = front ++ (text ++ rest)) :
    sliced code (byteLength front) (byteLength (front ++ text)) = pure text := by
  rw [sliced, slice?_eq_some_iff.mpr ⟨front, rest, h, rfl, rfl⟩]
  rfl

theorem indentSliced_eq (h : code = before ++ rest) :
    indentSliced code (byteLength before) = pure (indentAt code (byteLength before)) := by
  have hwhole : sliced code 0 (byteLength before) = pure before :=
    @sliced_eq code [] before rest h
  have hsplit : (before.reverse.dropWhile (· != '\n')).reverse ++
      (before.reverse.takeWhile (· != '\n')).reverse = before := by
    rw [← List.reverse_append, List.takeWhile_append_dropWhile, List.reverse_reverse]
  have hline : sliced code (lineStart before) (byteLength before) =
      pure (before.reverse.takeWhile (· != '\n')).reverse := by
    have hslice := @sliced_eq code (before.reverse.dropWhile (· != '\n')).reverse
      (before.reverse.takeWhile (· != '\n')).reverse rest
      (by rw [← List.append_assoc, hsplit, h])
    rwa [hsplit] at hslice
  rw [indentSliced, hwhole, pure_bind, hline, pure_bind, indentAt, h,
    takeBytes_byteLength_append]

def rewritten (options : Options) (code : List Char) (cursor : Nat) (rest : List Char)
    (plans : List (Declaration × Option Plan)) : List Char × List Outcome :=
  (splice cursor rest (plans.filterMap fun (declaration, plan) =>
      plan.map fun plan => (declaration, plan.text options code declaration)),
    plans.map fun (declaration, plan) => outcome declaration plan)

theorem rewritten_cons_some {front gap span : List Char} {declaration : Declaration}
    (hstart : declaration.start = byteLength (front ++ gap))
    (hstop : declaration.stop = byteLength (front ++ gap ++ span)) (rest : List Char)
    (plan : Plan) (plans : List (Declaration × Option Plan)) :
    rewritten options code (byteLength front) (gap ++ span ++ rest)
        ((declaration, some plan) :: plans) =
      (gap ++ plan.text options code declaration ++
          (rewritten options code (byteLength (front ++ gap ++ span)) rest plans).fst,
        outcome declaration (some plan) ::
          (rewritten options code (byteLength (front ++ gap ++ span)) rest plans).snd) :=
  congrArg (·, _) (splice_edit hstart hstop rest _ _)

/-- What a computation does behind one that comes to something. -/
theorem run_bind_of_run {α β γ : Type} {x : Slicing α} {y : Resolving β} {g : β -> α}
    (h : x.run = y >>= fun b => pure (some (g b))) (f : α -> Slicing γ) :
    (x >>= f).run = y >>= fun b => (f (g b)).run := by
  rw [OptionT.run_bind, h, Option.elimM, bind_assoc]
  simp only [pure_bind, Option.elim_some]

theorem run_lift_bind {β γ : Type} (x : Resolving β) (f : β -> Slicing γ) :
    (OptionT.lift x >>= f).run = x >>= fun b => (f b).run :=
  @run_bind_of_run _ _ _ _ x id (OptionT.run_lift x) f

theorem rewriteFrom_run {front passed : List Char} (h : Located before rest declarations)
    (hbefore : before = front ++ passed) (hcode : code = before ++ rest) :
    (rewriteFrom options code (byteLength front) declarations).run =
      plans options declarations >>= fun plans =>
        pure (some (rewritten options code (byteLength front) (passed ++ rest) plans)) := by
  induction h generalizing front passed with
  | nil before rest =>
      have hend : slice? code (byteLength front) (byteLength code) = some (passed ++ rest) := by
        rw [hcode, hbefore, List.append_assoc]
        exact (at_append front (passed ++ rest)).slice_end
      rw [rewriteFrom, sliced, hend]
      rfl
  | @cons before gap behind rest clause declaration declarations _ hdeclaration _ ih =>
      have hfront : before ++ gap = front ++ (passed ++ gap) := by
        rw [hbefore, List.append_assoc]
      have hrest : passed ++ (gap ++ (importWord ++ behind) ++ rest) =
          passed ++ gap ++ (importWord ++ behind) ++ rest := by
        simp only [List.append_assoc]
      have hbehind : code = before ++ gap ++ (importWord ++ behind) ++ rest := by
        rw [hcode]
        simp only [List.append_assoc]
      rw [rewriteFrom, run_lift_bind, plans_cons, bind_assoc, hrest]
      apply bind_congr
      intro plan?
      rw [bind_assoc]
      cases plan? with
      | none =>
          have hlater := @ih front (passed ++ gap ++ (importWord ++ behind))
            (by rw [hfront, List.append_assoc front]) hbehind
          exact run_bind_of_run hlater _
      | some plan =>
          have hlater := @ih (before ++ gap ++ (importWord ++ behind)) []
            (List.append_nil _).symm hbehind
          have hstart : declaration.start = byteLength (before ++ gap) := by
            rw [hdeclaration]
          have hstop : declaration.stop =
              byteLength (before ++ gap ++ (importWord ++ behind)) := by
            rw [hdeclaration]
          rw [List.append_assoc (before ++ gap)] at hbehind
          have hindent : indentSliced code declaration.start =
              pure (indentAt code declaration.start) := by
            rw [hstart]
            exact indentSliced_eq hbehind
          have hsliced : sliced code (byteLength front) declaration.start =
              pure (passed ++ gap) := by
            rw [hstart, hfront]
            rw [hfront, List.append_assoc front] at hbehind
            exact sliced_eq hbehind
          dsimp only
          rw [hindent, pure_bind, hsliced, pure_bind, hstop, run_bind_of_run hlater]
          apply bind_congr
          intro plans
          rw [hfront] at hstart hstop ⊢
          rw [pure_bind, rewritten_cons_some hstart hstop]
          rfl

/-- A rewrite that slices is a rewrite, and slices nothing out of place. -/
theorem transformSliced_run (options : Options) (code : String)
    (hshort : byteLength code.toList < placeLimit) :
    (transformSliced options code).run = some <$> transform options code := by
  have hrun := @rewriteFrom_run options code.toList [] code.toList (declarations code) [] []
    (declarations_located code) rfl rfl
  have hfound : (OptionT.mk (pure (declarationsAt code.toList)) :
      Slicing (List Declaration)) = pure (declarations code) := by
    rw [declarationsAt_eq, keptDeclarations_eq hshort]
    rfl
  rw [byteLength_nil] at hrun
  rw [transformSliced, hfound, pure_bind, run_bind_of_run hrun, transform, map_bind]
  apply bind_congr
  intro plans
  rw [map_pure]
  rfl

theorem rewriteFrom_run_of_not_eligible {front rest : List Char}
    (h : forall declaration, declaration ∈ declarations ->
      ¬ Eligible options declaration.source)
    (hcode : code = front ++ rest) (resolver : Resolver) :
    (rewriteFrom options code (byteLength front) declarations).run.run.run resolver =
      (.ok (some (rest, declarations.map fun declaration =>
        .skipped declaration.source)), resolver) := by
  induction declarations with
  | nil =>
      have hrest : sliced code (byteLength front) (byteLength code) = pure rest := by
        rw [hcode]
        exact sliced_eq (List.append_nil (front ++ rest) ▸ List.append_assoc front rest [])
      rw [rewriteFrom, hrest]
      rfl
  | cons declaration declarations ih =>
      have hplan := plan_run_of_not_eligible (h declaration List.mem_cons_self) .empty resolver
      rw [planned, if_neg (h declaration List.mem_cons_self)] at hplan
      have hlater := ih fun later hmem => h later (List.mem_cons_of_mem _ hmem)
      rw [rewriteFrom, run_lift_bind, run_bind_of_ok hplan]
      dsimp only
      rw [OptionT.run_bind, Option.elimM, run_bind_of_ok hlater]
      rfl

end

/-!
# In place
-/

/-- The scan and the rewrite of a script slice nothing out of place, and the
spans of the declarations lie in the script one behind the other. -/
structure InPlace (code : String) : Prop where
  scan : declarationsAt code.toList = some (declarations code)
  rewrite : forall options : Options,
    (transformSliced options code).run = some <$> transform options code
  bounds : forall declaration, declaration ∈ declarations code ->
    declaration.start < declaration.stop ∧ declaration.stop <= byteLength code.toList
  ordered : (declarations code).Pairwise fun first later => first.stop <= later.start
  spans : forall declaration, declaration ∈ declarations code ->
    exists span : List Char,
      slice? code.toList declaration.start declaration.stop = some span ∧
      importWord <+: span ∧
      exists c : Char, span.getLast? = some c ∧ (isQuote c = true ∨ c = ';')

/-- Whatever the script says, and however it ends, if 32 bits tell its places
apart. -/
theorem inPlace (code : String) (hshort : byteLength code.toList < placeLimit) :
    InPlace code where
  scan := by
    rw [declarationsAt_eq, keptDeclarations_eq hshort]
  rewrite options := transformSliced_run options code hshort
  bounds declaration hmem := by
    rcases slice?_of_mem_declarations hmem with ⟨span, hslice, hword, _⟩
    rcases slice?_eq_some_iff.mp hslice with ⟨before, rest, hcode, hstart, hstop⟩
    rcases hword with ⟨behind, rfl⟩
    have hpos : 0 < byteLength importWord := by
      decide
    rw [hcode, hstart, hstop]
    simp only [byteLength_append]
    omega
  ordered := (declarations_located code).pairwise
  spans _ hmem := slice?_of_mem_declarations hmem

/-- Brackets are closed that were not open, and a template is left open behind a
backslash. -/
theorem inPlace_template :
    byteLength ")import 'é';\n`\\é".toList < placeLimit ∧
      declarations ")import 'é';\n`\\é" = [⟨[], "é", 1, 13⟩] ∧
      InPlace ")import 'é';\n`\\é" := by
  have hshort : byteLength ")import 'é';\n`\\é".toList < placeLimit := by
    decide
  exact ⟨hshort, by decide +kernel, inPlace _ hshort⟩

end Rewrite
end RemoteImports
