import RemoteImports.Proofs.Command.Inputs
import RemoteImports.Proofs.Command.Results
import Mathlib.Data.List.Nodup

/-!
# What a job does to a project

A job that only checks, or whose inputs are refused, changes nothing.  A job
that has a folder for its results leaves the output of every input that has one
in the file where it goes, and no other file is changed.  Its exit says whether
all went well.
-/

namespace RemoteImports
namespace Command

open Project Rewrite Package

section

variable {before after : FileTree} {outDir : Pathname} {inputs : List Input}
  {reports : List FileReport} {job : Job} {folder : Pathname}

/-!
# Results in their places
-/

theorem Job.run_of_error {project : Project} {options : Config.Options} {json : Bool}
    {fault : Fault} (h : job.inputs project.tree folder = .error fault) :
    job.run project folder options json = .ofFault project.tree fault := by
  rw [Job.run, h]

/-- A job whose inputs are found reads them all, then writes, then sums up. -/
theorem Job.run_of_ok (project : Project) (options : Config.Options) (json : Bool)
    (h : job.inputs project.tree folder = .ok inputs) :
    exists (summary : Summary) (commandLines : List String),
      summary.check = job.check ∧
      summary.reports.map FileReport.input = inputs ∧
      (forall report, report ∈ summary.reports -> report.Tells project.tree options
        (Lister.choose project folder options.versions options.manager)) ∧
      job.run project folder options json =
        match (job.writeResults folder summary.reports).run.run project.tree with
        | (.error fault, tree) => { exit := 1, fault := some fault, tree, commandLines }
        | (.ok (), tree) => summary.run json folder tree commandLines := by
  have hshared : Shared (Lister.choose project folder options.versions options.manager)
      { lister := Lister.choose project folder options.versions options.manager } := Or.inl rfl
  rcases mapM_rewriteInput_tells project.tree options hshared inputs with
    ⟨hinputs, hreports⟩
  rcases hrun : (inputs.mapM (rewriteInput project.tree options)).run
    { lister := Lister.choose project folder options.versions options.manager } with
    ⟨reports, resolver⟩
  rw [hrun] at hinputs hreports
  refine ⟨{ reports, check := job.check, showsResults := job.outDir.isNone && !job.check },
    resolver.commandLines, rfl, hinputs, hreports, ?_⟩
  rcases hwritten : (job.writeResults folder reports).run.run project.tree with
    ⟨written, tree⟩
  change (job.writeResults folder reports).run project.tree = _ at hwritten
  rw [Job.run, h]
  simp only [hrun, hwritten]
  cases written with
  | error fault =>
      rfl
  | ok done =>
      rfl

end

/-!
# Two files that are rewritten in place
-/

def inPlace : Job :=
  { paths := [⟨"a.js"⟩, ⟨"b.js"⟩], outDir := some ⟨"."⟩ }

end Command
end RemoteImports
