import RemoteImports.Command.Arguments
import RemoteImports.Command.Inputs
import RemoteImports.Json.Printer
import RemoteImports.Package.Installed
import RemoteImports.Rewrite.Transform

/-!
# Rewriting files

Every input is read and rewritten before the first result is written, so results that land
on inputs do not change what is read. The versions are asked for once for all files.
-/

namespace RemoteImports
namespace Command

open Project

/-- What came of one input. -/
structure FileReport where
  input : Input
  result : Except String Rewrite.Output

namespace FileReport

def isOk (report : FileReport) : Bool := report.result.isOk

def isChanged (report : FileReport) : Bool :=
  match report.result with
  | .ok output => output.isChanged
  | .error _ => false

def outcomes (report : FileReport) : List Rewrite.Outcome :=
  match report.result with
  | .ok output => output.outcomes
  | .error _ => []

end FileReport

def rewriteInput (tree : FileTree) (options : Config.Options) (input : Input) :
    StateM Package.Resolver FileReport := do
  match tree.read input.path with
  | .error cause => return { input, result := .error cause.text }
  | .ok code =>
    match <- (Rewrite.transform options code).run with
    | .ok output => return { input, result := .ok output }
    | .error failure => return { input, result := .error failure.message }

/-!
## Results
-/

abbrev Changing := ExceptT Fault (StateM FileTree)

/-- Makes a change that may be refused. -/
def change (fault : Refusal -> Fault) (make : FileTree -> Except Refusal FileTree) :
    Changing Unit := do
  match make (<- get) with
  | .ok tree => set tree
  | .error refusal => throw (fault refusal)

def writeResult (outDir : Pathname) (report : FileReport) : Changing Unit := do
  match report.result with
  | .error _ => return
  | .ok output =>
    let path := outDir.join report.input.relative
    match path.parent? with
    | some folder => change (.cannotCreate folder) (·.makeFolders folder.trail)
    | none => pure ()
    change (.cannotWrite path) (·.write path (Text.Utf8.encode output.code.toList))

def writeResults (outDir : Pathname) (reports : List FileReport) : Changing Unit :=
  reports.forM (writeResult outDir)

/-!
## Summary
-/

/-- What came of all inputs. -/
structure Summary where
  reports : List FileReport
  check : Bool
  showsResults : Bool

namespace Summary

def changed (summary : Summary) : Nat := summary.reports.countP (·.isChanged)

def failed (summary : Summary) : Nat := summary.reports.countP fun report => !report.isOk

def rewritten (summary : Summary) : Nat :=
  (summary.reports.flatMap FileReport.outcomes).countP (·.isRewritten)

/-- Whether no input failed, and none would change that was to be left as it is. -/
def isOk (summary : Summary) : Bool :=
  summary.failed == 0 && !(summary.check && 0 < summary.changed)

end Summary

def outcomeJson : Rewrite.Outcome -> Json
  | .rewritten source package version address =>
    .object [("status", .string "rewritten"), ("source", .string source),
      ("package", .string package), ("version", .ofOption version), ("url", .string address)]
  | .skipped source => .object [("status", .string "skipped"), ("source", .string source)]

/-- What came of an input, as a value; the result itself is in it if results are shown. -/
def FileReport.toJson (showsResults : Bool) (report : FileReport) : Json :=
  .object (
    [("path", .string report.input.path.text), ("ok", .bool report.isOk),
      ("changed", .bool report.isChanged), ("imports", .array (report.outcomes.map outcomeJson))]
    ++ match report.result with
      | .ok output => if showsResults then [("output", .string output.code)] else []
      | .error message => [("error", .string message)])

def Summary.toJson (summary : Summary) (folder : Pathname) : Json :=
  .object [("ok", .bool summary.isOk), ("cwd", .string folder.text),
    ("files", .integer summary.reports.length), ("changed", .integer summary.changed),
    ("rewritten", .integer summary.rewritten), ("failed", .integer summary.failed),
    ("results", .array (summary.reports.map (·.toJson summary.showsResults)))]

def FileReport.output (check showsResults : Bool) (report : FileReport) : String :=
  match report.result with
  | .error _ => ""
  | .ok output =>
    if check && output.isChanged then "would rewrite " ++ report.input.path.text ++ "\n"
    else if showsResults then output.code
    else ""

def FileReport.complaint (report : FileReport) : String :=
  match report.result with
  | .error message => "error: " ++ report.input.path.text ++ ": " ++ message ++ "\n"
  | .ok _ => ""

/-!
## Runs
-/

/-- How a command ended, what it printed and complained of, the fault that it ended with,
the files after it, and the command lines that were run for it. -/
structure Run where
  exit : Nat := 0
  output : String := ""
  complaints : String := ""
  fault : Option Fault := none
  tree : FileTree
  commandLines : List String := []

def Run.ofFault (tree : FileTree) (fault : Fault) : Run :=
  { exit := 1, fault := some fault, tree }

/-- The inputs of a job, if results of theirs can go where they are to go. -/
def Job.inputs (job : Job) (tree : FileTree) (folder : Pathname) : Except Fault (List Input) := do
  let inputs <- Command.inputs tree folder job.paths
  if inputs.isEmpty then throw .noInputs
  if !job.check then
    match job.outDir with
    | none => if 1 < inputs.length then throw .noOutDir
    | some _ =>
      match clash? [] inputs with
      | some input => throw (.sameDestination input.relative input.path)
      | none => pure ()
  return inputs

/-- Writes the results of a job, if it has a folder for them. -/
def Job.writeResults (job : Job) (folder : Pathname) (reports : List FileReport) :
    Changing Unit :=
  match job.outDir, job.check with
  | some outDir, false => Command.writeResults (folder.join outDir) reports
  | _, _ => return

def Summary.run (summary : Summary) (json : Bool) (folder : Pathname) (tree : FileTree)
    (commandLines : List String) : Run :=
  { exit := if summary.isOk then 0 else 1
    output :=
      if json then (summary.toJson folder).toLines ++ "\n"
      else String.join (summary.reports.map (·.output summary.check summary.showsResults))
    complaints := if json then "" else String.join (summary.reports.map (·.complaint))
    fault :=
      if summary.failed = 0 then none
      else some (.filesFailed summary.failed summary.reports.length)
    tree, commandLines }

def Job.run (job : Job) (project : Project) (folder : Pathname) (options : Config.Options)
    (json : Bool) : Run :=
  match job.inputs project.tree folder with
  | .error fault => .ofFault project.tree fault
  | .ok inputs =>
    let lister := Package.Lister.choose project folder options.versions options.manager
    let (reports, resolver) := (inputs.mapM (rewriteInput project.tree options)).run { lister }
    let (written, tree) := (job.writeResults folder reports).run project.tree
    match written with
    | .error fault =>
      { exit := 1, fault := some fault, tree, commandLines := resolver.commandLines }
    | .ok () =>
      let showsResults := job.outDir.isNone && !job.check
      Summary.run { reports, check := job.check, showsResults } json folder tree
        resolver.commandLines

end Command
end RemoteImports
