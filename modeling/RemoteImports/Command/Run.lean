import RemoteImports.Command.Transform
import RemoteImports.Config.Discovery

/-!
# Running a command line

What a command line does to a project, and how it ends.
-/

namespace RemoteImports

def programName : String := "cdnimport"

def release : String := "0.1.0"

def releaseLine : String := programName ++ " " ++ release

namespace Command

open Project

/-- The configuration for a command line; where there is no file for it, an empty one. -/
def Invocation.configuration (invocation : Invocation) (tree : FileTree) (folder : Pathname) :
    Except Failure Config.File := do
  return ((<- Config.load tree folder invocation.config).map (·.2)).getD {}

def versionOutput (json : Bool) : String :=
  (if json then
    (Json.object [("name", .string programName), ("version", .string release)]).toText
  else releaseLine) ++ "\n"

def versionsOutput (json : Bool) (folder : Pathname) (lister : String) (versions : VersionMap) :
    String :=
  if json then
    (Json.object [("ok", .bool true), ("cwd", .string folder.text), ("lister", .string lister),
      ("packages", .ofTexts versions)]).toLines ++ "\n"
  else String.join (versions.entries.map fun (name, version) => name ++ "@" ++ version ++ "\n")

def runVersions (project : Project) (folder : Pathname) (file : Config.File) (json : Bool) : Run :=
  let lister := Package.Lister.choose project folder file.versions file.manager
  let (result, resolver) := Package.versions.run.run { lister }
  match result with
  | .ok versions =>
    { output := versionsOutput json folder lister.name versions
      tree := project.tree
      commandLines := resolver.commandLines }
  | .error failure =>
    { exit := 1, fault := some (.failure failure), tree := project.tree
      commandLines := resolver.commandLines }

def runTransform (project : Project) (folder : Pathname) (file : Config.File) (job : Job)
    (json : Bool) : Run :=
  match file.options with
  | .ok options => job.run project folder options json
  | .error failure => .ofFault project.tree (.failure failure)

def Invocation.run (invocation : Invocation) (project : Project) : Run :=
  let tree := project.tree
  let folder := invocation.folder.getD tree.homePath
  let json := invocation.json
  let withConfig (overrides : Overrides) (use : Config.File -> Run) : Run :=
    match invocation.configuration tree folder with
    | .ok file => use (overrides.apply file)
    | .error failure => .ofFault tree (.failure failure)
  match invocation.action with
  | .version => { output := versionOutput json, tree }
  | .versions overrides =>
    withConfig overrides fun file => runVersions project folder file json
  | .transform overrides job =>
    withConfig overrides fun file => runTransform project folder file job json

def usage : String :=
  "\n".intercalate [
    "Rewrite static ES imports into CDN dynamic imports",
    "",
    "Usage: cdnimport [OPTIONS] [COMMAND]",
    "",
    "Commands:",
    "  version    Print version information",
    "  versions   Print the installed package versions used for CDN URLs",
    "  transform  Rewrite imports in files or directories",
    "",
    "Options:",
    "  -v, --verbose      Say more about what is done",
    "      --json         Print JSON",
    "      --cwd PATH     Work in another folder",
    "      --config PATH  Use another config file",
    "  -h, --help         Print help",
    "  -V, --version      Print version",
    ""]

def run (project : Project) (arguments : List String) : Run :=
  match read arguments with
  | .ok invocation => invocation.run project
  | .error .version => { output := versionOutput false, tree := project.tree }
  | .error .help => { output := usage, tree := project.tree }
  | .error .misuse => { exit := 2, tree := project.tree }

end Command
end RemoteImports
