import RemoteImports.Package.Listing
import RemoteImports.Project.FileTree

/-!
# The installed versions of a project

A project is what the library works in: a tree of files, and the tools that can be run by
name. What a run of a tool leaves behind is the same each time.

A project with a lock file of yarn is listed by yarn, and any other by npm, unless the
manager is chosen or the versions are known beforehand.
-/

namespace RemoteImports

namespace Project

/-- A tool that may be run by its name. -/
structure Tool where
  name : String
  isExecutable : Bool := true
  run : Package.Run

end Project

/-- A tree of files and the tools beside it. -/
structure Project where
  tree : Project.FileTree
  tools : List Project.Tool := []

/-- The tool that a name stands for. One that cannot be run is passed over. -/
def Project.tool? (project : Project) (name : String) : Option Project.Tool :=
  project.tools.find? fun tool => tool.isExecutable && tool.name == name

namespace Package

def hasYarnLock (project : Project) (folder : Project.Pathname) : Bool :=
  project.tree.isFile (folder.join ⟨lockFile⟩)

def Manager.detect (project : Project) (folder : Project.Pathname) : Manager :=
  if hasYarnLock project folder then .yarn else .npm

def Manager.listing (manager : Manager) (project : Project) (folder : Project.Pathname) :
    Listing :=
  match project.tool? manager.name, project.tree.find folder with
  | none, _ => { result := .error (.managerNotFound manager) }
  | some _, .error refusal => { result := .error (.refused refusal) }
  | some tool, .ok place =>
    match place.content with
    | .free => { result := .error (.refused .missing) }
    | .file _ => { result := .error (.refused .notDirectory) }
    | .folder =>
      { result := tool.run.versions manager, commandLine := some manager.commandLine }

def Lister.ofManager (project : Project) (folder : Project.Pathname) (manager : Manager) :
    Lister :=
  { name := manager.name, list := fun _ => manager.listing project folder }

/-- The lister that runs the manager that a folder calls for. -/
def Lister.detected (project : Project) (folder : Project.Pathname) : Lister :=
  { name := "detect", list := fun _ => (Manager.detect project folder).listing project folder }

/-- The lister for versions that are known beforehand, if there are any, and else for a
manager that was chosen, if one was. -/
def Lister.choose (project : Project) (folder : Project.Pathname) (versions : Option VersionMap)
    (manager : Option Manager) : Lister :=
  match versions, manager with
  | some versions, _ => .pinned versions
  | none, some manager => .ofManager project folder manager
  | none, none => .detected project folder

end Package
end RemoteImports
