import RemoteImports.Package.Npm
import RemoteImports.Package.Yarn
import RemoteImports.Text.Segments
import RemoteImports.Text.Utf8

/-!
# Listings

What the output of a package manager says about the installed versions, given how the run
ended. Yarn must end well. The listing of npm is taken if it can be read, however the run
ended.
-/

namespace RemoteImports
namespace Package

def Run.failure (run : Run) (manager : Manager) : Failure :=
  .listingFailed manager run.status
    (String.ofList (Text.trim (Text.Utf8.decodeLossy run.complaints)))

def Run.versions (run : Run) (manager : Manager) : Except Failure VersionMap :=
  let output := String.ofList (Text.Utf8.decodeLossy run.output)
  match manager with
  | .yarn => if run.status.isSuccess then Yarn.versions output else .error (run.failure manager)
  | .npm =>
    match Npm.versions output with
    | .ok versions => .ok versions
    | .error failure =>
      if run.status.isSuccess then .error failure else .error (run.failure manager)

/-- What came of asking for the installed versions: the answer, and the command line that
was run for it, if one was. -/
structure Listing where
  result : Except Failure VersionMap
  commandLine : Option String := none

/-- A way to learn the installed versions of a project. It may answer differently each
time. -/
structure Lister where
  name : String
  list : (time : Nat) -> Listing

def Lister.pinned (versions : VersionMap) : Lister :=
  { name := "pinned", list := fun _ => { result := .ok versions } }

end Package
end RemoteImports
