import RemoteImports.Failure
import RemoteImports.Project.FileTree

/-!
# Input files

The files that the paths on a command line stand for. A path to a file stands for the
file, whatever its name; a path to a folder stands for the scripts below it. Each input
has a path of its own below the folder for the results, so that results do not overwrite
each other.

A command that cannot go on ends with a fault, which has a message for each cause.
-/

namespace RemoteImports
namespace Command

open Project

/-- Why a command ends without success. -/
inductive Fault where
  | failure (failure : Failure)
  | pathNotFound (path : Pathname)
  | noInputs
  | noOutDir
  | sameDestination (relative path : Pathname)
  | cannotCreate (folder : Pathname) (refusal : Refusal)
  | cannotWrite (path : Pathname) (refusal : Refusal)
  | filesFailed (failed files : Nat)

def Fault.message : Fault -> String
  | failure cause => cause.message
  | pathNotFound path => "Path not found: " ++ path.text
  | noInputs => "No JavaScript or TypeScript files found in the given paths"
  | noOutDir => "--out-dir is required when transforming more than one file"
  | sameDestination relative path =>
    "Two inputs map to " ++ relative.text ++ " under --out-dir (second: " ++ path.text ++ ")"
  | cannotCreate folder refusal => "Failed to create " ++ folder.text ++ ": " ++ refusal.text
  | cannotWrite path refusal => "Failed to write " ++ path.text ++ ": " ++ refusal.text
  | filesFailed failed files => toString failed ++ " of " ++ toString files ++ " files failed"

/-- A file to work on, and the path of its result below the folder for the results. -/
structure Input where
  path : Pathname
  relative : Pathname
deriving DecidableEq

def scriptExtensions : List String := ["js", "mjs", "jsx", "ts", "tsx"]

def isScript (path : Pathname) : Bool :=
  path.extension?.any scriptExtensions.contains

/-- The path of the result for a file that was named: where the file is below the working
folder, or only its name if it lies elsewhere. -/
def relativeTo (folder path : Pathname) : Pathname :=
  match (path.below? folder).filter fun rest => !rest.steps.contains Pathname.up with
  | some rest => rest
  | none => (path.name?.map Pathname.mk).getD path

def isInReach (path : Pathname) : Bool :=
  !path.parent?.any FileTree.isPathTooLong

/-- The scripts below a folder that was named, as inputs. A folder whose path is too long
is passed over. -/
def folderInputs (tree : FileTree) (path : Pathname) (location : Location) : List Input :=
  (tree.filesBelow location).filterMap fun names =>
    let relative := Pathname.ofBody .bare names
    let input : Input := { path := path.join relative, relative }
    if isScript relative && isInReach input.path then some input else none

def inputsAt (tree : FileTree) (folder path : Pathname) : Except Fault (List Input) :=
  let path := folder.join path
  match tree.find path with
  | .ok { location, content := .folder } => .ok (folderInputs tree path location)
  | .ok { content := .file _, .. } => .ok [{ path, relative := relativeTo folder path }]
  | _ => .error (.pathNotFound path)

def inputs (tree : FileTree) (folder : Pathname) (paths : List Pathname) :
    Except Fault (List Input) := do
  return (<- paths.mapM (inputsAt tree folder)).flatten

/-- The first input whose result would have the place of the result of one before it. -/
def clash? : (before : List Input) -> List Input -> Option Input
  | _, [] => none
  | before, input :: rest =>
    if before.any fun other => input.relative.isSame other.relative then some input
    else clash? (before ++ [input]) rest

end Command
end RemoteImports
