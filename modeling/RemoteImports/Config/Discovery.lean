import RemoteImports.Config.File
import RemoteImports.Project.FileTree

/-!
# Finding a configuration

A configuration is read from a file that was named, or else from the first file of a
folder that has one of the names for it.
-/

namespace RemoteImports
namespace Config

open Project

/-- The names of configurations in the order in which they are looked for. -/
def fileNames : List String := ["cdnimport.config.json", ".cdnimportrc.json"]

def find? (tree : FileTree) (folder : Pathname) : Option Pathname :=
  (fileNames.map fun name => folder.join ⟨name⟩).find? tree.isFile

def readAt (tree : FileTree) (path : Pathname) : Except Failure File :=
  match tree.read path with
  | .ok text => File.parse path.text text
  | .error cause => .error (.unreadableConfig path.text cause)

/-- Reads the configuration of a folder, if there is one. One that was named must be
there. -/
def load (tree : FileTree) (folder : Pathname) (named : Option Pathname) :
    Except Failure (Option (Pathname × File)) := do
  match named with
  | some path =>
    let path := folder.join path
    if tree.isThere path then return some (path, <- readAt tree path)
    else throw (.unreadableConfig path.text .absent)
  | none =>
    match find? tree folder with
    | some path => return some (path, <- readAt tree path)
    | none => return none

end Config
end RemoteImports
