import RemoteImports.Command.Run

/-!
# The program

The files that a command line may touch are read into a tree, the command is run on the
tree, and what it changed about the tree is done to the files. No package manager is run,
so versions have to be pinned in the configuration.
-/

namespace RemoteImports
namespace Command

open Project

/-- The location that an absolute path without links leads to. -/
def locationOf (path : String) : Location := (Pathname.mk path).steps

/-- The tree with folders at a location and on the way to it, where nothing is yet. -/
def withFolders (tree : FileTree) (location : Location) : FileTree :=
  (List.range (location.length + 1)).foldl (fun tree count =>
    let above := location.take count
    if (tree.get? above).isSome then tree else tree.put above .folder) tree

/-- Adds what is at a path without links, and in it, to a tree. The content of folders
that listings leave out is left out here, too, except for the one that the path leads to.
-/
partial def survey (tree : FileTree) (path : String) (isNamed : Bool) : IO FileTree := do
  let location := locationOf path
  let tree := withFolders tree location.dropLast
  let real <- IO.FS.realPath ⟨path⟩
  if real.toString != path then
    let tree := tree.put location (.link ⟨real.toString⟩)
    if <- real.isDir then return tree else survey tree real.toString true
  else if <- real.isDir then
    let mut tree := withFolders tree location
    if isNamed || !(location.getLast?.any FileTree.skippedFolders.contains) then
      for entry in <- real.readDir do
        tree <- (try survey tree entry.path.toString false catch _ => pure tree)
    return tree
  else
    return tree.put location (.file (<- IO.FS.readBinFile ⟨path⟩).toList)

/-- The files below the working folder, and those that arguments name. -/
def surveyAll (arguments : List String) : IO FileTree := do
  let home := (<- IO.currentDir).toString
  let mut tree <- survey { home := locationOf home } home true
  for argument in arguments do
    tree <- (try survey tree (<- IO.FS.realPath ⟨argument⟩).toString true catch _ => pure tree)
  return tree

def carryOut (before after : FileTree) : IO Unit := do
  for (location, node) in after.nodes.reverse do
    if before.get? location != some node then
      let path := (Pathname.ofBody .top location).text
      match node with
      | .folder => IO.FS.createDirAll ⟨path⟩
      | .file bytes => IO.FS.writeBinFile ⟨path⟩ ⟨bytes.toArray⟩
      | .link _ => pure ()

def runHere (arguments : List String) : IO UInt32 := do
  let tree <- surveyAll arguments
  let run := run { tree } arguments
  carryOut tree run.tree
  IO.print run.output
  IO.eprint run.complaints
  if let some fault := run.fault then
    IO.eprintln ("Error: " ++ fault.message)
  return UInt32.ofNat run.exit

end Command
end RemoteImports

def main (arguments : List String) : IO UInt32 :=
  RemoteImports.Command.runHere arguments
