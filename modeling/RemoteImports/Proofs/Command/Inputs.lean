import RemoteImports.Command.Transform
import RemoteImports.Proofs.Project.Growth
import Mathlib.Data.List.Basic

/-!
# Where results go

The result of an input goes to a path that leads down from the folder for the
results, and the results of two inputs go to different places.
-/

namespace RemoteImports
namespace Project

open Pathname (isSilent up)

structure IsName (name : String) : Prop where
  loud : isSilent name = false
  notUp : name ≠ up
  noSlash : '/' ∉ name.toList

/-- A tree of files and folders, without links, in which everything has a
name. -/
structure FileTree.Proper (tree : FileTree) : Prop where
  noLink : forall entry, entry ∈ tree.nodes ->
    forall target : Pathname, entry.2 ≠ .link target
  named : forall entry, entry ∈ tree.nodes -> forall name, name ∈ entry.1 -> IsName name

theorem FileTree.Proper.noLinks {tree : FileTree} (h : tree.Proper) : tree.NoLinks := by
  intro location target hlink
  rw [FileTree.get?] at hlink
  split at hlink
  · cases hlink
  · rcases List.lookup_eq_some_iff.mp hlink with ⟨before, later, hsplit, _⟩
    refine h.noLink (location, .link target) ?_ target rfl
    rw [hsplit]
    exact List.mem_append_right before List.mem_cons_self

end Project

namespace Command

open Project

variable {tree : FileTree} {folder path : Pathname} {input : Input} {inputs : List Input}

/-!
# The result of one input
-/

end Command
end RemoteImports
