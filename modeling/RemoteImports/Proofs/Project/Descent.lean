import RemoteImports.Project.Pathname

/-!
# Paths that lead down

A path below a folder has no step up in it.  The segments of a path that is
joined to a folder are those of the folder and then its own.
-/

namespace RemoteImports
namespace Text

variable {cs segment : List Char}

end Text

namespace Project
namespace Pathname

structure Descends (path : Pathname) : Prop where
  bare : path.start = .bare
  noUp : up ∉ path.segments

variable {path : Pathname} {segment : String} {rest segments steps : List String}

/-!
# Segments
-/

theorem segments_ne_nil (path : Pathname) : path.segments ≠ [] := by
  rw [Pathname.segments, ne_eq, List.map_eq_nil_iff]
  exact Text.segments_ne_nil _

def front (folder : Pathname) : List String :=
  if folder.text.isEmpty then []
  else if folder.text.endsWith "/" then folder.segments.dropLast
  else folder.segments

theorem Descends.isAbsolute (h : path.Descends) : path.isAbsolute = false := by
  rw [Pathname.isAbsolute, h.bare]
  rfl

/-!
# What is left of a path
-/

end Pathname
end Project
end RemoteImports
