import RemoteImports.Text.Segments

/-!
# Paths

A path is kept as it is written, because messages show it so. Under it lies a start and
the steps from there. Empty segments, and segments `.` behind the start, are silent: two
paths that differ only in these are the same path written twice.
-/

namespace RemoteImports
namespace Project

/-- A path as it is written. -/
structure Pathname where
  text : String
deriving DecidableEq, Inhabited

/-- Where a path starts: at the top, or in the folder it is relative to, with a `.` for
that or without. -/
inductive Start where
  | top
  | dot
  | bare
deriving DecidableEq

namespace Pathname

def segments (path : Pathname) : List String :=
  (Text.segments path.text.toList).map String.ofList

def isSilent (segment : String) : Bool :=
  segment == "" || segment == "."

def up : String := ".."

def split (path : Pathname) : Start × List String :=
  match path.segments with
  | "" :: next :: rest => (.top, next :: rest)
  | "." :: rest => (.dot, rest)
  | segments => (.bare, segments)

def start (path : Pathname) : Start := path.split.1

def body (path : Pathname) : List String := path.split.2

def ofBody (start : Start) (body : List String) : Pathname :=
  let text := "/".intercalate body
  match start, body with
  | .top, _ => ⟨"/" ++ text⟩
  | .dot, [] => ⟨"."⟩
  | .dot, _ => ⟨"./" ++ text⟩
  | .bare, _ => ⟨text⟩

def isAbsolute (path : Pathname) : Bool := path.start == .top

def steps (path : Pathname) : List String :=
  path.body.filter (!isSilent ·)

def isSame (path other : Pathname) : Bool :=
  path.start == other.start && path.steps == other.steps

/-- A path followed by another one; an absolute one stands for itself. -/
def join (path other : Pathname) : Pathname :=
  if other.isAbsolute then other
  else if path.text.isEmpty || path.text.endsWith "/" then ⟨path.text ++ other.text⟩
  else ⟨path.text ++ "/" ++ other.text⟩

def name? (path : Pathname) : Option String :=
  path.steps.getLast?.filter (· != up)

/-- What follows the last point of the name of a path, if there is a point behind its
first character. -/
def extension? (path : Pathname) : Option String := do
  let name <- path.name?
  let behind := name.toList.reverse.takeWhile (· != '.')
  if behind.length + 1 < name.length then some (String.ofList behind.reverse) else none

def trim (segments : List String) : List String :=
  ((segments.dropWhile isSilent).reverse.dropWhile isSilent).reverse

/-- What is left of some segments behind some steps, if they begin with these. -/
def behind? : List String -> List String -> Option (List String)
  | [], segments => some (trim segments)
  | step :: steps, segments =>
    match segments.dropWhile isSilent with
    | [] => none
    | segment :: rest => if segment = step then behind? steps rest else none

/-- The rest of a path behind a folder, if it is written as a path below the folder. -/
def below? (path folder : Pathname) : Option Pathname :=
  if path.start = folder.start then
    (behind? folder.steps path.body).map (ofBody .bare)
  else none

/-- The paths that a start and reversed segments lead through, the last one first. -/
def trailFrom (start : Start) : List String -> List Pathname
  | [] =>
    match start with
    | .top => [⟨"/"⟩]
    | .dot => [⟨"."⟩, ⟨""⟩]
    | .bare => [⟨""⟩]
  | segment :: before =>
    if isSilent segment then trailFrom start before
    else ofBody start (segment :: before).reverse :: trailFrom start before

def trail (path : Pathname) : List Pathname :=
  trailFrom path.start path.body.reverse

def parent? (path : Pathname) : Option Pathname :=
  path.trail.tail.head?

end Pathname
end Project
end RemoteImports
