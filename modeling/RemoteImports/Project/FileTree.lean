import RemoteImports.Project.Pathname
import RemoteImports.Project.Refusal
import RemoteImports.Text.Bytes
import RemoteImports.Text.Utf8

/-!
# Trees of files

A tree says what is at each location: a file, a folder, or a link to a path. A location is
the list of names that lead to it from the top. Other than a path it holds no `..` and
passes through no link, so two locations are the same place only if they are equal, and
writing to one changes no other.

Some of what a file system has is left out. There are no permissions, so nothing is refused
for want of them, and no hard links, so a file has one location. Names are texts: a name
that is no UTF-8 does not occur. What is logged on the way is no part of a tree and is not
kept elsewhere, either.
-/

namespace RemoteImports
namespace Project

/-- The names that lead to a place from the top. -/
abbrev Location := List String

/-- What is at a location. -/
inductive Node where
  | file (bytes : List UInt8)
  | folder
  | link (target : Pathname)
deriving DecidableEq

/-- What is at the locations below the top, and the location of the folder that relative
paths start from. -/
structure FileTree where
  nodes : List (Location × Node) := []
  home : Location := []

namespace FileTree

instance : Inhabited FileTree := ⟨{}⟩

def get? (tree : FileTree) (location : Location) : Option Node :=
  if location = [] then some .folder else tree.nodes.lookup location

def put (tree : FileTree) (location : Location) (node : Node) : FileTree :=
  { tree with nodes := (location, node) :: tree.nodes.filter (·.1 != location) }

/-- A location at which something was put has it. -/
theorem get?_put_self (tree : FileTree) (node : Node) {location : Location} (h : location ≠ []) :
    (tree.put location node).get? location = some node := by
  simp [get?, put, h]

theorem lookup_filter_ne (nodes : List (Location × Node)) {location other : Location}
    (h : other ≠ location) :
    (nodes.filter (·.1 != location)).lookup other = nodes.lookup other := by
  induction nodes with
  | nil =>
      rfl
  | cons entry nodes ih =>
      rcases entry with ⟨place, node⟩
      by_cases hp : place = location
      · subst hp
        have hne : (other == place) = false := by simp [h]
        simp [List.lookup_cons, hne, ih]
      · simp [hp, List.lookup_cons, ih]

/-- No other location is changed. -/
theorem get?_put_of_ne (tree : FileTree) (node : Node) {location other : Location}
    (h : other ≠ location) : (tree.put location node).get? other = tree.get? other := by
  have hne : (other == location) = false := by simp [h]
  simp [get?, put, List.lookup_cons, hne, lookup_filter_ne _ h]

def homePath (tree : FileTree) : Pathname := .ofBody .top tree.home

/-!
## Following paths
-/

/-- What a path leads to: a file, a folder, or a place in a folder where nothing is. -/
inductive Content where
  | file (bytes : List UInt8)
  | folder
  | free
deriving DecidableEq

/-- A location and what is there. -/
structure Place where
  location : Location
  content : Content

def nameLimit : Nat := 255

def pathLimit : Nat := 4095

def linkLimit : Nat := 40

def isTooLong (name : String) : Bool :=
  nameLimit < Text.byteLength name.toList

/-- Whether a path is too long to be followed, wherever it leads. -/
def isPathTooLong (path : Pathname) : Bool :=
  pathLimit < Text.byteLength path.text.toList

def accept (path : Pathname) : Except Refusal Unit :=
  if path.text.contains '\x00' then .error .nulByte
  else if isPathTooLong path then .error .nameTooLong
  else if path.text.isEmpty then .error .missing
  else .ok ()

/-- Follows segments from a folder on. Where they meet a link, its segments and those
behind it are left to `follow`. -/
def walk (tree : FileTree) (follow : Location -> List String -> Except Refusal Place) :
    Location -> List String -> Except Refusal Place
  | here, [] => .ok { location := here, content := .folder }
  | here, segment :: rest =>
    if Pathname.isSilent segment then walk tree follow here rest
    else if segment = Pathname.up then walk tree follow here.dropLast rest
    else if isTooLong segment then .error .nameTooLong
    else match tree.get? (here ++ [segment]) with
      | some .folder => walk tree follow (here ++ [segment]) rest
      | some (.link target) =>
        follow (if target.isAbsolute then [] else here) (target.segments ++ rest)
      | some (.file bytes) =>
        if rest.isEmpty then .ok { location := here ++ [segment], content := .file bytes }
        else .error .notDirectory
      | none =>
        if rest.isEmpty then .ok { location := here ++ [segment], content := .free }
        else .error .missing

/-- Follows segments from a folder on, over as many links as are allowed. -/
def follow (tree : FileTree) : (links : Nat) -> Location -> List String -> Except Refusal Place
  | 0 => tree.walk fun _ _ => .error .tooManyLinks
  | links + 1 => tree.walk (tree.follow links)

def origin (tree : FileTree) (path : Pathname) : Location :=
  if path.isAbsolute then [] else tree.home

def find (tree : FileTree) (path : Pathname) : Except Refusal Place := do
  accept path
  tree.follow linkLimit (tree.origin path) path.segments

def isFile (tree : FileTree) (path : Pathname) : Bool :=
  match tree.find path with
  | .ok { content := .file _, .. } => true
  | _ => false

def isFolder (tree : FileTree) (path : Pathname) : Bool :=
  match tree.find path with
  | .ok { content := .folder, .. } => true
  | _ => false

def isThere (tree : FileTree) (path : Pathname) : Bool :=
  tree.isFile path || tree.isFolder path

def read (tree : FileTree) (path : Pathname) : Except Unreadable String :=
  match tree.find path with
  | .error refusal => .error (.refused refusal)
  | .ok place =>
    match place.content with
    | .free => .error (.refused .missing)
    | .folder => .error (.refused .isDirectory)
    | .file bytes =>
      match Text.Utf8.decode? bytes with
      | some text => .ok (String.ofList text)
      | none => .error .noUtf8

/-!
## Changing files
-/

/-- The tree with a new folder where a path leads, in a folder that is there. -/
def makeFolder (tree : FileTree) (path : Pathname) : Except Refusal FileTree := do
  accept path
  let place <- tree.follow linkLimit (tree.origin path) path.segments.dropLast
  match place.content, path.segments.getLast? with
  | .free, _ => .error .missing
  | .file _, _ => .error .notDirectory
  | .folder, none => .error .exists
  | .folder, some name =>
    if Pathname.isSilent name || name == Pathname.up then .error .exists
    else if isTooLong name then .error .nameTooLong
    else if (tree.get? (place.location ++ [name])).isSome then .error .exists
    else .ok (tree.put (place.location ++ [name]) .folder)

/-- The tree with folders where a path leads, and wherever it needs one on the way there.
The path is given by its trail. -/
def makeFolders (tree : FileTree) : (trail : List Pathname) -> Except Refusal FileTree
  | [] => .error .missing
  | path :: above =>
    if path.text.isEmpty then .ok tree
    else match tree.makeFolder path with
      | .ok made => .ok made
      | .error .missing => do
        let tree <- tree.makeFolders above
        match tree.makeFolder path with
        | .ok made => .ok made
        | .error refusal => if tree.isFolder path then .ok tree else .error refusal
      | .error refusal => if tree.isFolder path then .ok tree else .error refusal

/-- The tree with a file where a path leads. A path with a slash at its end means a
folder. -/
def write (tree : FileTree) (path : Pathname) (bytes : List UInt8) : Except Refusal FileTree := do
  accept path
  if path.text.endsWith "/" then .error .isDirectory
  else
    let place <- tree.find path
    if place.content = .folder then .error .isDirectory
    else .ok (tree.put place.location (.file bytes))

/-!
## Listing files
-/

/-- The folders that are left out of a listing, wherever they are in it. -/
def skippedFolders : List String := ["node_modules", ".git"]

/-- The files below a location, as locations relative to it: a folder's files and folders
come in the order of their names, and what is in a folder comes in its place. -/
def filesBelow (tree : FileTree) (location : Location) : List Location :=
  let files := tree.nodes.filterMap fun (place, node) =>
    match node, location.isPrefixOf? place with
    | .file _, some rest => if rest.dropLast.any skippedFolders.contains then none else some rest
    | _, _ => none
  files.mergeSort fun a b => !b.lex a fun one two => one < two

end FileTree
end Project
end RemoteImports
