import RemoteImports.Failure
import RemoteImports.Json.Reader
import RemoteImports.Package.Target

/-!
# Listings by npm

A listing is a tree of packages. The tree is gone through with a queue, so level by level,
and of two packages with one name the first that has a version counts.
-/

namespace RemoteImports
namespace Package
namespace Npm

/-- A package in a tree: its version, if it is given, and the packages it depends on, in
the order of their names. -/
inductive Node where
  | node (version : Option String) (dependencies : List (String × Node))

instance : Inhabited Node := ⟨.node none []⟩

def Node.version : Node -> Option String
  | node version _ => version

def Node.dependencies : Node -> List (String × Node)
  | node _ dependencies => dependencies

/-!
## Reading a tree
-/

/-- A package of which some members may not have been read yet. -/
structure Draft where
  version : Option (Option String) := none
  dependencies : Option (List (String × Node)) := none

def Draft.node (draft : Draft) : Node :=
  .node (draft.version.getD none) (draft.dependencies.getD [])

/-- Reads the packages that a package depends on, each by `read`. -/
def readDependencies (read : Json.Reader Node) (depth : Nat) :
    Json.Reader (List (String × Node)) :=
  Json.readObject (fun _ => Json.readEntry read KeyMap.insertEntry) [] depth

def member (read : Json.Reader Node) (depth : Nat) (name : String) (draft : Draft) :
    Json.Reader Draft :=
  match name with
  | "version" =>
    Json.readOnce name draft.version (Json.readOptional Json.readText) fun version =>
      { draft with version := some version }
  | "dependencies" =>
    Json.readOnce name draft.dependencies (readDependencies read depth) fun dependencies =>
      { draft with dependencies := some dependencies }
  | _ => Json.readOther draft

def readMembers (read : Json.Reader Node) (depth : Nat) : Json.Reader Node := fun cs => do
  let (draft, cs) <- Json.readMembers (member read depth) cs.length true {} cs
  return (draft.node, cs)

def readFields (read : Json.Reader Node) (depth : Nat) : Json.Reader Node := fun cs => do
  let (version, cs) <- Json.readField true (Json.readOptional Json.readText) cs
  let (dependencies, cs) <- Json.readField false (readDependencies read depth) cs
  return (({ version, dependencies } : Draft).node, cs)

def readNodeWith (read : Json.Reader Node) (depth : Nat) : Json.Reader Node :=
  Json.readRecord "NpmNode" (readFields read) (readMembers read) depth

/-- Reads a package. Its dependencies are an object within its own, so they are two levels
down. -/
def readNode : (depth : Nat) -> Json.Reader Node
  | 0 => readNodeWith tooDeep 0
  | 1 => readNodeWith tooDeep 1
  | depth + 2 => readNodeWith (readNode depth) (depth + 2)
where
  /-- Reads nothing, since the level is too deep. -/
  tooDeep : Json.Reader Node := fun cs => .error (Json.stopOn .nestedTooDeep cs)

/-!
## Going through a tree
-/

mutual

def Node.count : Node -> Nat
  | .node _ dependencies => countAll dependencies + 1

def countAll : List (String × Node) -> Nat
  | [] => 0
  | (_, node) :: nodes => node.count + countAll nodes

end

/-- The number of packages in the trees that wait in a queue. -/
def waiting : List Node -> Nat
  | [] => 0
  | node :: queue => node.count + waiting queue

theorem Node.count_eq (node : Node) : node.count = countAll node.dependencies + 1 := by
  cases node
  simp [Node.count, Node.dependencies]

theorem waiting_append (a b : List Node) : waiting (a ++ b) = waiting a + waiting b := by
  induction a with
  | nil =>
      simp [waiting]
  | cons node a ih =>
      simp [waiting, ih, Nat.add_assoc]

theorem waiting_map_snd (entries : List (String × Node)) :
    waiting (entries.map Prod.snd) = countAll entries := by
  induction entries with
  | nil =>
      rfl
  | cons entry entries ih =>
      rw [List.map_cons, waiting, ih, countAll]

/-- Adds the version of a package, unless the package has none or one of its name has been
added. -/
def offer (map : VersionMap) (entry : String × Node) : VersionMap :=
  match entry.2.version with
  | some version => if (map.get? entry.1).isSome then map else map.insert entry.1 version
  | none => map

/-- Takes the packages out of a queue, one after the other. What a package depends on is
offered to the map and put at the end of the queue. -/
def collect (map : VersionMap) (queue : List Node) : VersionMap :=
  match queue with
  | [] => map
  | node :: queue =>
    collect (node.dependencies.foldl offer map) (queue ++ node.dependencies.map Prod.snd)
termination_by waiting queue
decreasing_by
  rw [waiting_append, waiting_map_snd, waiting, node.count_eq]
  omega

def Node.versions (root : Node) : VersionMap :=
  collect .empty [root]

def versions (output : String) : Except Failure VersionMap :=
  match Json.parse readNode output with
  | .error error => .error (.malformedListing .npm error)
  | .ok root => .ok root.versions

end Npm
end Package
end RemoteImports
