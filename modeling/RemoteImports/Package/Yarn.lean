import RemoteImports.Failure
import RemoteImports.Json.Reader
import RemoteImports.Package.Target
import RemoteImports.Text.Segments

/-!
# Listings by yarn

A listing is a sequence of lines. Those that are tree records hold the names of packages,
each with its version behind the last `@`; all other lines are passed over. Of two entries
with one name the later counts.
-/

namespace RemoteImports
namespace Package
namespace Yarn

/-- One line of a listing: what kind of record it is, and its data. -/
structure Record where
  kind : String
  data : Json

/-- A record of which some members may not have been read yet. -/
structure Draft where
  kind : Option String := none
  data : Option Json := none

def member (depth : Nat) (name : String) (draft : Draft) : Json.Reader Draft :=
  match name with
  | "type" =>
    Json.readOnce name draft.kind Json.readText fun kind =>
      { draft with kind := some kind }
  | "data" =>
    Json.readOnce name draft.data (Json.readValue depth) fun data =>
      { draft with data := some data }
  | _ => Json.readOther draft

def readMembers (depth : Nat) : Json.Reader Record := fun cs => do
  let (draft, cs) <- Json.readMembers (member depth) cs.length true {} cs
  match draft.kind with
  | some kind => return ({ kind, data := draft.data.getD .null }, cs)
  | none => .error (.pending (.missingField "type") cs)

def readFields (depth : Nat) : Json.Reader Record := fun cs => do
  let (kind, cs) <- Json.readField true Json.readText cs
  match kind with
  | none => .error (.pending (.tooFewElements 0 "YarnRecord") cs)
  | some kind =>
    let (data, cs) <- Json.readField false (Json.readValue depth) cs
    return ({ kind, data := data.getD .null }, cs)

def readRecord (depth : Nat) : Json.Reader Record :=
  Json.readRecord "YarnRecord" readFields readMembers depth

def treeData? (line : List Char) : Option Json :=
  match Json.parse readRecord (String.ofList line) with
  | .ok record => if record.kind = "tree" then some record.data else none
  | .error _ => none

/-- The problem of a value of another shape than the expected one. -/
def mismatch {α : Type} (value : Json) (expected : Json.Expected) : Except Json.Problem α :=
  .error (.wrongType (Json.found value) expected)

def entryName (entry : Json) : Except Json.Problem String :=
  let text (value : Json) : Except Json.Problem String :=
    match value with
    | .string name => .ok name
    | value => mismatch value .string
  match entry with
  | .array [] => .error (.tooFewElements 0 "YarnTree")
  | .array (value :: rest) => do
    let name <- text value
    if rest.isEmpty then return name else .error (.tooManyElements (rest.length + 1))
  | .object members =>
    match members.lookup "name" with
    | some value => text value
    | none => .error (.missingField "name")
  | value => mismatch value (.record "YarnTree")

def listNames (entries : Json) : Except Json.Problem (List String) :=
  match entries with
  | .array entries => entries.mapM entryName
  | value => mismatch value .sequence

def treeNames (data : Json) : Except Json.Problem (List String) :=
  match data with
  | .array [] => .ok []
  | .array (entries :: rest) => do
    let names <- listNames entries
    if rest.isEmpty then return names else .error (.tooManyElements (rest.length + 1))
  | .object members =>
    match members.lookup "trees" with
    | some entries => listNames entries
    | none => .ok []
  | value => mismatch value (.record "YarnTreeData")

/-- The name and the version of an entry: before and behind its last `@`, neither of them
empty. -/
def nameVersion? (entry : String) : Option (String × String) :=
  let reversed := entry.toList.reverse
  let version := (reversed.takeWhile (· != '@')).reverse
  match reversed.dropWhile (· != '@') with
  | '@' :: c :: name =>
    if version.isEmpty then none
    else some (String.ofList (c :: name).reverse, String.ofList version)
  | _ => none

def lines : List Char -> List (List Char)
  | [] => [[]]
  | c :: cs =>
    if c = '\n' then [] :: lines cs
    else match lines cs with
      | [] => [[c]]
      | line :: rest => (c :: line) :: rest

/-- The data of all tree records of a listing, in their order. -/
def trees (output : String) : List Json :=
  (lines output.toList).filterMap fun line =>
    let line := Text.trim line
    if line.isEmpty then none else treeData? line

def versions (output : String) : Except Failure VersionMap :=
  match trees output with
  | [] => .error .noTree
  | trees =>
    match trees.mapM treeNames with
    | .error problem => .error (.malformedListing .yarn { problem, position := none })
    | .ok names => .ok (.ofList (names.flatten.filterMap nameVersion?))

end Yarn
end Package
end RemoteImports
