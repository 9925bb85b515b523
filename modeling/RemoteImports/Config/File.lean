import RemoteImports.Failure
import RemoteImports.Json.Printer
import RemoteImports.Json.Reader
import RemoteImports.Package.Target
import RemoteImports.Pattern.Match
import RemoteImports.Pattern.Parser
import RemoteImports.Text.Segments

/-!
# Configurations

A rule is a pattern, and perhaps a suffix. Rules are asked two questions: an import is
eligible if every pattern matches its source, and the suffix of a package is that of the
first rule that has one and whose pattern matches the package's name.

In a configuration as it is written every member may be absent. A rule is written as a
pattern, as a list of one pattern, or as a pair of a pattern and a value, of which only a
text counts as a suffix. Options are a configuration that has been checked: it names a
package host, and its patterns have been read.
-/

namespace RemoteImports

/-- A pattern and perhaps a suffix. -/
structure Rule where
  pattern : Pattern.Tree
  suffix : Option String

abbrev Rules := List Rule

def Rule.parse (pattern : String) (suffix : Option String) : Except Failure Rule :=
  match Pattern.parse pattern with
  | .ok tree => .ok { pattern := tree, suffix }
  | .error problem => .error (.invalidPattern pattern problem)

/-- Reads the patterns of rules; the first that cannot be read is the failure. -/
def Rules.parse (rules : List (String × Option String)) : Except Failure Rules :=
  rules.mapM fun (pattern, suffix) => Rule.parse pattern suffix

def Rules.isEligible (rules : Rules) (source : String) : Bool :=
  rules.all fun rule => rule.pattern.isMatch source

def Rules.suffix? (rules : Rules) (package : String) : Option String :=
  (rules.find? fun rule => rule.suffix.isSome && rule.pattern.isMatch package).bind (·.suffix)

namespace Config

/-- A rule as it is written. -/
inductive MatchEntry where
  | pair (pattern : String) (value : Json)
  | gate (pattern : String)
  | bare (pattern : String)

def MatchEntry.parts : MatchEntry -> String × Option String
  | pair pattern (.string suffix) => (pattern, some suffix)
  | pair pattern _ => (pattern, none)
  | gate pattern => (pattern, none)
  | bare pattern => (pattern, none)

/-- A rule as it is given on a command line: a pattern, and perhaps a suffix behind the
first `=`. -/
def MatchEntry.ofArgument (argument : String) : MatchEntry :=
  let cs := argument.toList
  match cs.dropWhile (· != '=') with
  | [] => .bare argument
  | _ :: suffix =>
    .pair (String.ofList (cs.takeWhile (· != '='))) (.string (String.ofList suffix))

def MatchEntry.ofJson? : Json -> Option MatchEntry
  | .array [.string pattern, value] => some (.pair pattern value)
  | .array [.string pattern] => some (.gate pattern)
  | .string pattern => some (.bare pattern)
  | _ => none

def MatchEntry.toJson : MatchEntry -> Json
  | pair pattern value => .array [.string pattern, value]
  | gate pattern => .array [.string pattern]
  | bare pattern => .string pattern

/-- A configuration as it is written. -/
structure File where
  host : Option String := none
  fallback : Option String := none
  shim : Option String := none
  entries : List MatchEntry := []
  webpackIgnore : Option Bool := none
  versions : Option VersionMap := none
  manager : Option Package.Manager := none

/-!
## Reading
-/

def readEntry (depth : Nat) : Json.Reader MatchEntry := fun cs => do
  let (value, cs) <- Json.readValue depth cs
  match MatchEntry.ofJson? value with
  | some found => return (found, cs)
  | none => .error (.pending (.noVariant "MatchEntry") cs)

def readManager (depth : Nat) : Json.Reader Package.Manager :=
  Json.readVariant ("yarn", .yarn) ("npm", .npm) depth

/-- A configuration of which some members may not have been read yet. -/
structure Draft where
  host : Option (Option String) := none
  fallback : Option (Option String) := none
  shim : Option (Option String) := none
  entries : Option (List MatchEntry) := none
  webpackIgnore : Option (Option Bool) := none
  versions : Option (Option VersionMap) := none
  manager : Option (Option Package.Manager) := none

def Draft.file (draft : Draft) : File :=
  { host := draft.host.getD none
    fallback := draft.fallback.getD none
    shim := draft.shim.getD none
    entries := draft.entries.getD []
    webpackIgnore := draft.webpackIgnore.getD none
    versions := draft.versions.getD none
    manager := draft.manager.getD none }

def member (depth : Nat) (name : String) (draft : Draft) : Json.Reader Draft :=
  let text := Json.readOptional Json.readText
  match name with
  | "cdn" => Json.readOnce name draft.host text fun x => { draft with host := some x }
  | "fallback" => Json.readOnce name draft.fallback text fun x => { draft with fallback := some x }
  | "shim" => Json.readOnce name draft.shim text fun x => { draft with shim := some x }
  | "matches" =>
    Json.readOnce name draft.entries (Json.readList readEntry depth) fun x =>
      { draft with entries := some x }
  | "webpackIgnore" =>
    Json.readOnce name draft.webpackIgnore (Json.readOptional Json.readBool) fun x =>
      { draft with webpackIgnore := some x }
  | "versions" =>
    Json.readOnce name draft.versions (Json.readOptional (Json.readTexts depth)) fun x =>
      { draft with versions := some x }
  | "packageManager" =>
    Json.readOnce name draft.manager (Json.readOptional (readManager depth)) fun x =>
      { draft with manager := some x }
  | _ => Json.readOther draft

def readMembers (depth : Nat) : Json.Reader File := fun cs => do
  let (draft, cs) <- Json.readMembers (member depth) cs.length true {} cs
  return (draft.file, cs)

def readFields (depth : Nat) : Json.Reader File := fun cs => do
  let text := Json.readOptional Json.readText
  let (host, cs) <- Json.readField true text cs
  let (fallback, cs) <- Json.readField false text cs
  let (shim, cs) <- Json.readField false text cs
  let (entries, cs) <- Json.readField false (Json.readList readEntry depth) cs
  let (webpackIgnore, cs) <- Json.readField false (Json.readOptional Json.readBool) cs
  let (versions, cs) <- Json.readField false (Json.readOptional (Json.readTexts depth)) cs
  let (manager, cs) <- Json.readField false (Json.readOptional (readManager depth)) cs
  let draft : Draft := { host, fallback, shim, entries, webpackIgnore, versions, manager }
  return (draft.file, cs)

def readFile (depth : Nat) : Json.Reader File :=
  Json.readRecord "ConfigFile" readFields readMembers depth

/-- The configuration that a text holds, which was found at a path. -/
def File.parse (path text : String) : Except Failure File :=
  match Json.parse readFile text with
  | .ok file => .ok file
  | .error error => .error (.malformedConfig path error)

/-!
## Writing
-/

/-- The members of a configuration in the order in which they are written. -/
def File.members (file : File) : List (String × Json) := [
  ("cdn", .ofOption file.host),
  ("fallback", .ofOption file.fallback),
  ("shim", .ofOption file.shim),
  ("matches", .array (file.entries.map MatchEntry.toJson)),
  ("webpackIgnore", (file.webpackIgnore.map Json.bool).getD .null),
  ("versions", (file.versions.map Json.ofTexts).getD .null),
  ("packageManager", .ofOption (file.manager.map Package.Manager.name))]

def File.toJson (file : File) : Json :=
  .ofMembers file.members

/-!
## Checking
-/

/-- What a rewrite of imports is to do. -/
structure Options where
  host : String
  fallback : Option String := none
  shim : Option String := none
  rules : Rules := []
  webpackIgnore : Bool := false
  versions : Option VersionMap := none
  manager : Option Package.Manager := none

def File.options (file : File) : Except Failure Options := do
  match file.host.filter fun host => !(Text.trim host.toList).isEmpty with
  | none => throw .noHost
  | some host =>
    let rules <- Rules.parse (file.entries.map MatchEntry.parts)
    return {
      host, rules
      fallback := file.fallback
      shim := file.shim
      webpackIgnore := file.webpackIgnore.getD false
      versions := file.versions
      manager := file.manager }

end Config
end RemoteImports
