import RemoteImports.KeyMap
import RemoteImports.Text.Segments

/-!
# What an import names

The source of an import names a package and a path below it. Which part of it is the
package's name, one segment or two, is told by the versions that are installed: the first
segment if it has a version, and else the first two.
-/

namespace RemoteImports

abbrev VersionMap := KeyMap String

namespace Package

/-- A package, its installed version if it is known, and the path below it. -/
structure Target where
  name : String
  version : Option String
  subpath : List String
deriving DecidableEq

def Target.ofSource (versions : VersionMap) (source : String) : Target :=
  match (Text.segments source.toList).map String.ofList with
  | [] => { name := "", version := none, subpath := [] }
  | one :: rest =>
    match versions.get? one, rest with
    | some version, rest => { name := one, version := some version, subpath := rest }
    | none, [] => { name := one, version := none, subpath := [] }
    | none, two :: rest =>
      let name := one ++ "/" ++ two
      { name, version := versions.get? name, subpath := rest }

def Target.isResolved (target : Target) : Bool := target.version.isSome

def unknownVersion : String := "undefined"

def withoutTrailingSlashes (base : String) : String :=
  String.ofList (base.toList.reverse.dropWhile (· == '/')).reverse

/-- The address of a target at a package host, with a suffix if one is given. -/
def Target.address (target : Target) (host : String) (suffix : Option String) : String :=
  withoutTrailingSlashes host ++ "/" ++ target.name ++ "@" ++ target.version.getD unknownVersion
    ++ String.join (target.subpath.map ("/" ++ ·)) ++ suffix.getD ""

end Package
end RemoteImports
