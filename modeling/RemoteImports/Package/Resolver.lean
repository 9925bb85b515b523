import RemoteImports.Package.Listing

/-!
# Knowing the versions

A resolver asks for the installed versions when they are first needed, and never again:
what it was answered, or the message of the failure, is kept.
-/

namespace RemoteImports
namespace Package

/-- A lister, what it was asked so far, and its answer, once it was asked. -/
structure Resolver where
  lister : Lister
  times : Nat := 0
  commandLines : List String := []
  known : Option (Except String VersionMap) := none

def Resolver.isInitialized (resolver : Resolver) : Bool :=
  match resolver.known with
  | some (.ok _) => true
  | _ => false

/-- A computation that may ask for the versions and may fail. -/
abbrev Resolving := ExceptT Failure (StateM Resolver)

def ask : Resolving VersionMap := do
  let resolver <- get
  let listing := resolver.lister.list resolver.times
  let asked := { resolver with
    times := resolver.times + 1
    commandLines := resolver.commandLines ++ listing.commandLine.toList }
  match listing.result with
  | .ok versions =>
    set { asked with known := some (.ok versions) }
    return versions
  | .error failure =>
    set { asked with known := some (.error failure.message) }
    throw failure

def versions : Resolving VersionMap := do
  match (<- get).known with
  | some (.ok versions) => return versions
  | some (.error message) => throw (.listingUnavailable message)
  | none => ask

end Package
end RemoteImports
