import RemoteImports.Json.Problem
import RemoteImports.Package.Manager
import RemoteImports.Pattern.Problem
import RemoteImports.Project.Refusal

/-!
# Failures

Every cause for which the library gives up, and the message for each.
-/

namespace RemoteImports

/-- Why something failed. -/
inductive Failure where
  | refused (refusal : Project.Refusal)
  | unreadableConfig (path : String) (cause : Project.Unreadable)
  | malformedConfig (path : String) (error : Json.Error)
  | invalidConfig (detail : String)
  | invalidPattern (pattern : String) (problem : Pattern.Problem)
  | managerNotFound (manager : Package.Manager)
  | listingFailed (manager : Package.Manager) (status : Package.Status) (complaint : String)
  | malformedListing (manager : Package.Manager) (error : Json.Error)
  | listingUnavailable (earlier : String)
  | other (message : String)

/-- The failure of a configuration that names no package host. -/
def Failure.noHost : Failure := .invalidConfig "`cdn` is required"

/-- The failure of a yarn listing in which no tree of packages was found. -/
def Failure.noTree : Failure := .other "yarn listing produced no dependency tree"

def Failure.message : Failure -> String
  | refused refusal => "IO error: " ++ refusal.text
  | unreadableConfig path cause => "Failed to read config at " ++ path ++ ": " ++ cause.text
  | malformedConfig path error => "Failed to parse config at " ++ path ++ ": " ++ error.text
  | invalidConfig detail => "Invalid config: " ++ detail
  | invalidPattern pattern problem =>
    "Invalid match pattern `" ++ pattern ++ "`: " ++ problem.text
  | managerNotFound manager => "`" ++ manager.name ++ "` not found on PATH"
  | listingFailed manager status complaint =>
    "`" ++ manager.name ++ "` listing exited with " ++ status.text ++ ": " ++ complaint
  | malformedListing manager error =>
    "Failed to parse `" ++ manager.name ++ "` listing output: " ++ error.text
  | listingUnavailable earlier => "Package listing failed earlier: " ++ earlier
  | other message => message

end RemoteImports
