/-!
# Package managers

The two tools that can list the packages of a project, and what a run of one leaves
behind.
-/

namespace RemoteImports
namespace Package

/-- A package manager. -/
inductive Manager where
  | yarn
  | npm
deriving DecidableEq

def Manager.name : Manager -> String
  | yarn => "yarn"
  | npm => "npm"

def Manager.arguments : Manager -> List String
  | yarn => ["list", "--depth=0", "--json"]
  | npm => ["ls", "--all", "--json"]

def Manager.commandLine (manager : Manager) : String :=
  " ".intercalate (manager.name :: manager.arguments)

/-- The file whose presence in a project tells that it is managed by yarn. -/
def lockFile : String := "yarn.lock"

/-- How a program ended. -/
inductive Status where
  | exited (code : Nat)
  | killed (signal : Nat)
deriving DecidableEq

def Status.isSuccess (status : Status) : Bool := status == .exited 0

def signalNames : List String :=
  ["SIGHUP", "SIGINT", "SIGQUIT", "SIGILL", "SIGTRAP", "SIGABRT", "SIGBUS", "SIGFPE", "SIGKILL",
    "SIGUSR1", "SIGSEGV", "SIGUSR2", "SIGPIPE", "SIGALRM", "SIGTERM", "SIGSTKFLT", "SIGCHLD",
    "SIGCONT", "SIGSTOP", "SIGTSTP", "SIGTTIN", "SIGTTOU", "SIGURG", "SIGXCPU", "SIGXFSZ",
    "SIGVTALRM", "SIGPROF", "SIGWINCH", "SIGIO", "SIGPWR", "SIGSYS"]

def Status.text : Status -> String
  | exited code => "exit status: " ++ toString code
  | killed signal =>
    "signal: " ++ toString signal ++
      match signalNames[signal - 1]? with
      | some name => " (" ++ name ++ ")"
      | none => ""

/-- What a run of a program leaves behind: how it ended and what it wrote. -/
structure Run where
  status : Status
  output : List UInt8
  complaints : List UInt8

end Package
end RemoteImports
