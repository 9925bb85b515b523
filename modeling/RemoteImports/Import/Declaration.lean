/-!
# Import declarations

A declaration binds names of a script to what a module exports: the whole module, its
default export, or exports by name. The same as a set of bindings, sorted by kind, is what
a replacement has to bind again.
-/

namespace RemoteImports
namespace Import

/-- One binding of a declaration. -/
inductive Specifier where
  | default (binding : String)
  | namespace (binding : String)
  | named (imported binding : String)
deriving DecidableEq

def Specifier.local : Specifier -> String
  | .default binding => binding
  | .namespace binding => binding
  | .named _ binding => binding

/-- A declaration in a script: what it binds, the module it names, and the bytes it takes
up. -/
structure Declaration where
  specifiers : List Specifier
  source : String
  start : Nat
  stop : Nat
deriving DecidableEq

/-- The number of places that 32 bits can tell apart. -/
def placeLimit : Nat := 0x100000000

/-- The places of a declaration are kept in 32 bits. -/
def kept (place : Nat) : Nat :=
  place % placeLimit

/-- A declaration with its places as they are kept. -/
def Declaration.kept (declaration : Declaration) : Declaration :=
  { declaration with
    start := Import.kept declaration.start
    stop := Import.kept declaration.stop }

/-- An export by its name and the name it is bound to. -/
structure Named where
  imported : String
  binding : String
deriving DecidableEq

/-- The bindings of a declaration by kind. -/
structure Bindings where
  whole : Option String
  default : Option String
  named : List Named
deriving DecidableEq

/-- The bindings among specifiers: the first of the whole module, the first of the default
export, and all by name. -/
def Bindings.ofSpecifiers (specifiers : List Specifier) : Bindings :=
  { whole := specifiers.findSome? fun
      | .namespace binding => some binding
      | _ => none
    default := specifiers.findSome? fun
      | .default binding => some binding
      | _ => none
    named := specifiers.filterMap fun
      | .named imported binding => some ⟨imported, binding⟩
      | _ => none }

def Declaration.bindings (declaration : Declaration) : Bindings :=
  .ofSpecifiers declaration.specifiers

/-- Every name that is bound: the whole module's first, then the default export's, then
the others. -/
def Bindings.locals (bindings : Bindings) : List String :=
  bindings.whole.toList ++ bindings.default.toList ++ bindings.named.map (·.binding)

/-- Whether nothing is bound, so that the module is only run. -/
def Bindings.isEmpty (bindings : Bindings) : Bool :=
  bindings.whole.isNone && bindings.default.isNone && bindings.named.isEmpty

end Import
end RemoteImports
