import RemoteImports.Import.Declaration
import RemoteImports.Rewrite.CamelCase
import RemoteImports.Script.Syntax

/-!
# The statements in place of an import

An import becomes a declaration of its names from the module loaded at an address. With a
second address, the module is loaded from there if loading it from the first fails at
once; the module is then kept in a variable of its own, unless the import binds it whole.
-/

namespace RemoteImports
namespace Rewrite

open Import Script

/-- Where a module is loaded from. -/
structure Addresses where
  primary : String
  fallback : Option String
deriving DecidableEq

/-- How a module is loaded: by a loader object or by the language itself, and whether
bundlers are told to leave it alone. -/
structure Loader where
  shim : Option String
  webpackIgnore : Bool

def ignoreComment : String := " webpackIgnore: true "

/-- The name that a failed load is caught as. -/
def caughtName : String := "err"

def Loader.load (loader : Loader) (address : String) : Expr :=
  let literal := Expr.text address
  let literal := if loader.webpackIgnore then .commented ignoreComment literal else literal
  match loader.shim with
  | some shim => .call (.member (.name shim) "import") [literal]
  | none => .load literal

def exportBinding (bindings : Bindings) : Binding :=
  .object ((bindings.default.toList.map fun binding => .ofNames "default" binding)
    ++ bindings.named.map fun named => .ofNames named.imported named.binding)

/-- The declaration of one constant or of several from one value. -/
def constant (binding : Binding) (value : Expr) : Stmt :=
  .declare .constKeyword [{ binding, value := some value }]

/-- The declaration of the default export from the whole module, where both are bound. -/
def defaultFrom (bindings : Bindings) (whole : String) : List Stmt :=
  bindings.default.toList.map fun binding =>
    constant (.object [.ofNames "default" binding]) (.name whole)

def direct (loader : Loader) (bindings : Bindings) (address : String) : List Stmt :=
  let module := Expr.await (loader.load address)
  match bindings.whole with
  | some whole => constant (.name whole) module :: defaultFrom bindings whole
  | none => [constant (exportBinding bindings) module]

/-- The name of the variable that a module is kept in. -/
def resultName (package : String) : String :=
  camelCase package ++ "Result"

/-- The statements that load a module from a second address if the first fails. -/
def withFallback (loader : Loader) (bindings : Bindings) (package primary fallback : String) :
    List Stmt :=
  let name := bindings.whole.getD (resultName package)
  let assign (address : String) : Stmt := .expr (.assign (.name name) (loader.load address))
  let loading : List Stmt :=
    [.declare .letKeyword [{ binding := .name name, value := none }],
      .tryCatch [assign primary] (some (.name caughtName)) [assign fallback]]
  match bindings.whole with
  | some whole => loading ++ defaultFrom bindings whole
  | none => loading ++ [constant (exportBinding bindings) (.name name)]

def statements (loader : Loader) (bindings : Bindings) (package : String) (addresses : Addresses) :
    List Stmt :=
  match addresses.fallback with
  | none => direct loader bindings addresses.primary
  | some fallback => withFallback loader bindings package addresses.primary fallback

end Rewrite
end RemoteImports
