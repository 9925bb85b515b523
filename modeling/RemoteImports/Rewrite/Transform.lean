import RemoteImports.Config.File
import RemoteImports.Import.Scan
import RemoteImports.Package.Resolver
import RemoteImports.Rewrite.Statements
import RemoteImports.Script.Printer

/-!
# Rewriting a script

Each import of a script that is eligible is replaced, in its place, by the statements that
load its module from a package host. The text outside these imports is copied as it is.

The installed versions are asked for when the first eligible import is met, so a script
without one needs no package manager.
-/

namespace RemoteImports
namespace Rewrite

open Config Import Package

/-- What an eligible import is to be replaced for: its target, and where that is loaded
from. -/
structure Plan where
  target : Target
  addresses : Addresses
deriving DecidableEq

def planFor (options : Options) (target : Target) : Plan :=
  let suffix := options.rules.suffix? target.name
  { target
    addresses := {
      primary := target.address options.host suffix
      fallback := options.fallback.map fun host => target.address host suffix } }

def plan (options : Options) (source : String) : Resolving (Option Plan) := do
  if options.rules.isEligible source then
    let versions <- versions
    return some (planFor options (.ofSource versions source))
  else return none

def loader (options : Options) : Loader :=
  { shim := options.shim, webpackIgnore := options.webpackIgnore }

def Plan.statements (plan : Plan) (options : Options) (declaration : Declaration) :
    List Script.Stmt :=
  Rewrite.statements (loader options) declaration.bindings plan.target.name plan.addresses

/-- The statements in place of a declaration, if it is eligible. -/
def replacement (options : Options) (declaration : Declaration) :
    Resolving (Option (List Script.Stmt)) := do
  return (<- plan options declaration.source).map fun plan => plan.statements options declaration

/-- What was done about one declaration. -/
inductive Outcome where
  | rewritten (source package : String) (version : Option String) (address : String)
  | skipped (source : String)
deriving DecidableEq

def Outcome.isRewritten : Outcome -> Bool
  | rewritten .. => true
  | skipped _ => false

/-- The source of a declaration about which something was done. -/
def Outcome.source : Outcome -> String
  | rewritten source .. => source
  | skipped source => source

def outcome (declaration : Declaration) : Option Plan -> Outcome
  | some plan =>
    .rewritten declaration.source plan.target.name plan.target.version plan.addresses.primary
  | none => .skipped declaration.source

/-- A script with its imports rewritten, and what was done about each. -/
structure Output where
  code : String
  outcomes : List Outcome

def Output.rewritten (output : Output) : Nat :=
  output.outcomes.countP (·.isRewritten)

def Output.isChanged (output : Output) : Bool := 0 < output.rewritten

/-- The blanks before a place on its line, unless something else is there, too. -/
def indentAt (code : List Char) (place : Nat) : List Char :=
  let before := ((Text.takeBytes place code).reverse.takeWhile (· != '\n')).reverse
  if before.all fun c => c == ' ' || c == '\t' then before else []

def Plan.text (plan : Plan) (options : Options) (code : List Char) (declaration : Declaration) :
    List Char :=
  Script.writeStmts { base := indentAt code declaration.start }
    (plan.statements options declaration)

/-- A text from the place `cursor` on, with other texts in place of some declarations. -/
def splice (cursor : Nat) (rest : List Char) : List (Declaration × List Char) -> List Char
  | [] => rest
  | (declaration, text) :: edits =>
    Text.takeBytes (declaration.start - cursor) rest ++ text
      ++ splice declaration.stop (Text.dropBytes (declaration.stop - cursor) rest) edits

/-- The declarations with their plans, which are made one after the other. -/
def plans (options : Options) (declarations : List Declaration) :
    Resolving (List (Declaration × Option Plan)) :=
  declarations.mapM fun declaration => do
    return (declaration, <- plan options declaration.source)

/-- A script with those of its declarations replaced that have a plan. -/
def apply (options : Options) (code : List Char) (plans : List (Declaration × Option Plan)) :
    Output :=
  let edits := plans.filterMap fun (declaration, plan) =>
    plan.map fun plan => (declaration, plan.text options code declaration)
  { code := String.ofList (splice 0 code edits)
    outcomes := plans.map fun (declaration, plan) => outcome declaration plan }

/-- A script of fewer than `placeLimit` bytes, rewritten. -/
def transform (options : Options) (code : String) : Resolving Output := do
  return apply options code.toList (<- plans options (declarations code))

end Rewrite
end RemoteImports
