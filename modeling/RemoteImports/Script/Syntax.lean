import RemoteImports.Text.Unicode.Alphanumeric

/-!
# Statements

The part of the language of scripts that replacements of imports are written in.

Names that need no quotes are made of letters, digits, `_` and `$` and do not begin with a
digit. Letters and digits are those of Unicode.
-/

namespace RemoteImports
namespace Script

def isIdentifierStart (c : Char) : Bool :=
  Text.Unicode.isAlphabetic c || c == '_' || c == '$'

def isIdentifierPart (c : Char) : Bool :=
  isIdentifierStart c || Text.Unicode.isNumeric c

def isIdentifier (name : String) : Bool :=
  match name.toList with
  | [] => false
  | c :: cs => isIdentifierStart c && cs.all isIdentifierPart

/-- An expression. -/
inductive Expr where
  | name (name : String)
  | text (value : String)
  | member (object : Expr) (property : String)
  | call (callee : Expr) (arguments : List Expr)
  /-- The expression that loads the module at an address. -/
  | load (address : Expr)
  | await (argument : Expr)
  | assign (target value : Expr)
  /-- An expression with a block comment before it. -/
  | commented (comment : String) (expr : Expr)
deriving Inhabited

/-- The key of a property. -/
inductive Key where
  | name (name : String)
  | text (value : String)
deriving DecidableEq

/-- The key for a name, in quotes only where they are needed. -/
def Key.ofName (name : String) : Key :=
  if isIdentifier name then .name name else .text name

mutual

/-- What a value is bound to: a name, or the properties of an object. -/
inductive Binding where
  | name (name : String)
  | object (properties : List Property)

/-- A property and what it is bound to. A shorthand leaves the key out. -/
inductive Property where
  | bind (key : Key) (value : Binding) (shorthand : Bool)

end

instance : Inhabited Binding := ⟨.object []⟩

def Property.ofNames (key binding : String) : Property :=
  .bind (.ofName key) (.name binding) (key == binding && isIdentifier key)

/-- How names are declared. -/
inductive Keyword where
  | letKeyword
  | constKeyword
deriving DecidableEq

/-- One declared binding and its value. -/
structure Declarator where
  binding : Binding
  value : Option Expr

/-- A statement. -/
inductive Stmt where
  | declare (keyword : Keyword) (declarators : List Declarator)
  | tryOnly (body : List Stmt)
  | tryCatch (body : List Stmt) (caught : Option Binding) (handler : List Stmt)
  | expr (expr : Expr)
deriving Inhabited

end Script
end RemoteImports
