import RemoteImports.Script.Literal
import RemoteImports.Script.Syntax

/-!
# Writing statements

One statement per line, blocks indented, text literals between double quotes.
-/

namespace RemoteImports
namespace Script

/-- How lines after the first begin: with `base`, then with `indent` once for each
enclosing block. -/
structure Layout where
  indent : List Char := [' ', ' ']
  base : List Char := []

def Layout.line (layout : Layout) (depth : Nat) : List Char :=
  '\n' :: (layout.base ++ (List.replicate depth layout.indent).flatten)

def separated (separator : List Char) (texts : List (List Char)) : List Char :=
  separator.intercalate texts

mutual

def writeExpr : Expr -> List Char
  | .name name => name.toList
  | .text value => writeLiteral value.toList
  | .member object property => writeExpr object ++ '.' :: property.toList
  | .call callee arguments =>
    writeExpr callee ++ '(' :: (separated [',', ' '] (writeArguments arguments) ++ [')'])
  | .load address => "import(".toList ++ writeExpr address ++ [')']
  | .await argument => "await ".toList ++ writeExpr argument
  | .assign target value => writeExpr target ++ " = ".toList ++ writeExpr value
  | .commented comment expr => "/*".toList ++ comment.toList ++ "*/ ".toList ++ writeExpr expr

def writeArguments : List Expr -> List (List Char)
  | [] => []
  | expr :: exprs => writeExpr expr :: writeArguments exprs

end

def writeKey : Key -> List Char
  | .name name => name.toList
  | .text value => writeLiteral value.toList

mutual

def writeBinding : Binding -> List Char
  | .name name => name.toList
  | .object [] => ['{', '}']
  | .object (property :: properties) =>
    ['{', ' '] ++ separated [',', ' '] (writeProperties (property :: properties)) ++ [' ', '}']

def writeProperties : List Property -> List (List Char)
  | [] => []
  | property :: properties => writeProperty property :: writeProperties properties

def writeProperty : Property -> List Char
  | .bind _ value true => writeBinding value
  | .bind key value false => writeKey key ++ ':' :: ' ' :: writeBinding value

end

def Keyword.text : Keyword -> List Char
  | letKeyword => "let".toList
  | constKeyword => "const".toList

def writeDeclarator (declarator : Declarator) : List Char :=
  writeBinding declarator.binding ++
    match declarator.value with
    | some value => " = ".toList ++ writeExpr value
    | none => []

def writeCaught : Option Binding -> List Char
  | some binding => '(' :: (writeBinding binding ++ [')', ' '])
  | none => []

mutual

def writeStmt (layout : Layout) (depth : Nat) : Stmt -> List Char
  | .declare keyword declarators =>
    keyword.text ++ ' ' :: (separated [',', ' '] (declarators.map writeDeclarator) ++ [';'])
  | .tryOnly body => "try ".toList ++ writeBlock layout depth body
  | .tryCatch body caught handler =>
    "try ".toList ++ writeBlock layout depth body ++ " catch ".toList ++ writeCaught caught
      ++ writeBlock layout depth handler
  | .expr expr => writeExpr expr ++ [';']

def writeBlock (layout : Layout) (depth : Nat) : List Stmt -> List Char
  | [] => ['{', '}']
  | stmt :: stmts =>
    '{' :: (layout.line (depth + 1) ++ writeStmt layout (depth + 1) stmt
      ++ writeLines layout (depth + 1) stmts ++ layout.line depth ++ ['}'])

def writeLines (layout : Layout) (depth : Nat) : List Stmt -> List Char
  | [] => []
  | stmt :: stmts =>
    layout.line depth ++ writeStmt layout depth stmt ++ writeLines layout depth stmts

end

theorem writeStmt_declare (layout : Layout) (depth : Nat) (keyword : Keyword)
    (declarators : List Declarator) :
    writeStmt layout depth (.declare keyword declarators) =
      keyword.text ++ ' ' ::
        (separated [',', ' '] (declarators.map writeDeclarator) ++ [';']) := rfl

def writeStmts (layout : Layout) : List Stmt -> List Char
  | [] => []
  | stmt :: stmts => writeStmt layout 0 stmt ++ writeLines layout 0 stmts

end Script
end RemoteImports
