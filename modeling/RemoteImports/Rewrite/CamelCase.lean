import RemoteImports.Script.Syntax
import RemoteImports.Text.Unicode.CaseMap

/-!
# Names in camel case

A name for a package that can stand in a script: without its scope, the words run
together, the first letter small and the first letter of every other word great.
-/

namespace RemoteImports
namespace Rewrite

def unscoped (name : List Char) : List Char :=
  match name with
  | '@' :: rest =>
    match rest.dropWhile (· != '/') with
    | _ :: rest => rest
    | [] => name
  | _ => name

/-- The words of a name: its runs of characters that an identifier may hold. -/
def words (name : List Char) : List (List Char) :=
  (name.splitBy fun a b => Script.isIdentifierPart a == Script.isIdentifierPart b).filter
    (·.all Script.isIdentifierPart)

def withFirst (change : Char -> List Char) : List Char -> List Char
  | [] => []
  | c :: cs => change c ++ cs

def joinWords : List (List Char) -> List Char
  | [] => []
  | word :: words =>
    withFirst Text.Unicode.toLower word ++ words.flatMap (withFirst Text.Unicode.toUpper)

/-- A name in camel case. An underscore comes first where there would be nothing or a
digit. -/
def camelCase (name : String) : String :=
  let joined := joinWords (words (unscoped name.toList))
  match joined with
  | [] => "_"
  | c :: _ => String.ofList (if c.isDigit then '_' :: joined else joined)

end Rewrite
end RemoteImports
