import RemoteImports.Decimal.Written
import RemoteImports.Json.Value

/-!
# Writing JSON

Two layouts: without any blanks, and with one item or member per line, indented by two
spaces.
-/

namespace RemoteImports
namespace Json

def writeChar (c : Char) : List Char :=
  if c = '"' then ['\\', '"']
  else if c = '\\' then ['\\', '\\']
  else if c.toNat = 8 then ['\\', 'b']
  else if c = '\t' then ['\\', 't']
  else if c = '\n' then ['\\', 'n']
  else if c.toNat = 12 then ['\\', 'f']
  else if c = '\r' then ['\\', 'r']
  else if c.toNat < 0x20 then ['\\', 'u'] ++ Text.hexDigits 4 c.toNat
  else [c]

def writeString (s : String) : List Char :=
  '"' :: (s.toList.flatMap writeChar ++ ['"'])

def writeInteger (n : Int) : List Char :=
  if n < 0 then '-' :: Text.decimal n.natAbs else Text.decimal n.natAbs

mutual

def compact : Json -> List Char
  | null => ['n', 'u', 'l', 'l']
  | bool true => ['t', 'r', 'u', 'e']
  | bool false => ['f', 'a', 'l', 's', 'e']
  | integer n => writeInteger n
  | float x => (Decimal.written x).toList
  | string s => writeString s
  | array items => '[' :: (compactItems items ++ [']'])
  | object members => '{' :: (compactMembers members ++ ['}'])

def compactItems : List Json -> List Char
  | [] => []
  | [item] => compact item
  | item :: next :: items => compact item ++ ',' :: compactItems (next :: items)

def compactMembers : List (String × Json) -> List Char
  | [] => []
  | [(name, value)] => writeString name ++ ':' :: compact value
  | (name, value) :: next :: members =>
    writeString name ++ ':' :: (compact value ++ ',' :: compactMembers (next :: members))

end

def line (depth : Nat) : List Char :=
  '\n' :: List.replicate (2 * depth) ' '

mutual

def pretty (depth : Nat) : Json -> List Char
  | null => ['n', 'u', 'l', 'l']
  | bool true => ['t', 'r', 'u', 'e']
  | bool false => ['f', 'a', 'l', 's', 'e']
  | integer n => writeInteger n
  | float x => (Decimal.written x).toList
  | string s => writeString s
  | array [] => ['[', ']']
  | array (item :: items) =>
    '[' :: (line (depth + 1) ++ (pretty (depth + 1) item ++
      (prettyItems (depth + 1) items ++ (line depth ++ [']']))))
  | object [] => ['{', '}']
  | object ((name, value) :: members) =>
    '{' :: (line (depth + 1) ++ (writeString name ++ ':' :: ' ' :: (pretty (depth + 1) value ++
      (prettyMembers (depth + 1) members ++ (line depth ++ ['}'])))))

def prettyItems (depth : Nat) : List Json -> List Char
  | [] => []
  | item :: items => ',' :: (line depth ++ (pretty depth item ++ prettyItems depth items))

def prettyMembers (depth : Nat) : List (String × Json) -> List Char
  | [] => []
  | (name, value) :: members =>
    ',' :: (line depth ++ (writeString name ++ ':' :: ' ' :: (pretty depth value ++
      prettyMembers depth members)))

end

def toText (value : Json) : String :=
  String.ofList (compact value)

def toLines (value : Json) : String :=
  String.ofList (pretty 0 value)

end Json
end RemoteImports
