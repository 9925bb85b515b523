import RemoteImports.Decimal.Written
import RemoteImports.Text.Bytes
import RemoteImports.Text.Shown

/-!
# What can be wrong with a JSON text

A text is refused for one problem: either it is no JSON, or it holds a value of another
shape than the one asked for. The problem comes with the place in the text where it was
noticed, if the text is still at hand.
-/

namespace RemoteImports
namespace Json

/-- What stood where something else was expected. -/
inductive Found where
  | null
  | bool (value : Bool)
  | integer (value : Int)
  | float (value : Float)
  | string (value : String)
  | sequence
  | map

/-- What was expected. -/
inductive Expected where
  | string
  | boolean
  | sequence
  | map
  | unit
  | record (title : String)

/-- Why a text is refused. -/
inductive Problem where
  | eofInValue
  | eofInList
  | eofInObject
  | eofInString
  | expectedValue
  | expectedIdent
  | expectedColon
  | expectedListCommaOrEnd
  | expectedObjectCommaOrEnd
  | keyMustBeString
  | trailingComma
  | trailingCharacters
  | invalidNumber
  | numberOutOfRange
  | invalidEscape
  | loneSurrogate
  | unfinishedSurrogate
  | controlCharacter
  | nestedTooDeep
  | wrongType (found : Found) (expected : Expected)
  | unknownVariant (name first second : String)
  | noVariant (type : String)
  | duplicateField (name : String)
  | missingField (name : String)
  | tooManyElements (length : Nat)
  | tooFewElements (length : Nat) (title : String)

def Found.text : Found -> String
  | null => "null"
  | bool true => "boolean `true`"
  | bool false => "boolean `false`"
  | integer n => "integer `" ++ toString n ++ "`"
  | float x => "floating point `" ++ Decimal.written x ++ "`"
  | string s => "string " ++ Text.shown s
  | sequence => "sequence"
  | map => "map"

def Expected.text : Expected -> String
  | string => "a string"
  | boolean => "a boolean"
  | sequence => "a sequence"
  | map => "a map"
  | unit => "unit"
  | record title => "struct " ++ title

def Problem.text : Problem -> String
  | eofInValue => "EOF while parsing a value"
  | eofInList => "EOF while parsing a list"
  | eofInObject => "EOF while parsing an object"
  | eofInString => "EOF while parsing a string"
  | expectedValue => "expected value"
  | expectedIdent => "expected ident"
  | expectedColon => "expected `:`"
  | expectedListCommaOrEnd => "expected `,` or `]`"
  | expectedObjectCommaOrEnd => "expected `,` or `\x7d`"
  | keyMustBeString => "key must be a string"
  | trailingComma => "trailing comma"
  | trailingCharacters => "trailing characters"
  | invalidNumber => "invalid number"
  | numberOutOfRange => "number out of range"
  | invalidEscape => "invalid escape"
  | loneSurrogate => "lone leading surrogate in hex escape"
  | unfinishedSurrogate => "unexpected end of hex escape"
  | controlCharacter => "control character (\\u0000-\\u001F) found while parsing a string"
  | nestedTooDeep => "recursion limit exceeded"
  | wrongType found expected => "invalid type: " ++ found.text ++ ", expected " ++ expected.text
  | unknownVariant name first second =>
    "unknown variant `" ++ name ++ "`, expected `" ++ first ++ "` or `" ++ second ++ "`"
  | noVariant type => "data did not match any variant of untagged enum " ++ type
  | duplicateField name => "duplicate field `" ++ name ++ "`"
  | missingField name => "missing field `" ++ name ++ "`"
  | tooManyElements length =>
    "invalid length " ++ toString length ++ ", expected fewer elements in array"
  | tooFewElements length title =>
    "invalid length " ++ toString length ++ ", expected struct " ++ title ++ " with 1 element"

/-- A place in a text: its line, from one, and the bytes of that line before it. -/
structure Position where
  line : Nat
  column : Nat

/-- The place that is so many bytes into a text; it may lie within a character. -/
def Position.after (start : Position) : Nat -> List Char -> Position
  | _, [] => start
  | bytes, c :: cs =>
    if bytes < c.utf8Size then { start with column := start.column + bytes }
    else if c = '\n' then Position.after { line := start.line + 1, column := 0 } (bytes - 1) cs
    else Position.after { start with column := start.column + c.utf8Size } (bytes - c.utf8Size) cs

def Position.ofOffset (offset : Nat) (text : List Char) : Position :=
  Position.after { line := 1, column := 0 } offset text

/-- A problem and, where the text was at hand, its place. -/
structure Error where
  problem : Problem
  position : Option Position

def Error.text (e : Error) : String :=
  match e.position with
  | some p => e.problem.text ++ " at line " ++ toString p.line ++ " column " ++ toString p.column
  | none => e.problem.text

end Json
end RemoteImports
