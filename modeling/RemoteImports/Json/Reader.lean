import RemoteImports.Json.Number

/-!
# Reading JSON by shape

A text is read for what is expected of it: a value of any shape, a text, a list of
something, a record with known members. What is found in place of the expected shape is
read as far as it takes to name it.

Containers may be nested 127 deep. A value that nobody asked for is passed over whole, and
its nesting is not limited.
-/

namespace RemoteImports
namespace Json

/-- How deep containers may be nested. -/
def greatestDepth : Nat := 127

/-!
## Scalars
-/

/-- Reads a value that is no container; before a container nothing is read. The text
begins with no blank. -/
def readScalar : List Char -> Except Stop (Option Json × List Char)
  | [] => .error (stopAt .eofInValue [])
  | c :: cs =>
    if c = '[' ∨ c = '{' then .ok (none, c :: cs)
    else if c = '"' then
      (readString cs).map fun (text, rest) => (some (string (String.ofList text)), rest)
    else if c = 'n' then (takeWord ['u', 'l', 'l'] cs).map fun rest => (some null, rest)
    else if c = 't' then (takeWord ['r', 'u', 'e'] cs).map fun rest => (some (bool true), rest)
    else if c = 'f' then
      (takeWord ['a', 'l', 's', 'e'] cs).map fun rest => (some (bool false), rest)
    else if c = '-' then (readNumber true cs).map fun (number, rest) => (some number, rest)
    else if c.isDigit then
      (readNumber false (c :: cs)).map fun (number, rest) => (some number, rest)
    else .error (stopOn .expectedValue (c :: cs))

def found : Json -> Found
  | null => .null
  | bool value => .bool value
  | integer value => .integer value
  | float value => .float value
  | string value => .string value
  | array _ => .sequence
  | object _ => .map

/-- Stops at a value of another shape than the expected one. A scalar is read, a container
is not. -/
def refuse (expected : Expected) (cs : List Char) : Stop :=
  match readScalar cs with
  | .error stop => stop
  | .ok (some scalar, rest) => stopAt (.wrongType (found scalar) expected) rest
  | .ok (none, rest) =>
    stopAt (.wrongType (if rest.head? = some '[' then .sequence else .map) expected) rest

def readOnly {α : Type} (expected : Expected) (pick : Json -> Option α) : Reader α := fun cs =>
  let cs := skipBlanks cs
  match readScalar cs with
  | .ok (some scalar, rest) =>
    match pick scalar with
    | some x => .ok (x, rest)
    | none => .error (refuse expected cs)
  | _ => .error (refuse expected cs)

def readText : Reader String :=
  readOnly .string fun
    | string text => some text
    | _ => none

def readBool : Reader Bool :=
  readOnly .boolean fun
    | bool value => some value
    | _ => none

def readNull : Reader Unit :=
  readOnly .unit fun
    | null => some ()
    | _ => none

def readOptional {α : Type} (read : Reader α) : Reader (Option α) := fun cs =>
  match skipBlanks cs with
  | 'n' :: cs => (takeWord ['u', 'l', 'l'] cs).map fun rest => (none, rest)
  | cs => (read cs).map fun (x, rest) => (some x, rest)

/-!
## Arrays and objects
-/

/-- Goes on to the next element of an array: whether there is one, and the text from it or
from the closing bracket. -/
def nextElement (first : Bool) (cs : List Char) : Except Stop (Bool × List Char) :=
  match skipBlanks cs with
  | [] => .error (stopAt .eofInList [])
  | c :: cs =>
    if c = ']' then .ok (false, c :: cs)
    else if first then .ok (true, c :: cs)
    else if c = ',' then
      match skipBlanks cs with
      | [] => .error (stopAt .eofInValue [])
      | d :: cs =>
        if d = ']' then .error (stopOn .trailingComma (d :: cs)) else .ok (true, d :: cs)
    else .error (stopOn .expectedListCommaOrEnd (c :: cs))

/-- Goes on to the next key of an object: whether there is one, and the text from behind
its opening quote or from the closing brace. -/
def nextKey (first : Bool) (cs : List Char) : Except Stop (Bool × List Char) :=
  match skipBlanks cs with
  | [] => .error (stopAt .eofInObject [])
  | c :: cs =>
    if c = '}' then .ok (false, c :: cs)
    else if first then
      if c = '"' then .ok (true, cs) else .error (stopOn .keyMustBeString (c :: cs))
    else if c = ',' then
      match skipBlanks cs with
      | [] => .error (stopAt .eofInValue [])
      | d :: cs =>
        if d = '"' then .ok (true, cs)
        else if d = '}' then .error (stopOn .trailingComma (d :: cs))
        else .error (stopOn .keyMustBeString (d :: cs))
    else .error (stopOn .expectedObjectCommaOrEnd (c :: cs))

def takeColon (cs : List Char) : Except Stop (List Char) :=
  match skipBlanks cs with
  | [] => .error (stopAt .eofInObject [])
  | ':' :: cs => .ok cs
  | c :: cs => .error (stopOn .expectedColon (c :: cs))

def endArray (cs : List Char) : Except Stop (List Char) :=
  match skipBlanks cs with
  | [] => .error (stopAt .eofInList [])
  | ']' :: cs => .ok cs
  | ',' :: cs =>
    match skipBlanks cs with
    | ']' :: cs => .error (stopOn .trailingComma (']' :: cs))
    | cs => .error (stopOn .trailingCharacters cs)
  | c :: cs => .error (stopOn .trailingCharacters (c :: cs))

def endObject (cs : List Char) : Except Stop (List Char) :=
  match skipBlanks cs with
  | [] => .error (stopAt .eofInObject [])
  | '}' :: cs => .ok cs
  | ',' :: cs => .error (stopOn .trailingComma (',' :: cs))
  | c :: cs => .error (stopOn .trailingCharacters (c :: cs))

/-- Where a reading stands after it has tried to end an array. -/
def afterArray (cs : List Char) : List Char :=
  match skipBlanks cs with
  | ']' :: cs => cs
  | ',' :: cs => skipBlanks cs
  | cs => cs

/-- Where a reading stands after it has tried to end an object. -/
def afterObject (cs : List Char) : List Char :=
  match skipBlanks cs with
  | '}' :: cs => cs
  | cs => cs

/-- Ends a container whose inside was read. A pending problem is placed where the end was
tried. -/
def settle {α : Type} (close : List Char -> Except Stop (List Char))
    (after : List Char -> List Char)
    (inside : Except Stop (α × List Char)) : Except Stop (α × List Char) :=
  match inside with
  | .ok (x, cs) => (close cs).map fun rest => (x, rest)
  | .error (.pending problem cs) => .error (stopAt problem (after cs))
  | .error (.placed problem left) => .error (.placed problem left)

/-- Reads elements up to the closing bracket, at most `fuel` of them. -/
def readElements {α : Type} (read : Reader α) : (fuel : Nat) -> (first : Bool) -> Reader (List α)
  | 0, _, cs => .ok ([], cs)
  | fuel + 1, first, cs => do
    let (more, cs) <- nextElement first cs
    if more then
      let (x, cs) <- read cs
      let (xs, cs) <- readElements read fuel false cs
      return (x :: xs, cs)
    else return ([], cs)

/-- Reads members up to the closing brace, at most `fuel` of them, gathering them in
`state`. A member is read from behind its key. -/
def readMembers {σ : Type} (member : String -> σ -> Reader σ) :
    (fuel : Nat) -> (first : Bool) -> σ -> Reader σ
  | 0, _, state, cs => .ok (state, cs)
  | fuel + 1, first, state, cs => do
    let (more, cs) <- nextKey first cs
    if more then
      let (key, cs) <- readString cs
      let (state, cs) <- member (String.ofList key) state cs
      readMembers member fuel false state cs
    else return (state, cs)

def descend {α : Type} (depth : Nat) (cs : List Char) (inside : Nat -> Except Stop α) :
    Except Stop α :=
  match depth with
  | 0 => .error (stopOn .nestedTooDeep cs)
  | depth + 1 => inside depth

/-- Reads a list of elements, which are themselves read one level down. -/
def readList {α : Type} (read : Nat -> Reader α) (depth : Nat) : Reader (List α) := fun cs =>
  match skipBlanks cs with
  | [] => .error (stopAt .eofInValue [])
  | '[' :: cs => descend depth ('[' :: cs) fun depth =>
    settle endArray afterArray (readElements (read depth) cs.length true cs)
  | cs => .error (refuse .sequence cs)

def readObject {σ : Type} (member : Nat -> String -> σ -> Reader σ) (start : σ) (depth : Nat) :
    Reader σ := fun cs =>
  match skipBlanks cs with
  | [] => .error (stopAt .eofInValue [])
  | '{' :: cs => descend depth ('{' :: cs) fun depth =>
    settle endObject afterObject (readMembers (member depth) cs.length true start cs)
  | cs => .error (refuse .map cs)

/-- Reads a member of an object whose values are of one kind. -/
def readEntry {α σ : Type} (read : Reader α) (put : String -> α -> σ -> σ) (key : String)
    (state : σ) :
    Reader σ := fun cs => do
  let (x, cs) <- read (<- takeColon cs)
  return (put key x state, cs)

def readTexts (depth : Nat) : Reader (KeyMap String) :=
  readObject (fun _ => readEntry readText fun key text map => map.insert key text) .empty depth

/-!
## Values of any shape
-/

/-- Reads a value, given how to read one a level down, if that is allowed. -/
def readValueWith (inner : Option (Reader Json)) : Reader Json := fun cs => do
  let cs := skipBlanks cs
  match <- readScalar cs with
  | (some scalar, rest) => return (scalar, rest)
  | (none, cs) =>
    match inner with
    | none => .error (stopOn .nestedTooDeep cs)
    | some read =>
      let inside := cs.drop 1
      if cs.head? = some '[' then
        (settle endArray afterArray (readElements read inside.length true inside)).map
          fun (items, rest) => (array items, rest)
      else
        (settle endObject afterObject
            (readMembers (readEntry read KeyMap.insertEntry) inside.length true [] inside)).map
          fun (members, rest) => (object members, rest)

def readValue : (depth : Nat) -> Reader Json
  | 0 => readValueWith none
  | depth + 1 => readValueWith (some (readValue depth))

/-!
## Values passed over
-/

/-- Passes over a key and its colon, from before its opening quote. -/
def skipKey (cs : List Char) : Except Stop (List Char) := do
  match skipBlanks cs with
  | [] => .error (stopAt .eofInObject [])
  | '"' :: cs => takeColon (<- skipString cs)
  | c :: cs => .error (stopOn .keyMustBeString (c :: cs))

/-- Passes over a value that is no container. The text begins with no blank. -/
def skipScalar : List Char -> Except Stop (List Char)
  | [] => .error (stopAt .eofInValue [])
  | c :: cs =>
    if c = '"' then skipString cs
    else if c = 'n' then takeWord ['u', 'l', 'l'] cs
    else if c = 't' then takeWord ['r', 'u', 'e'] cs
    else if c = 'f' then takeWord ['a', 'l', 's', 'e'] cs
    else if c = '-' then skipNumber cs
    else if c.isDigit then skipNumber (c :: cs)
    else .error (stopOn .expectedValue (c :: cs))

/-- What encloses a value that is passed over, and what comes next there. -/
inductive Skipping where
  | value
  | opened
  | valued
deriving DecidableEq

/-- One step of passing over: the brackets that are open, what comes next, and the text
left. -/
def skipStep (frames : List Char) (state : Skipping) (cs : List Char) :
    Except Stop (List Char × Skipping × List Char) := do
  let cs := skipBlanks cs
  match state, frames, cs with
  | .value, frames, c :: rest =>
    if c = '[' ∨ c = '{' then return (c :: frames, .opened, rest)
    else return (frames, .valued, <- skipScalar (c :: rest))
  | .value, _, [] => .error (stopAt .eofInValue [])
  | _, [], cs => return ([], .valued, cs)
  | _, frame :: _, [] =>
    .error (stopAt (if frame = '[' then .eofInList else .eofInObject) [])
  | state, frame :: frames, c :: rest =>
    if c = (if frame = '[' then ']' else '}') then return (frames, .valued, rest)
    else if state = .valued ∧ c ≠ ',' then
      .error (stopOn (if frame = '[' then .expectedListCommaOrEnd else .expectedObjectCommaOrEnd)
        (c :: rest))
    else
      let next := if state = .valued then rest else c :: rest
      if frame = '[' then return (frame :: frames, .value, next)
      else return (frame :: frames, .value, <- skipKey next)

/-- Passes over what is left of a value, in at most `fuel` steps. -/
def skipRest : (fuel : Nat) -> List Char -> Skipping -> List Char -> Except Stop (List Char)
  | 0, _, _, cs => .ok cs
  | _ + 1, [], .valued, cs => .ok cs
  | fuel + 1, frames, state, cs => do
    let (frames, state, cs) <- skipStep frames state cs
    skipRest fuel frames state cs

def skipValue (cs : List Char) : Except Stop (List Char) :=
  skipRest (2 * cs.length + 2) [] .value cs

/-!
## Records
-/

/-- Reads a member that nobody asked for. -/
def readOther {σ : Type} (state : σ) : Reader σ := fun cs => do
  return (state, <- skipValue (<- takeColon cs))

/-- Reads a member that may be there once. -/
def readOnce {α σ : Type} (name : String) (before : Option α) (read : Reader α) (put : α -> σ) :
    Reader σ := fun cs =>
  if before.isSome then .error (.pending (.duplicateField name) cs)
  else do
    let (x, cs) <- read (<- takeColon cs)
    return (put x, cs)

/-- Reads the next element of a record that is written as an array, if there is one. -/
def readField {α : Type} (first : Bool) (read : Reader α) : Reader (Option α) := fun cs => do
  let (more, cs) <- nextElement first cs
  if more then
    let (x, cs) <- read cs
    return (some x, cs)
  else return (none, cs)

/-- Reads a record: an object of its members, or an array of them in their order. -/
def readRecord {α : Type} (title : String) (ofArray : Nat -> Reader α)
    (ofObject : Nat -> Reader α) (depth : Nat) : Reader α := fun cs =>
  match skipBlanks cs with
  | [] => .error (stopAt .eofInValue [])
  | '[' :: cs =>
    descend depth ('[' :: cs) fun depth => settle endArray afterArray (ofArray depth cs)
  | '{' :: cs => descend depth ('{' :: cs) fun depth =>
    settle endObject afterObject (ofObject depth cs)
  | cs => .error (refuse (.record title) cs)

/-- Reads one of two names that stand for two values, from behind its opening quote. -/
def readName {α : Type} (first second : String × α) : Reader α := fun cs => do
  let (name, cs) <- readString cs
  let name := String.ofList name
  if name = first.1 then return (first.2, cs)
  else if name = second.1 then return (second.2, cs)
  else .error (stopAt (.unknownVariant name first.1 second.1) cs)

/-- Reads one of two values: its name, or an object whose one key is the name and whose
one value is `null`. -/
def readVariant {α : Type} (first second : String × α) (depth : Nat) : Reader α := fun cs =>
  match skipBlanks cs with
  | [] => .error (stopAt .eofInValue [])
  | '"' :: cs => readName first second cs
  | '{' :: cs => descend depth ('{' :: cs) fun _ => do
    match <- nextKey true cs with
    | (false, cs) => .error (stopOn .expectedValue cs)
    | (true, cs) =>
      let (x, cs) <- readName first second cs
      let (_, cs) <- readNull (<- takeColon cs)
      match skipBlanks cs with
      | [] => .error (stopAt .eofInObject [])
      | '}' :: cs => .ok (x, cs)
      | cs => .error (stopAt .expectedValue cs)
  | c :: cs => .error (stopOn .expectedValue (c :: cs))

/-!
## Whole texts
-/

def Stop.error (text : List Char) : Stop -> Error
  | .placed problem left => ⟨problem, some (Position.ofOffset (Text.byteLength text - left) text)⟩
  | .pending problem rest =>
    ⟨problem, some (Position.ofOffset (Text.byteLength text - Text.byteLength rest) text)⟩

def parse {α : Type} (read : Nat -> Reader α) (text : String) : Except Error α :=
  let cs := text.toList
  match read greatestDepth cs with
  | .error stop => .error (stop.error cs)
  | .ok (x, rest) =>
    match skipBlanks rest with
    | [] => .ok x
    | rest => .error ((stopOn .trailingCharacters rest).error cs)

end Json
end RemoteImports
